import FixLoop.Proofs.Rules.Keeper
import FixLoop.Proofs.Rules.Separate
import FixLoop.Rules.FinalNewline

/-!
Final newlines as a rule: a text that holds anything and does not end with a line feed breaks it at
its end, once, and a line feed is put there.
-/

namespace FixLoop.FinalNewline

/-- Whether a text is empty or ends with a line feed. -/
def isEnded (text : Text) : Bool := text.isEmpty || endsWithNewline text

/-- A text with a line feed at its end, unless it is empty. -/
def ended (text : Text) : Text := if isEnded text then text else text ++ ['\n']

def rule : Rule where
  descriptor
  spans text := if isEnded text then [] else [(text.length, text.length)]
  edit document span := {
    path := document.path, start := span.1, stop := span.2, text := ['\n'] }
  mends text result := result = text ∨ result = ended text

variable {text result : Text} {document : Document} {taken : List TextEdit}

theorem spans_eq_nil (text : Text) : rule.spans text = [] ↔ isEnded text = true := by
  change (if isEnded text then _ else _) = [] ↔ _
  split <;> simp [*]

theorem ended_of_isEnded (ends : isEnded text = true) : ended text = text := if_pos ends

theorem isEnded_append (text : Text) : isEnded (text ++ ['\n']) = true := by
  simp [isEnded, endsWithNewline]

theorem isEnded_ended (text : Text) : isEnded (ended text) = true := by
  unfold ended
  split
  · assumption
  · exact isEnded_append text

theorem ended_mended (mends : rule.mends text result) : ended result = ended text := by
  rcases mends with rfl | rfl
  · rfl
  · exact ended_of_isEnded (isEnded_ended text)

theorem separate (document : Document) : rule.Separate document where
  path := fun _ => rfl
  within := fun span broken => by
    obtain ⟨-, broken⟩ := List.mem_ite_nil_left.mp broken
    rw [List.mem_singleton.mp broken]
    change ((0 : Nat) : Int) ≤ document.text.length ∧
      (document.text.length : Int) ≤ document.text.length ∧
        (document.text.length : Int) ≤ (0 : Nat) + document.text.length
    omega
  behind := by
    change ((if isEnded document.text then _ else [_] : List (Nat × Nat)).map _).Pairwise _
    split
    · exact .nil
    · exact List.pairwise_singleton _ _

/-- What is put at the end ends the text. -/
theorem patched_end {edit : TextEdit} (patched : TextEdit.Patched 0 text [edit] result)
    (start : edit.start = text.length) (stop : edit.stop = text.length) :
    result = text ++ edit.text := by
  have whole : TextEdit.Patched 0 (text ++ []) [edit] result := by rwa [List.append_nil]
  obtain ⟨later, rfl, onward⟩ := whole.skip fun other member => by
    rw [List.mem_singleton.mp member]
    omega
  have here : TextEdit.Patched (0 + text.length) ([] ++ []) [edit] later := onward
  obtain ⟨rest, rfl, nothing⟩ := here.take (by omega) (by simp; omega)
  rw [nothing.eq_of_nil, List.append_nil]

theorem mends_of_patched
    (part : taken.Sublist ((rule.spans document.text).map (rule.edit document)))
    (patched : TextEdit.Patched 0 document.text taken result) :
    rule.mends document.text result ∧
      (rule.spans result).length + taken.length ≤ (rule.spans document.text).length := by
  cases ends : isEnded document.text with
  | true =>
    rw [(spans_eq_nil _).mpr ends] at part ⊢
    obtain rfl := List.sublist_nil.mp part
    rw [patched.eq_of_nil, (spans_eq_nil _).mpr ends]
    exact ⟨.inl rfl, Nat.le_refl _⟩
  | false =>
    have single : rule.spans document.text = [(document.text.length, document.text.length)] :=
      if_neg (by simp [ends])
    rw [single] at part ⊢
    rcases List.sublist_singleton.mp part with rfl | rfl
    · rw [patched.eq_of_nil, single]
      exact ⟨.inl rfl, Nat.le_refl _⟩
    · have appended : result = document.text ++ ['\n'] := patched_end patched rfl rfl
      subst appended
      rw [(spans_eq_nil _).mpr (isEnded_append _)]
      exact ⟨.inr (if_neg (by simp [ends])).symm, Nat.le_refl _⟩

theorem lands : rule.Lands := fun {document _ _} distinct among accepts =>
  let ⟨_, result, part, _, applied, patched⟩ :=
    (separate document).exists_patched among accepts distinct
  ⟨result, applied, (mends_of_patched part patched).1⟩

theorem isTidy_append_newline (tidy : text.isTidy = true) : (text ++ ['\n']).isTidy = true := by
  induction text with
  | nil => rfl
  | cons c rest ih =>
    simp only [List.cons_append, Text.isTidy, Bool.and_eq_true, Bool.or_eq_true,
      beq_iff_eq] at tidy ⊢
    refine ⟨tidy.1.imp_right fun head => ?_, ih tidy.2⟩
    rw [List.head?_append, head]
    rfl

theorem lawful : rule.Lawful where
  ascending := fun text => by
    change (if isEnded text then _ else [_] : List (Nat × Nat)).Pairwise _
    split
    · exact .nil
    · exact List.pairwise_singleton _ _
  path := fun _ _ => rfl
  tidy := fun {text result} tidy mends => by
    rcases mends with rfl | rfl
    · exact tidy
    · unfold ended
      split
      · exact tidy
      · exact isTidy_append_newline tidy
  lands := fun {document chosen edits} _ distinct among accepts => by
    obtain ⟨taken, result, part, many, applied, patched⟩ :=
      (separate document).exists_patched among accepts distinct
    obtain ⟨mends, fewer⟩ := mends_of_patched part patched
    exact ⟨result, applied, mends, by omega⟩

/-- For what breaks the rule one edit is offered. -/
theorem offers_report {σ : Type} {unit : SourceUnit} {span : Nat × Nat}
    (distinct : unit.paths.Nodup) (member : document ∈ unit.documents)
    (broken : span ∈ rule.spans document.text) :
    (offers : Offers σ) (rule.report document span) unit =
      [.answer (some {
        title := descriptor.title, key := descriptor.id, edits := [rule.edit document span] })] := by
  have found : unit.document? (rule.report document span).location.path = some document :=
    SourceUnit.document?_of_mem distinct member
  obtain ⟨open_, broken⟩ := List.mem_ite_nil_left.mp broken
  have unended : ¬ endsWithNewline document.text = true := by
    simp only [isEnded, Bool.or_eq_true, not_or] at open_
    exact open_.2
  rw [List.mem_singleton.mp broken] at found ⊢
  change List.map _ (Option.toList (Option.bind _ _)) = _
  rw [found, Option.bind_some, edit?, if_neg unended]
  rfl

variable {σ : Type}

def keeper : Keeper σ where
  rule
  analyzer
  fixer
  lawful
  severity := rfl
  declares := rfl
  analyzes := fun unit => by
    have each (document : Document) : (diagnostic? document).toList =
        (rule.spans document.text).map (rule.report document) := by
      change (if isEnded document.text then _ else _ : Option Diagnostic).toList =
        (if isEnded document.text then _ else _ : List (Nat × Nat)).map _
      split <;> rfl
    change Callback.answer (diagnostics unit) = .answer (rule.diagnostics unit)
    rw [diagnostics, List.filterMap_eq_flatMap_toList, funext each]
    rfl
  fixableIds := rfl
  able := rfl
  offers := fun _ tidy _ member _ broken => offers_report tidy.distinct member broken
  fixAll := rfl

end FixLoop.FinalNewline
