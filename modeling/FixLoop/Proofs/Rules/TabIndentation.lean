import FixLoop.Proofs.Rules.Keeper
import FixLoop.Proofs.Rules.Runs
import FixLoop.Rules.TabIndentation

/-!
Tab indentation as a rule about runs: a run that holds a tab breaks it where a line starts with the
run, and is replaced by the run with its tabs expanded. Only a run at the start of a line is
replaced, so what a later run looks like does not depend on what is expanded before it.
-/

namespace FixLoop.TabIndentation

/-- Indentations are expanded; the state says whether a line starts. -/
def runs : RunRule where
  start := true
  next c := c == '\n'
  breaks atStart run _ := atStart && '\t' ∈ run
  mend := expand
  breaks_nil := by simp
  next_of_mem := fun c blank => by
    rw [isTabOrSpace, Bool.or_eq_true, beq_iff_eq, beq_iff_eq] at blank
    rcases blank with rfl | rfl <;> rfl
  breaks_inside := fun _ _ => rfl

theorem spansFrom_eq (offset : Nat) (atStart : Bool) (text : Text) :
    spansFrom offset atStart text = runs.spansFrom offset atStart text := by
  induction text generalizing offset atStart with
  | nil => rfl
  | cons c rest ih =>
    rw [spansFrom, RunRule.spansFrom, ih]
    rfl

def rule : Rule := runs.toRule descriptor

theorem spans_eq : rule.spans = spans := funext fun text => (spansFrom_eq 0 true text).symm

variable {text rest result run : Text} {atStart : Bool} {count column : Nat}

theorem mem_expandTabs {size : Nat} (blank : ∀ c ∈ run, isTabOrSpace c = true) :
    ∀ c ∈ Text.expandTabs size column run, c = ' ' := by
  induction run generalizing column with
  | nil => exact nofun
  | cons first run ih =>
    have others : ∀ other ∈ run, isTabOrSpace other = true :=
      fun other member => blank other (List.mem_cons_of_mem _ member)
    intro c member
    rw [Text.expandTabs] at member
    split at member
    · rcases List.mem_append.mp member with new | member
      · exact List.eq_of_mem_replicate new
      · exact ih others c member
    · rename_i other
      rcases List.mem_cons.mp member with rfl | member
      · have space := blank c List.mem_cons_self
        simp only [isTabOrSpace, Bool.or_eq_true, beq_iff_eq] at space
        exact space.resolve_right other
      · exact ih others c member

theorem not_mem_expandTabs {size : Nat} (blank : ∀ c ∈ run, isTabOrSpace c = true) :
    '\t' ∉ Text.expandTabs size column run :=
  fun tab => absurd (mem_expandTabs blank _ tab) (by decide)

theorem expandTabs_of_not_mem {size : Nat} (none : '\t' ∉ text) :
    Text.expandTabs size column text = text := by
  induction text generalizing column with
  | nil => rfl
  | cons c rest ih =>
    obtain ⟨other, none⟩ := List.ne_and_not_mem_of_not_mem_cons none
    rw [Text.expandTabs, if_neg other.symm, ih none]

/-- The run that a text starts with stays if no line starts with it. -/
theorem takeWhile_mended (mended : runs.Mended atStart count text result)
    (inside : atStart = false) :
    result.takeWhile isTabOrSpace = text.takeWhile isTabOrSpace := by
  induction mended with
  | nil => rfl
  | @keep atStart count c rest result later ih =>
    cases blank : isTabOrSpace c with
    | true =>
      rw [List.takeWhile_cons_of_pos blank, List.takeWhile_cons_of_pos blank,
        ih (runs.next_of_mem c blank)]
    | false =>
      have solid : ¬ isTabOrSpace c = true := by simp [blank]
      rw [List.takeWhile_cons_of_neg solid, List.takeWhile_cons_of_neg solid]
  | mend blank whole breaks later ih =>
    rw [inside] at breaks
    exact nomatch breaks

theorem sound : runs.Sound where
  blank := fun run blank c member => by
    rw [mem_expandTabs blank c member]
    rfl
  keeps := fun {state count c rest result} _ later => by
    have same : (c :: result).takeWhile isTabOrSpace = (c :: rest).takeWhile isTabOrSpace := by
      rw [List.takeWhile_cons, List.takeWhile_cons]
      split
      · rename_i blank
        rw [takeWhile_mended later (runs.next_of_mem c blank)]
      · rfl
    change (state && decide ('\t' ∈ (c :: result).takeWhile isTabOrSpace)) =
      (state && decide ('\t' ∈ (c :: rest).takeWhile isTabOrSpace))
    rw [same]
  mends := fun {state count place run rest result} blank whole breaks _ later => by
    have spaces : ∀ c ∈ expand run, isTabOrSpace c = true := fun c member => by
      rw [mem_expandTabs blank c member]
      rfl
    refine RunRule.spansFrom_kept spaces (later.whole whole) ?_
    change (state && decide ('\t' ∈ expand run)) = false
    have none : '\t' ∉ expand run := not_mem_expandTabs blank
    rw [decide_eq_false none, Bool.and_false]

/-- For what breaks the rule one edit is offered. -/
theorem offers_report {σ : Type} {unit : SourceUnit} {document : Document} {span : Nat × Nat}
    (distinct : unit.paths.Nodup) (member : document ∈ unit.documents)
    (broken : span ∈ rule.spans document.text) :
    (offers : Offers σ) (rule.report document span) unit =
      [.answer (some {
        title := descriptor.title, key := descriptor.id, edits := [rule.edit document span] })] := by
  have found : unit.document? (rule.report document span).location.path = some document :=
    SourceUnit.document?_of_mem distinct member
  obtain ⟨state, rest, breaks⟩ :=
    (runs.walk 0 true document.text).breaks_of_mem ⟨[], rfl, rfl⟩ span broken
  have tab : '\t' ∈ Text.slice document.text span.1 span.2 :=
    of_decide_eq_true (Bool.and_eq_true_iff.mp breaks).2
  change List.map _ (Option.toList (Option.bind _ _)) = _
  rw [found, Option.bind_some, edit?]
  change List.map _ (Option.toList
    (if '\t' ∈ Text.slice document.text span.1 span.2 then _ else _)) = _
  rw [if_pos tab]
  rfl

variable {σ : Type}

def keeper : Keeper σ where
  rule
  analyzer
  fixer
  lawful := sound.lawful descriptor
  severity := rfl
  declares := rfl
  analyzes := fun unit => by
    change Callback.answer (diagnostics unit) = .answer (rule.diagnostics unit)
    rw [Rule.diagnostics, spans_eq]
    rfl
  fixableIds := rfl
  able := rfl
  offers := fun _ tidy _ member _ broken => offers_report tidy.distinct member broken
  fixAll := rfl

/-! ### Texts without tabs in indentations -/

/-- Whether no tab stands in an indentation, in a text that starts in one or not. -/
def isTabFree : Bool → Text → Bool
  | _, [] => true
  | leading, c :: rest =>
    !(leading && c == '\t') && isTabFree (c == '\n' || leading && isTabOrSpace c) rest

/-- A text with the tabs in its indentations expanded; a text that starts in one, starts at a
column of it. -/
def untabbed : Option Nat → Text → Text
  | _, [] => []
  | none, c :: rest => c :: untabbed (if c = '\n' then some 0 else none) rest
  | some column, c :: rest =>
    if c = '\t' then
      let width := tabSize - column % tabSize
      List.replicate width ' ' ++ untabbed (some (column + width)) rest
    else if c = ' ' then c :: untabbed (some (column + 1)) rest
    else c :: untabbed (if c = '\n' then some 0 else none) rest

theorem isTabFree_false (c : Char) (rest : Text) :
    isTabFree false (c :: rest) = isTabFree (c == '\n') rest := by
  rw [isTabFree]
  exact congrArg (isTabFree · rest) (Bool.or_false _)

theorem isTabFree_true (text : Text) : isTabFree true text =
    (!decide ('\t' ∈ text.takeWhile isTabOrSpace) && isTabFree false text) := by
  induction text with
  | nil => rfl
  | cons c rest ih =>
    rw [isTabFree_false]
    cases blank : isTabOrSpace c with
    | true =>
      have line : (c == '\n') = false := runs.next_of_mem c blank
      rw [isTabFree, blank, line, List.takeWhile_cons_of_pos blank]
      change (!(c == '\t') && isTabFree true rest) = _
      rw [ih, ← Bool.and_assoc, ← Bool.not_or]
      congr 2
      by_cases same : c = '\t'
      · simp [same]
      · simp [same, Ne.symm same]
    | false =>
      have solid : ¬ isTabOrSpace c = true := by simp [blank]
      have other : (c == '\t') = false := (Bool.or_eq_false_iff.mp blank).2
      rw [isTabFree, blank, other, List.takeWhile_cons_of_neg solid]
      exact congrArg (isTabFree · rest) (Bool.or_false _)

theorem spansFrom_eq_nil (offset : Nat) (atStart : Bool) (text : Text) :
    spansFrom offset atStart text = [] ↔ isTabFree atStart text = true := by
  induction text generalizing offset atStart with
  | nil => exact iff_of_true rfl rfl
  | cons c rest ih =>
    have later := ih (offset + 1) (c == '\n')
    rw [← isTabFree_false] at later
    rw [spansFrom]
    cases atStart with
    | false => exact later
    | true =>
      rw [isTabFree_true]
      by_cases tab : '\t' ∈ (c :: rest).takeWhile isTabOrSpace
      · simp [tab]
      · simp [tab, later]

theorem spans_eq_nil (text : Text) : rule.spans text = [] ↔ isTabFree true text = true := by
  rw [spans_eq]
  exact spansFrom_eq_nil 0 true text

theorem untabbed_solid {c : Char} (solid : isTabOrSpace c = false) (rest : Text)
    (column : Option Nat) :
    untabbed column (c :: rest) = c :: untabbed (if c = '\n' then some 0 else none) rest := by
  simp only [isTabOrSpace, Bool.or_eq_false_iff, beq_eq_false_iff_ne, ne_eq] at solid
  cases column with
  | none => rw [untabbed]
  | some column => rw [untabbed, if_neg solid.2, if_neg solid.1]

theorem untabbed_of_isTabFree {column : Option Nat}
    (free : isTabFree column.isSome text = true) : untabbed column text = text := by
  induction text generalizing column with
  | nil => rw [untabbed]
  | cons c rest ih =>
    obtain ⟨here, later⟩ := Bool.and_eq_true_iff.mp free
    cases blank : isTabOrSpace c with
    | false =>
      rw [blank, Bool.and_false, Bool.or_false] at later
      have rested : untabbed (if c = '\n' then some 0 else none) rest = rest := by
        refine ih ?_
        by_cases line : c = '\n'
        · rw [beq_iff_eq.mpr line] at later
          rwa [if_pos line]
        · rw [beq_eq_false_iff_ne.mpr line] at later
          rwa [if_neg line]
      rw [untabbed_solid blank, rested]
    | true =>
      have line : (c == '\n') = false := runs.next_of_mem c blank
      have other : ¬ c = '\n' := by simpa using line
      rw [blank, line, Bool.false_or, Bool.and_true] at later
      cases column with
      | none => rw [untabbed, if_neg other, ih later]
      | some column =>
        have tab : ¬ c = '\t' := by simpa using here
        have space : c = ' ' := by
          simp only [isTabOrSpace, Bool.or_eq_true, beq_iff_eq] at blank
          exact blank.resolve_right tab
        have rested : untabbed (some (column + 1)) rest = rest := ih later
        rw [untabbed, if_neg tab, if_pos space, rested]

/-- A character becomes itself or spaces, and a line feed stays. -/
theorem exists_untabbed_cons (column : Option Nat) (c : Char) :
    ∃ before next, (∀ rest, untabbed column (c :: rest) = before ++ untabbed next rest) ∧
      (before = [c] ∨ before ≠ [] ∧ c ≠ '\n' ∧ ∀ other ∈ before, other = ' ') := by
  cases column with
  | none => exact ⟨[c], _, fun _ => by rw [untabbed]; rfl, .inl rfl⟩
  | some column =>
    by_cases tab : c = '\t'
    · refine ⟨List.replicate (tabSize - column % tabSize) ' ', _, fun rest => by
        rw [untabbed, if_pos tab], .inr ⟨?_, ?_, fun _ => List.eq_of_mem_replicate⟩⟩
      · have short : column % tabSize < tabSize := Nat.mod_lt _ (by decide)
        simp only [ne_eq, List.replicate_eq_nil_iff]
        omega
      · rintro rfl
        cases tab
    · by_cases space : c = ' '
      · exact ⟨[c], _, fun _ => by rw [untabbed, if_neg tab, if_pos space]; rfl, .inl rfl⟩
      · exact ⟨[c], _, fun _ => by rw [untabbed, if_neg tab, if_neg space]; rfl, .inl rfl⟩

theorem untabbed_append_newline (column : Option Nat) (text : Text) :
    untabbed column (text ++ ['\n']) = untabbed column text ++ ['\n'] := by
  induction text generalizing column with
  | nil =>
    rw [List.nil_append, untabbed_solid rfl]
    unfold untabbed
    rfl
  | cons c rest ih =>
    obtain ⟨before, next, same, -⟩ := exists_untabbed_cons column c
    rw [List.cons_append, same, same, ih, List.append_assoc]

theorem untabbed_eq_nil {column : Option Nat} : untabbed column text = [] ↔ text = [] := by
  cases text with
  | nil => rw [untabbed]
  | cons c rest =>
    obtain ⟨before, next, same, rfl | ⟨some, -⟩⟩ := exists_untabbed_cons column c
    · simp [same]
    · simp [same, some]

theorem getLast?_untabbed (column : Option Nat) (text : Text) :
    (untabbed column text).getLast? = some '\n' ↔ text.getLast? = some '\n' := by
  induction text generalizing column with
  | nil => rw [untabbed]
  | cons c rest ih =>
    obtain ⟨before, next, same, kind⟩ := exists_untabbed_cons column c
    rw [same, List.getLast?_append, List.getLast?_cons]
    by_cases empty : rest = []
    · subst empty
      rw [untabbed_eq_nil.mpr rfl, List.getLast?_nil, Option.none_or]
      rcases kind with rfl | ⟨some, other, spaces⟩
      · rfl
      · refine iff_of_false (fun last => ?_) (fun last => other (Option.some.inj last))
        exact absurd (spaces _ (List.mem_of_getLast? last)) (by decide)
    · obtain ⟨last, ends⟩ := List.getLast?_isSome.mpr empty |> Option.isSome_iff_exists.mp
      have filled : untabbed next rest ≠ [] := fun nothing => empty (untabbed_eq_nil.mp nothing)
      obtain ⟨end_, closes⟩ := List.getLast?_isSome.mpr filled |> Option.isSome_iff_exists.mp
      have later := ih next
      rw [closes, ends] at later ⊢
      exact later

/-- What follows an indentation does not depend on its width. -/
theorem untabbed_whole (whole : text.takeWhile isTabOrSpace = []) (column : Option Nat) :
    untabbed column text = untabbed none text := by
  cases text with
  | nil => rw [untabbed, untabbed]
  | cons c rest =>
    have solid : isTabOrSpace c = false := by
      by_contra blank
      rw [List.takeWhile_cons_of_pos (by simpa using blank)] at whole
      cases whole
    rw [untabbed_solid solid, untabbed_solid solid]

theorem untabbed_run (blank : ∀ c ∈ run, isTabOrSpace c = true)
    (whole : rest.takeWhile isTabOrSpace = []) :
    untabbed (some column) (run ++ rest) =
      Text.expandTabs tabSize column run ++ untabbed none rest := by
  induction run generalizing column with
  | nil => exact untabbed_whole whole _
  | cons c run ih =>
    have others (column : Nat) : untabbed (some column) (run ++ rest) =
        Text.expandTabs tabSize column run ++ untabbed none rest :=
      ih fun other member => blank other (List.mem_cons_of_mem _ member)
    have space := blank c List.mem_cons_self
    simp only [isTabOrSpace, Bool.or_eq_true, beq_iff_eq] at space
    rw [List.cons_append, untabbed, Text.expandTabs]
    rcases space with rfl | rfl
    · rw [if_neg (by decide), if_pos rfl, if_neg (by decide), if_neg (by decide), others]
      rfl
    · rw [if_pos rfl, if_pos rfl]
      dsimp only
      rw [others, List.append_assoc]

/-- Mending some of the indentations does not change what is left without tabs in all of them. -/
theorem untabbed_mended (mended : runs.Mended atStart count text result) (column : Option Nat)
    (start : atStart = true → column = some 0) :
    untabbed column result = untabbed column text := by
  induction mended generalizing column with
  | nil => rfl
  | @keep atStart count c rest result later ih =>
    have next (column : Option Nat) (line : c = '\n' → column = some 0) :
        untabbed column result = untabbed column rest :=
      ih column fun same => line (beq_iff_eq.mp same)
    cases column with
    | none =>
      rw [untabbed, untabbed, next]
      exact fun line => if_pos line
    | some column =>
      rw [untabbed, untabbed]
      by_cases tab : c = '\t'
      · rw [if_pos tab, if_pos tab]
        dsimp only
        rw [next]
        rintro rfl
        cases tab
      · rw [if_neg tab, if_neg tab]
        by_cases space : c = ' '
        · rw [if_pos space, if_pos space, next]
          rintro rfl
          cases space
        · rw [if_neg space, if_neg space, next]
          exact fun line => if_pos line
  | @mend atStart count run rest result blank whole breaks later ih =>
    obtain ⟨here, -⟩ := Bool.and_eq_true_iff.mp breaks
    have spaces : ∀ c ∈ expand run, isTabOrSpace c = true := sound.blank run blank
    have none : '\t' ∉ expand run := not_mem_expandTabs blank
    rw [start here]
    change untabbed (some 0) (expand run ++ result) = _
    rw [untabbed_run blank whole, untabbed_run spaces (later.whole whole),
      expandTabs_of_not_mem none, ih _ nofun]
    rfl

end FixLoop.TabIndentation
