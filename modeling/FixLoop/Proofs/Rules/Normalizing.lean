import FixLoop.Proofs.Rules.Converging
import FixLoop.Proofs.Rules.Interplay
import FixLoop.Rules.Builtin
import FixLoop.Rules.Compilers
import Mathlib.Data.List.DropRight

/-!
Normal texts. Fixing a unit of plain text does the same to each of its texts as going through it
line by line: what trails on a line is cut off, the tabs in its indentation are expanded, and the
last line is ended.
-/

namespace FixLoop

namespace Text

/-- A line without what trails on it, and with the tabs in its indentation expanded. -/
def normalLine (line : Text) : Text :=
  let kept := trimRightOf isTabOrSpace line
  let indentation := kept.takeWhile isTabOrSpace
  if '\t' ∈ indentation then
    expandTabs 4 0 indentation ++ kept.dropWhile isTabOrSpace
  else kept

/-- A text with all lines normal and with a line feed at its end, unless it is empty. -/
def normalized (text : Text) : Text :=
  let lines := (brokenLines text).flatMap fun (line, ending) => normalLine line ++ ending
  if lines.isEmpty || lines.getLast? == some '\n' then lines else lines ++ ['\n']

/-- The first line of a text, and how the text goes on. -/
structure FirstLine (text line ending rest : Text) : Prop where
  whole : text = line ++ (ending ++ rest)
  inLine : ∀ c ∈ line, c ≠ '\n' ∧ c ≠ '\r'
  ends : ending = ['\n'] ∨ ending = ['\r', '\n'] ∨ ending = [] ∧ rest = []
  filled : line ++ ending ≠ []
  lines : brokenLines text = (line, ending) :: brokenLines rest

variable {text line ending rest : Text}

theorem exists_firstLine (tidy : text.isTidy = true) (filled : text ≠ []) :
    ∃ line ending rest, FirstLine text line ending rest := by
  induction text with
  | nil => exact absurd rfl filled
  | cons c rest ih =>
    obtain ⟨head, tidy⟩ := Bool.and_eq_true_iff.mp tidy
    by_cases newline : c = '\n'
    · subst newline
      exact ⟨[], ['\n'], rest, rfl, nofun, .inl rfl, nofun, rfl⟩
    by_cases carriage : c = '\r'
    · subst carriage
      obtain ⟨more, rfl⟩ := List.head?_eq_some_iff.mp (beq_iff_eq.mp head)
      exact ⟨[], ['\r', '\n'], more, rfl, nofun, .inr (.inl rfl), nofun, rfl⟩
    have apart : ∀ more, c = '\r' → rest ≠ '\n' :: more := fun _ same => absurd same carriage
    have goesOn := brokenLines_cons newline apart
    cases empty : rest with
    | nil =>
      subst empty
      refine ⟨[c], [], [], rfl, ?_, .inr (.inr ⟨rfl, rfl⟩), nofun, goesOn⟩
      intro other member
      rw [List.mem_singleton.mp member]
      exact ⟨newline, carriage⟩
    | cons d more =>
      rw [← empty]
      obtain ⟨line, ending, after, first⟩ := ih tidy (by simp [empty])
      refine ⟨c :: line, ending, after, congrArg (c :: ·) first.whole, ?_, first.ends, nofun, ?_⟩
      · intro other member
        rcases List.mem_cons.mp member with rfl | member
        · exact ⟨newline, carriage⟩
        · exact first.inLine other member
      · rw [goesOn, first.lines]

theorem FirstLine.length_rest (first : FirstLine text line ending rest) :
    rest.length < text.length := by
  have filled := List.length_pos_of_ne_nil first.filled
  rw [first.whole, ← List.append_assoc, List.length_append]
  omega

theorem FirstLine.isTidy_rest (first : FirstLine text line ending rest)
    (tidy : text.isTidy = true) : rest.isTidy = true := by
  rw [first.whole, ← List.append_assoc] at tidy
  exact isTidy_of_append tidy

open TrailingWhitespace TabIndentation

/-- No line ends behind a space or tab of a line that nothing trails on. -/
theorem endsLine_in_line {c : Char} {tail : Text} (inLine : ∀ c ∈ line, c ≠ '\n' ∧ c ≠ '\r')
    (last : ¬ isTabOrSpace ((c :: line).getLast (List.cons_ne_nil c line)) = true) :
    (isTabOrSpace c && endsLine (line ++ tail)) = false := by
  cases line with
  | nil =>
    have solid : isTabOrSpace c = false := Bool.eq_false_iff.mpr last
    rw [solid, Bool.false_and]
  | cons d line =>
    obtain ⟨newline, carriage⟩ := inLine d List.mem_cons_self
    rw [List.cons_append, endsLine_cons, beq_eq_false_iff_ne.mpr newline,
      beq_eq_false_iff_ne.mpr carriage]
    exact Bool.and_false _

/-- In a line that nothing trails on, no space or tab is deleted. -/
theorem stripped_line {tail : Text} (inLine : ∀ c ∈ line, c ≠ '\n' ∧ c ≠ '\r')
    (last : ∀ filled : line ≠ [], ¬ isTabOrSpace (line.getLast filled) = true) :
    stripped (line ++ tail) = line ++ stripped tail := by
  induction line with
  | nil => rfl
  | cons c line ih =>
    have inRest := fun other member => inLine other (List.mem_cons_of_mem _ member)
    have later : stripped (line ++ tail) = line ++ stripped tail := by
      refine ih inRest fun filled => ?_
      rw [← List.getLast_cons filled]
      exact last nofun
    rw [List.cons_append, stripped, later, endsLine_in_line inRest (last _)]
    rfl

theorem untabbed_rest {tail : Text} (inLine : ∀ c ∈ line, c ≠ '\n' ∧ c ≠ '\r') :
    untabbed none (line ++ tail) = line ++ untabbed none tail := by
  induction line with
  | nil => rfl
  | cons c line ih =>
    have other := (inLine c List.mem_cons_self).1
    rw [List.cons_append, untabbed, if_neg other,
      ih fun other member => inLine other (List.mem_cons_of_mem _ member)]
    rfl

theorem untabbed_line {tail : Text} (inLine : ∀ c ∈ line, c ≠ '\n' ∧ c ≠ '\r')
    (whole : tail.takeWhile isTabOrSpace = []) :
    untabbed (some 0) (line ++ tail) =
      (if '\t' ∈ line.takeWhile isTabOrSpace then
        expandTabs 4 0 (line.takeWhile isTabOrSpace) ++ line.dropWhile isTabOrSpace
      else line) ++ untabbed none tail := by
  have split := List.takeWhile_append_dropWhile (p := isTabOrSpace) (l := line)
  have blank : ∀ c ∈ line.takeWhile isTabOrSpace, isTabOrSpace c = true :=
    fun _ member => List.mem_takeWhile_imp member
  have own := RunRule.takeWhile_dropWhile line
  have behind : ∀ c ∈ line.dropWhile isTabOrSpace, c ≠ '\n' ∧ c ≠ '\r' :=
    fun c member => inLine c ((List.dropWhile_sublist _).subset member)
  generalize line.takeWhile isTabOrSpace = run, line.dropWhile isTabOrSpace = body at *
  subst split
  have beyond : (body ++ tail).takeWhile isTabOrSpace = [] := by
    cases body with
    | nil => exact whole
    | cons c body =>
      have solid : ¬ isTabOrSpace c = true := fun blank =>
        nomatch (List.takeWhile_cons_of_pos blank).symm.trans own
      exact List.takeWhile_cons_of_neg solid
  rw [List.append_assoc, untabbed_run blank beyond, untabbed_rest behind, ← List.append_assoc]
  split
  · rfl
  · rename_i free
    rw [expandTabs_of_not_mem free]

theorem endsLine_ending (first : FirstLine text line ending rest) {tail : Text}
    (same : rest = [] → tail = []) : endsLine (ending ++ tail) = true := by
  rcases first.ends with rfl | rfl | ⟨rfl, empty⟩
  · rfl
  · rfl
  · rw [same empty]
    rfl

/-- A text is made normal line by line. -/
theorem untabbed_stripped_line (first : FirstLine text line ending rest) :
    untabbed (some 0) (stripped text) =
      normalLine line ++ ending ++ untabbed (some 0) (stripped rest) := by
  have trailing : line.rdropWhile isTabOrSpace ++ line.rtakeWhile isTabOrSpace = line :=
    List.rdropWhile_append_rtakeWhile
  have blank : ∀ c ∈ line.rtakeWhile isTabOrSpace, isTabOrSpace c = true :=
    fun _ member => List.mem_rtakeWhile_imp member
  have last := fun filled => List.rdropWhile_last_not isTabOrSpace line filled
  have kept : trimRightOf isTabOrSpace line = line.rdropWhile isTabOrSpace := rfl
  have inLine : ∀ c ∈ line.rdropWhile isTabOrSpace, c ≠ '\n' ∧ c ≠ '\r' :=
    fun c member => first.inLine c ((List.rdropWhile_prefix isTabOrSpace line).subset member)
  have ends : endsLine (ending ++ rest) = true := endsLine_ending first id
  have whole : (ending ++ stripped rest).takeWhile isTabOrSpace = [] := by
    refine takeWhile_of_endsLine (endsLine_ending first ?_)
    rintro rfl
    rfl
  have broken : stripped (ending ++ rest) = ending ++ stripped rest := by
    rcases first.ends with rfl | rfl | ⟨rfl, rfl⟩ <;> rfl
  have after : untabbed none (ending ++ stripped rest) =
      ending ++ untabbed (some 0) (stripped rest) := by
    rcases first.ends with rfl | rfl | ⟨rfl, rfl⟩
    · rfl
    · rfl
    · unfold untabbed
      rfl
  have expanded := untabbed_line inLine whole
  rw [first.whole, normalLine, kept, List.append_assoc, ← after, ← expanded, ← broken,
    ← stripped_run blank ends, ← stripped_line inLine last,
    ← List.append_assoc _ _ (ending ++ rest), trailing]

theorem flatMap_normalLine (text : Text) (tidy : text.isTidy = true) :
    ((brokenLines text).flatMap fun (line, ending) => normalLine line ++ ending) =
      untabbed (some 0) (stripped text) := by
  induction size : text.length using Nat.strong_induction_on generalizing text with
  | _ size ih =>
    subst size
    by_cases empty : text = []
    · subst empty
      unfold stripped untabbed brokenLines
      rfl
    · obtain ⟨line, ending, rest, first⟩ := exists_firstLine tidy empty
      rw [first.lines, List.flatMap_cons, untabbed_stripped_line first,
        ih _ first.length_rest rest (first.isTidy_rest tidy) rfl]

theorem isEnded_untabbed (column : Option Nat) (text : Text) :
    FinalNewline.isEnded (untabbed column text) = FinalNewline.isEnded text := by
  rw [Bool.eq_iff_iff]
  simp only [FinalNewline.isEnded, FinalNewline.endsWithNewline, Bool.or_eq_true, beq_iff_eq,
    List.isEmpty_iff, untabbed_eq_nil, getLast?_untabbed]

theorem untabbed_ended (column : Option Nat) (text : Text) :
    untabbed column (FinalNewline.ended text) = FinalNewline.ended (untabbed column text) := by
  unfold FinalNewline.ended
  rw [isEnded_untabbed]
  split
  · rfl
  · exact untabbed_append_newline column text

/-- Making a text normal is mending its rules one after another. -/
theorem normalized_eq (tidy : text.isTidy = true) :
    normalized text = untabbed (some 0) (FinalNewline.ended (stripped text)) := by
  rw [normalized, flatMap_normalLine text tidy, untabbed_ended]
  rfl

end Text

/-! ### What is left when a rule about white space is mended -/

variable {text result : Text}

theorem TrailingWhitespace.eq_stripped_of_cleans (cleans : rule.Cleans text result) :
    result = stripped text := by
  refine cleans.eq_form (fun mends => ?_) fun clean => ?_
  · obtain ⟨count, mended⟩ := mends
    exact stripped_mended mended
  · exact stripped_of_isTrimmed ((spans_eq_nil _).mp clean)

theorem FinalNewline.eq_ended_of_cleans (cleans : rule.Cleans text result) :
    result = ended text :=
  cleans.eq_form ended_mended fun clean => ended_of_isEnded ((spans_eq_nil _).mp clean)

theorem TabIndentation.eq_untabbed_of_cleans (cleans : rule.Cleans text result) :
    result = untabbed (some 0) text := by
  refine cleans.eq_form (fun mends => ?_) fun clean => ?_
  · obtain ⟨count, mended⟩ := mends
    exact untabbed_mended mended _ fun _ => rfl
  · exact untabbed_of_isTabFree ((spans_eq_nil _).mp clean)

namespace Builtin

variable {σ : Type}

/-- The keepers of the rules about white space, which apply to all languages. -/
def whitespaceKeepers (σ : Type) : List (Keeper σ) :=
  [TrailingWhitespace.keeper, FinalNewline.keeper, TabIndentation.keeper]

theorem ascending_whitespaceKeepers (σ : Type) :
    ((whitespaceKeepers σ).map (·.id)).Pairwise (· < ·) := by
  change (["CF0002", "CF0003", "CF0004"] : List String).Pairwise (· < ·)
  decide

theorem distinct_whitespaceKeepers (σ : Type) : ((whitespaceKeepers σ).map (·.id)).Nodup :=
  (ascending_whitespaceKeepers σ).imp String.ne_of_lt

theorem stays_whitespaceKeepers : ∀ keeper ∈ whitespaceKeepers σ, ∀ ids,
    keeper.Stays (whitespaceKeepers σ) ids := by
  intro keeper member ids other among _ apart
  simp only [whitespaceKeepers, List.mem_cons, List.not_mem_nil, or_false] at member among
  rcases member with rfl | rfl | rfl <;> rcases among with rfl | rfl | rfl
  · exact absurd rfl apart
  · exact TrailingWhitespace.withstands_finalNewline
  · exact TrailingWhitespace.withstands_tabIndentation
  · exact FinalNewline.withstands_runs _ _
  · exact absurd rfl apart
  · exact FinalNewline.withstands_runs _ _
  · exact TabIndentation.withstands_trailingWhitespace
  · exact TabIndentation.withstands_finalNewline
  · exact absurd rfl apart

/-- Mending all rules about white space, in the order of their identifiers, makes a text normal. -/
theorem normalized_of_chain {text result : Text} (tidy : text.isTidy = true)
    (chain : Keeper.Chain (whitespaceKeepers σ) ((whitespaceKeepers σ).map (·.id)) text result) :
    result = text.normalized := by
  have distinct := distinct_whitespaceKeepers σ
  have first : TrailingWhitespace.keeper ∈ whitespaceKeepers σ := by simp [whitespaceKeepers]
  have second : FinalNewline.keeper ∈ whitespaceKeepers σ := by simp [whitespaceKeepers]
  have third : TabIndentation.keeper ∈ whitespaceKeepers σ := by simp [whitespaceKeepers]
  obtain ⟨trimmed, trims, chain⟩ := chain.uncons distinct first
  obtain ⟨ended, ends, chain⟩ := chain.uncons distinct second
  obtain ⟨expanded, expands, chain⟩ := chain.uncons distinct third
  rw [chain.eq_of_nil, TabIndentation.eq_untabbed_of_cleans expands,
    FinalNewline.eq_ended_of_cleans ends, TrailingWhitespace.eq_stripped_of_cleans trims,
    Text.normalized_eq tidy]

/-- Mending those that a unit breaks makes its texts normal. -/
theorem normalized_of_brokenIds {unit : SourceUnit} {document : Document} {result : Text}
    (member : document ∈ unit.documents) (tidy : document.text.isTidy = true)
    (chain : Keeper.Chain (whitespaceKeepers σ) (Keeper.brokenIds (whitespaceKeepers σ) unit)
      document.text result) : result = document.text.normalized := by
  have kept : ∀ keeper ∈ whitespaceKeepers σ,
      keeper.id ∉ Keeper.brokenIds (whitespaceKeepers σ) unit →
        keeper.rule.spans document.text = [] := by
    intro keeper among whole
    by_contra broken
    refine whole (Keeper.mem_brokenIds.mpr ⟨keeper, among, rfl, fun clean => broken ?_⟩)
    exact Rule.diagnostics_eq_nil.mp clean document member
  refine normalized_of_chain tidy (chain.fill (distinct_whitespaceKeepers σ)
    stays_whitespaceKeepers (.refl _) ?_ kept tidy)
  exact Keeper.brokenIds_sublist (ascending_whitespaceKeepers σ)

end Builtin

end FixLoop
