import FixLoop.Proofs.Rules.EmbeddedStatement
import FixLoop.Proofs.Rules.FinalNewline
import FixLoop.Proofs.Rules.TabIndentation
import FixLoop.Proofs.Rules.TrailingWhitespace
import Mathlib.Data.List.DropRight

/-!
How the rules bear on each other. A rule about white space stays kept when any other rule is mended:
a trailing run is deleted whole, so nothing comes to trail or to indent; the line feed at the end
follows no space or tab; an indentation that is expanded has something behind it; and what is put
behind an embedded statement is a blank line and an indentation that the text has already, before
something that is no white space.
-/

namespace FixLoop

variable {text rest result run whole filling : Text} {inRun atStart leading : Bool} {count : Nat}
  {fixed : Nat → Bool} {mode : Literals.Mode} {c : Char}

namespace TrailingWhitespace

theorem isTrimmed_append (tidy : text.isTidy = true) (trimmed : isTrimmed text = true) :
    isTrimmed (text ++ ['\n']) = true := by
  induction text with
  | nil => rfl
  | cons c rest ih =>
    have whole := (Bool.and_eq_true_iff.mp tidy).2
    obtain ⟨here, later⟩ := Bool.and_eq_true_iff.mp trimmed
    rw [List.cons_append, isTrimmed, ih whole later, Bool.and_true]
    cases rest with
    | nil => exact here
    | cons d rest =>
      have appended : Text.isTidy (d :: (rest ++ ['\n'])) = true :=
        FinalNewline.isTidy_append_newline whole
      rw [List.cons_append, endsLine_of_isTidy appended, ← endsLine_of_isTidy whole]
      exact here

theorem withstands_finalNewline : rule.Withstands FinalNewline.rule := by
  intro text result tidy mends clean
  rw [spans_eq_nil] at clean ⊢
  rcases mends with rfl | rfl
  · exact clean
  · unfold FinalNewline.ended
    split
    · exact clean
    · exact isTrimmed_append tidy clean

/-- Only an indentation is expanded, so what follows one starts with the same character after. -/
theorem head?_mended (mended : TabIndentation.runs.Mended atStart count text result)
    (apart : atStart = false ∨ text.takeWhile isTabOrSpace = []) : result.head? = text.head? := by
  cases mended with
  | nil => rfl
  | keep later => rfl
  | mend blank whole breaks later =>
    rcases apart with rfl | apart
    · exact nomatch breaks
    · rw [(RunRule.takeWhile_run blank whole).1] at apart
      exact absurd apart (RunRule.ne_nil_of_breaks breaks)

theorem isTrimmed_mended (mended : TabIndentation.runs.Mended atStart count text result)
    (tidy : text.isTidy = true) (trimmed : isTrimmed text = true) : isTrimmed result = true := by
  induction mended with
  | nil => exact trimmed
  | @keep atStart count c rest result later ih =>
    have whole := (Bool.and_eq_true_iff.mp tidy).2
    obtain ⟨here, beyond⟩ := Bool.and_eq_true_iff.mp trimmed
    rw [isTrimmed, ih whole beyond, Bool.and_true]
    cases blank : isTabOrSpace c with
    | false => rfl
    | true =>
      rw [Bool.not_eq_true', blank, Bool.true_and] at here
      have same := head?_mended later (.inl (TabIndentation.runs.next_of_mem c blank))
      rw [endsLine_of_head? whole (later.isTidy TabIndentation.sound.blank whole) same, here]
      rfl
  | @mend atStart count run rest result blank own breaks later ih =>
    have filled := RunRule.ne_nil_of_breaks breaks
    have whole : rest.isTidy = true := Text.isTidy_append blank ▸ tidy
    rw [isTrimmed_run blank filled] at trimmed
    obtain ⟨here, beyond⟩ := Bool.and_eq_true_iff.mp trimmed
    have same := endsLine_of_head? whole (later.isTidy TabIndentation.sound.blank whole)
      (head?_mended later (.inr own))
    have spaces := TabIndentation.sound.blank run blank
    generalize TabIndentation.runs.mend run = expanded at spaces ⊢
    by_cases empty : expanded = []
    · rw [empty]
      exact ih whole beyond
    · rw [isTrimmed_run spaces empty, same, here, ih whole beyond]
      rfl

theorem withstands_tabIndentation : rule.Withstands TabIndentation.rule := by
  intro text result tidy ⟨count, mended⟩ clean
  rw [spans_eq_nil] at clean ⊢
  exact isTrimmed_mended mended tidy clean

theorem isTrimmed_of_append (before : Text) (trimmed : isTrimmed (before ++ text) = true) :
    isTrimmed text = true := by
  induction before with
  | nil => exact trimmed
  | cons c before ih => exact ih (Bool.and_eq_true_iff.mp trimmed).2

theorem isTrimmed_filling (fills : EmbeddedStatement.IsFilling whole filling)
    (open_ : endsLine text = false) (trimmed : isTrimmed text = true) :
    isTrimmed (filling ++ text) = true := by
  obtain ⟨ends, place, rfl⟩ := fills
  have indented : isTrimmed (Text.indentation whole place ++ text) = true := by
    by_cases empty : Text.indentation whole place = []
    · rw [empty]
      exact trimmed
    · rw [isTrimmed_run (EmbeddedStatement.blank_indentation whole place) empty, open_, trimmed]
      rfl
  rw [List.append_assoc, List.append_assoc]
  rcases ends with rfl | rfl <;> simpa [isTrimmed, isTabOrSpace] using indented

theorem isTrimmed_respaced (respaced : EmbeddedStatement.Respaced whole fixed mode text result)
    (tidy : text.isTidy = true) (trimmed : isTrimmed text = true) : isTrimmed result = true := by
  induction respaced with
  | nil => rfl
  | keep kept later ih =>
    have rested := (Bool.and_eq_true_iff.mp tidy).2
    obtain ⟨here, beyond⟩ := Bool.and_eq_true_iff.mp trimmed
    rw [isTrimmed, endsLine_of_head? rested (later.isTidy rested) later.head?, here,
      ih rested beyond]
    rfl
  | @gap gap filling rest result c spaced layout solid fills later ih =>
    have cut : Text.isTidy ((';' :: gap) ++ c :: rest) = true := tidy
    have rested := Text.isTidy_of_append cut
    have beyond := ih rested (isTrimmed_of_append (';' :: gap) trimmed)
    have open_ : endsLine result = false := by
      rw [endsLine_of_head? rested (later.isTidy rested) later.head?, endsLine_of_isTidy rested]
      simp only [isLayout, Bool.or_eq_false_iff] at solid
      rw [solid.1.2, solid.2]
      rfl
    exact isTrimmed_filling fills open_ beyond

theorem withstands_embeddedStatement : rule.Withstands EmbeddedStatement.rule := by
  intro text result tidy ⟨fixed, respaced⟩ clean
  rw [spans_eq_nil] at clean ⊢
  exact isTrimmed_respaced respaced tidy clean

end TrailingWhitespace

namespace FinalNewline

theorem isEnded_mended {runs : RunRule} (mended : runs.Mended inRun count text result)
    (ends : isEnded text = true) : isEnded result = true := by
  rw [isEnded, Bool.or_eq_true, List.isEmpty_iff] at ends
  rcases ends with rfl | ends
  · rw [mended.eq_nil]
    rfl
  · have last := mended.getLast? (beq_iff_eq.mp ends) rfl
    rw [isEnded, endsWithNewline, last]
    exact Bool.or_true _

theorem withstands_runs (runs : RunRule) (descriptor : Descriptor) :
    rule.Withstands (runs.toRule descriptor) := by
  intro text result tidy ⟨count, mended⟩ clean
  rw [spans_eq_nil] at clean ⊢
  exact isEnded_mended mended clean

theorem withstands_embeddedStatement : rule.Withstands EmbeddedStatement.rule := by
  intro text result _ ⟨fixed, respaced⟩ clean
  rw [spans_eq_nil, isEnded, endsWithNewline] at clean ⊢
  rw [respaced.getLast?]
  cases text with
  | nil =>
    cases respaced
    rfl
  | cons c rest =>
    rw [List.isEmpty_cons, Bool.false_or] at clean
    rw [clean, Bool.or_true]

end FinalNewline

namespace TabIndentation

theorem isTabFree_append (free : isTabFree leading text = true) :
    isTabFree leading (text ++ ['\n']) = true := by
  induction text generalizing leading with
  | nil => simp [isTabFree]
  | cons c rest ih =>
    obtain ⟨here, later⟩ := Bool.and_eq_true_iff.mp free
    rw [List.cons_append, isTabFree, here, ih later]
    rfl

theorem withstands_finalNewline : rule.Withstands FinalNewline.rule := by
  intro text result tidy mends clean
  rw [spans_eq_nil] at clean ⊢
  rcases mends with rfl | rfl
  · exact clean
  · unfold FinalNewline.ended
    split
    · exact clean
    · exact isTabFree_append clean

theorem isTabFree_of_run (blank : ∀ c ∈ run, isTabOrSpace c = true)
    (free : isTabFree leading (run ++ rest) = true) : isTabFree leading rest = true := by
  induction run with
  | nil => exact free
  | cons c run ih =>
    have space := blank c List.mem_cons_self
    have line : (c == '\n') = false := runs.next_of_mem c space
    obtain ⟨-, later⟩ := Bool.and_eq_true_iff.mp free
    rw [space, line, Bool.false_or, Bool.and_true] at later
    exact ih (fun other member => blank other (List.mem_cons_of_mem _ member)) later

theorem isTabFree_mended (mended : TrailingWhitespace.runs.Mended inRun count text result)
    (free : isTabFree leading text = true) : isTabFree leading result = true := by
  induction mended generalizing leading with
  | nil => exact free
  | keep later ih =>
    obtain ⟨here, beyond⟩ := Bool.and_eq_true_iff.mp free
    rw [isTabFree, here, ih beyond]
    rfl
  | mend blank whole breaks later ih => exact ih (isTabFree_of_run blank free)

theorem withstands_trailingWhitespace : rule.Withstands TrailingWhitespace.rule := by
  intro text result tidy ⟨count, mended⟩ clean
  rw [spans_eq_nil] at clean ⊢
  exact isTabFree_mended mended clean

theorem exists_isTabFree {before : Text} (free : isTabFree leading (before ++ text) = true) :
    ∃ other, isTabFree other text = true := by
  induction before generalizing leading with
  | nil => exact ⟨leading, free⟩
  | cons c before ih => exact ih (Bool.and_eq_true_iff.mp free).2

/-- A line that starts within a text starts with no tab, either. -/
theorem isTabFree_of_append {before : Text} (start : before = [] ∨ before.getLast? = some '\n')
    (free : isTabFree true (before ++ text) = true) : isTabFree true text = true := by
  rcases start with rfl | last
  · exact free
  · obtain ⟨front, rfl⟩ := List.getLast?_eq_some_iff.mp last
    rw [List.append_assoc] at free
    obtain ⟨leading, free⟩ := exists_isTabFree free
    exact (Bool.and_eq_true_iff.mp free).2

/-- If no indentation holds a tab, none that is taken from the text does. -/
theorem not_mem_indentation (free : isTabFree true text = true) (offset : Int) :
    '\t' ∉ Text.indentation text offset := by
  let before := Text.upTo text offset
  let front := before.rdropWhile (· ≠ '\n')
  have split : front ++ before.rtakeWhile (· ≠ '\n') = before := List.rdropWhile_append_rtakeWhile
  have place : Text.lineStart text offset = front.length := by
    have lengths := congrArg List.length split
    rw [List.length_append] at lengths
    have tail : (before.rtakeWhile (· ≠ '\n')).length =
        (before.reverse.takeWhile (· ≠ '\n')).length := by
      rw [List.rtakeWhile, List.length_reverse]
    change before.length - (before.reverse.takeWhile (· ≠ '\n')).length = front.length
    omega
  have starts : front = [] ∨ front.getLast? = some '\n' := by
    by_cases empty : front = []
    · exact .inl empty
    · have last : ¬ decide (front.getLast empty ≠ '\n') = true :=
        List.rdropWhile_last_not (· ≠ '\n') before empty
      refine .inr ((List.getLast?_eq_some_getLast empty).trans (congrArg some ?_))
      simpa using last
  obtain ⟨line, whole⟩ : front <+: text :=
    (List.rdropWhile_prefix _ before).trans (List.take_prefix _ _)
  rw [Text.indentation, place, ← whole, List.drop_left]
  rw [← whole] at free
  have own := isTabFree_of_append starts free
  rw [isTabFree_true] at own
  simpa using (Bool.and_eq_true_iff.mp own).1

theorem isTabFree_solid (solid : isLayout c = false) (leading : Bool)
    (rest : Text) : isTabFree leading (c :: rest) = isTabFree false rest := by
  simp only [isLayout, Bool.or_eq_false_iff] at solid
  rw [isTabFree, solid.1.1.2, solid.2, isTabOrSpace, solid.1.1.1, solid.1.1.2]
  simp

theorem isTabFree_filling (none : isTabFree true whole = true)
    (fills : EmbeddedStatement.IsFilling whole filling) (free : isTabFree true text = true) :
    isTabFree leading (filling ++ text) = true := by
  obtain ⟨ends, place, rfl⟩ := fills
  have indented : isTabFree true (Text.indentation whole place ++ text) = true := by
    have blank := EmbeddedStatement.blank_indentation whole place
    have tabs := not_mem_indentation none place
    generalize Text.indentation whole place = indentation at blank tabs
    clear ends
    induction indentation with
    | nil => exact free
    | cons c indentation ih =>
      obtain ⟨other, tabs⟩ := List.ne_and_not_mem_of_not_mem_cons tabs
      have space := blank c List.mem_cons_self
      have later := ih (fun other member => blank other (List.mem_cons_of_mem _ member)) tabs
      rw [List.cons_append, isTabFree, space, Bool.and_true, Bool.or_true, later,
        beq_eq_false_iff_ne.mpr other.symm]
      rfl
  rw [List.append_assoc, List.append_assoc]
  rcases ends with rfl | rfl <;> simpa [isTabFree] using indented

theorem isTabFree_respaced (none : isTabFree true whole = true)
    (respaced : EmbeddedStatement.Respaced whole fixed mode text result)
    (free : isTabFree leading text = true) : isTabFree leading result = true := by
  induction respaced generalizing leading with
  | nil => rfl
  | keep kept later ih =>
    obtain ⟨here, beyond⟩ := Bool.and_eq_true_iff.mp free
    rw [isTabFree, here, ih beyond]
    rfl
  | @gap gap filling rest result c spaced layout solid fills later ih =>
    have within : isTabFree leading ((';' :: gap) ++ c :: rest) = true := free
    obtain ⟨other, beyond⟩ := exists_isTabFree within
    rw [isTabFree_solid solid, ← isTabFree_solid solid true] at beyond
    rw [isTabFree_solid (by decide)]
    exact isTabFree_filling none fills (ih beyond)

theorem withstands_embeddedStatement : rule.Withstands EmbeddedStatement.rule := by
  intro text result _ ⟨fixed, respaced⟩ clean
  rw [spans_eq_nil] at clean ⊢
  exact isTabFree_respaced clean respaced clean

end TabIndentation

end FixLoop
