import FixLoop.Proofs.Rules.Keeper
import FixLoop.Proofs.Rules.Runs
import FixLoop.Rules.TrailingWhitespace

/-!
Trailing white space as a rule about runs: a run breaks it where a line ends behind the run, and is
replaced by nothing. Line ends are seen through what was deleted before them as long as carriage
returns stand only before line feeds.
-/

namespace FixLoop.TrailingWhitespace

/-- Trailing runs are deleted; the state says whether a space or tab precedes. -/
def runs : RunRule where
  start := false
  next := isTabOrSpace
  breaks inRun run rest := !inRun && !run.isEmpty && endsLine rest
  mend _ := []
  breaks_nil := by simp
  next_of_mem := fun _ blank => blank
  breaks_inside := fun _ _ => rfl

theorem spansFrom_eq (offset : Nat) (inRun : Bool) (text : Text) :
    spansFrom offset inRun text = runs.spansFrom offset inRun text := by
  induction text generalizing offset inRun with
  | nil => rfl
  | cons c rest ih =>
    rw [spansFrom, RunRule.spansFrom, ih]
    cases blank : isTabOrSpace c with
    | false => simp [runs, blank]
    | true => simp [runs, blank, Bool.and_comm]

def rule : Rule := runs.toRule descriptor

theorem spans_eq : rule.spans = spans := funext fun text => (spansFrom_eq 0 false text).symm

variable {text rest result run : Text} {inRun : Bool} {count : Nat}

theorem endsLine_cons (c : Char) (rest : Text) :
    endsLine (c :: rest) = (c == '\n' || c == '\r' && rest.head? == some '\n') := by
  unfold endsLine
  split
  · contradiction
  · rename_i same
    obtain ⟨rfl, rfl⟩ := List.cons.inj same
    rfl
  · rename_i same
    obtain ⟨rfl, rfl⟩ := List.cons.inj same
    rfl
  · rename_i _ line carriage
    by_cases newline : c = '\n'
    · subst newline
      exact absurd rfl (line rest)
    · by_cases carried : c = '\r' ∧ rest.head? = some '\n'
      · obtain ⟨rfl, head⟩ := carried
        obtain ⟨more, rfl⟩ := List.head?_eq_some_iff.mp head
        exact absurd rfl (carriage more)
      · simp [newline] at carried ⊢
        exact carried

/-- In a tidy text a carriage return is part of a line end. -/
theorem endsLine_of_isTidy {c : Char} (tidy : Text.isTidy (c :: rest) = true) :
    endsLine (c :: rest) = (c == '\n' || c == '\r') := by
  obtain ⟨head, -⟩ := Bool.and_eq_true_iff.mp tidy
  rw [endsLine_cons]
  by_cases carriage : c = '\r'
  · subst carriage
    rw [show (rest.head? == some '\n') = true from head]
    rfl
  · rw [beq_eq_false_iff_ne.mpr carriage, Bool.false_and]

/-- Whether a line ends at the start of a tidy text is seen at its first character. -/
theorem endsLine_of_head? (tidy : text.isTidy = true) (whole : result.isTidy = true)
    (head : result.head? = text.head?) : endsLine result = endsLine text := by
  cases text with
  | nil => rw [List.head?_eq_none_iff.mp head]
  | cons c rest =>
    obtain ⟨later, rfl⟩ := List.head?_eq_some_iff.mp head
    rw [endsLine_of_isTidy tidy, endsLine_of_isTidy whole]

/-- What a line end looks like does not depend on what is deleted further on. -/
theorem endsLine_dropWhile (mended : runs.Mended inRun count text result)
    (tidy : text.isTidy = true) :
    endsLine (result.dropWhile isTabOrSpace) = endsLine (text.dropWhile isTabOrSpace) := by
  induction mended with
  | nil => rfl
  | @keep inRun count c rest result later ih =>
    obtain ⟨head, tidy⟩ := Bool.and_eq_true_iff.mp tidy
    cases blank : isTabOrSpace c with
    | true =>
      rw [List.dropWhile_cons_of_pos blank, List.dropWhile_cons_of_pos blank]
      exact ih tidy
    | false =>
      have solid : ¬ isTabOrSpace c = true := by simp [blank]
      rw [List.dropWhile_cons_of_neg solid, List.dropWhile_cons_of_neg solid, endsLine_cons,
        endsLine_cons]
      by_cases carriage : c = '\r'
      · subst carriage
        obtain ⟨more, rfl⟩ := List.head?_eq_some_iff.mp (beq_iff_eq.mp head)
        obtain ⟨onward, rfl, -⟩ := later.solid (by decide)
        rfl
      · rw [beq_eq_false_iff_ne.mpr carriage, Bool.false_and, Bool.false_and]
  | @mend inRun count run rest result blank whole breaks later ih =>
    have none : ∀ c ∈ ([] : Text), isTabOrSpace c = true := nofun
    have dropped : rest.dropWhile isTabOrSpace = rest := (RunRule.takeWhile_run none whole).2
    have tidy : rest.isTidy = true := (Text.isTidy_append blank) ▸ tidy
    rw [(RunRule.takeWhile_run blank whole).2, ← dropped]
    exact ih tidy

theorem sound : runs.Sound where
  blank := fun _ _ => nofun
  keeps := fun {state count c rest result} tidy later => by
    have mended : runs.Mended state count (c :: rest) (c :: result) := .keep later
    have ends := endsLine_dropWhile mended tidy
    have same : ((c :: result).takeWhile isTabOrSpace).isEmpty =
        ((c :: rest).takeWhile isTabOrSpace).isEmpty := by
      rw [List.takeWhile_cons, List.takeWhile_cons]
      split <;> rfl
    change (!state && !List.isEmpty _ && endsLine _) = (!state && !List.isEmpty _ && endsLine _)
    rw [ends, same]
  mends := fun _ whole _ _ later => RunRule.spansFrom_whole (later.whole whole) _

variable {σ : Type}

def keeper : Keeper σ where
  rule
  analyzer
  fixer
  lawful := sound.lawful descriptor
  severity := rfl
  declares := rfl
  analyzes := fun unit => by
    change Callback.answer (diagnostics unit) = .answer (rule.diagnostics unit)
    rw [Rule.diagnostics, spans_eq]
    rfl
  fixableIds := rfl
  able := rfl
  offers := fun _ _ _ _ _ _ => rfl
  fixAll := rfl

/-! ### Texts without trailing white space -/

/-- Whether no space or tab stands directly before the end of a line. -/
def isTrimmed : Text → Bool
  | [] => true
  | c :: rest => !(isTabOrSpace c && endsLine rest) && isTrimmed rest

/-- A text without the spaces and tabs before the ends of its lines. -/
def stripped : Text → Text
  | [] => []
  | c :: rest =>
    let later := stripped rest
    if isTabOrSpace c && endsLine later then later else c :: later

theorem endsLine_of_blank {c : Char} (blank : isTabOrSpace c = true) (rest : Text) :
    endsLine (c :: rest) = false := by
  rw [isTabOrSpace, Bool.or_eq_true, beq_iff_eq, beq_iff_eq] at blank
  rcases blank with rfl | rfl <;> rfl

theorem takeWhile_of_endsLine (ends : endsLine text = true) :
    text.takeWhile isTabOrSpace = [] := by
  cases text with
  | nil => rfl
  | cons c rest =>
    refine List.takeWhile_cons_of_neg fun blank => ?_
    exact nomatch (endsLine_of_blank blank rest).symm.trans ends

theorem isTrimmed_solid {c : Char} (solid : isTabOrSpace c = false) (rest : Text) :
    isTrimmed (c :: rest) = isTrimmed rest := by
  rw [isTrimmed, solid, Bool.false_and, Bool.not_false, Bool.true_and]

/-- A run of spaces and tabs is judged by what follows it. -/
theorem isTrimmed_run (blank : ∀ c ∈ run, isTabOrSpace c = true) (filled : run ≠ []) :
    isTrimmed (run ++ rest) = (!endsLine rest && isTrimmed rest) := by
  induction run with
  | nil => exact absurd rfl filled
  | cons c run ih =>
    rw [List.cons_append, isTrimmed, blank c List.mem_cons_self, Bool.true_and]
    cases run with
    | nil => rfl
    | cons d run =>
      have others : ∀ other ∈ d :: run, isTabOrSpace other = true :=
        fun other member => blank other (List.mem_cons_of_mem _ member)
      rw [ih others nofun, List.cons_append, endsLine_of_blank (others d List.mem_cons_self)]
      rfl

theorem isTrimmed_blank {c : Char} (blank : isTabOrSpace c = true) (rest : Text) :
    isTrimmed (c :: rest) =
      (!endsLine (rest.dropWhile isTabOrSpace) && isTrimmed (rest.dropWhile isTabOrSpace)) := by
  have all : ∀ other ∈ c :: rest.takeWhile isTabOrSpace, isTabOrSpace other = true := by
    intro other member
    rcases List.mem_cons.mp member with rfl | member
    · exact blank
    · exact List.mem_takeWhile_imp member
  rw [← isTrimmed_run all nofun, List.cons_append, List.takeWhile_append_dropWhile]

/-- What breaks the rule in a text depends on its trailing white space alone. -/
theorem spansFrom_eq_nil (offset : Nat) (text : Text) :
    (spansFrom offset false text = [] ↔ isTrimmed text = true) ∧
      (spansFrom offset true text = [] ↔ isTrimmed (text.dropWhile isTabOrSpace) = true) := by
  induction text generalizing offset with
  | nil => exact ⟨iff_of_true rfl rfl, iff_of_true rfl rfl⟩
  | cons c rest ih =>
    obtain ⟨outside, inside⟩ := ih (offset + 1)
    cases blank : isTabOrSpace c with
    | false =>
      rw [List.dropWhile_cons_of_neg (by simp [blank]), isTrimmed_solid blank, spansFrom,
        spansFrom, blank]
      exact ⟨outside, outside⟩
    | true =>
      rw [List.dropWhile_cons_of_pos blank, isTrimmed_blank blank, spansFrom, spansFrom, blank]
      refine ⟨?_, inside⟩
      cases ends : endsLine (rest.dropWhile isTabOrSpace) with
      | true => exact iff_of_false nofun nofun
      | false => exact inside

theorem spans_eq_nil (text : Text) : rule.spans text = [] ↔ isTrimmed text = true := by
  rw [spans_eq]
  exact (spansFrom_eq_nil 0 text).1

theorem stripped_of_isTrimmed (trimmed : isTrimmed text = true) : stripped text = text := by
  induction text with
  | nil => rfl
  | cons c rest ih =>
    obtain ⟨here, later⟩ := Bool.and_eq_true_iff.mp trimmed
    rw [Bool.not_eq_true'] at here
    rw [stripped, ih later, here]
    rfl

theorem endsLine_stripped (ends : endsLine text = true) : endsLine (stripped text) = true := by
  cases text with
  | nil => rfl
  | cons c rest =>
    have solid : isTabOrSpace c = false := by
      by_contra blank
      exact nomatch (endsLine_of_blank (by simpa using blank) rest).symm.trans ends
    rw [stripped, solid]
    rw [endsLine_cons] at ends
    change endsLine (c :: stripped rest) = true
    rw [endsLine_cons]
    simp only [Bool.or_eq_true, Bool.and_eq_true, beq_iff_eq] at ends ⊢
    refine ends.imp_right (And.imp_right fun head => ?_)
    obtain ⟨more, rfl⟩ := List.head?_eq_some_iff.mp head
    rfl

theorem stripped_run (blank : ∀ c ∈ run, isTabOrSpace c = true) (ends : endsLine rest = true) :
    stripped (run ++ rest) = stripped rest := by
  induction run with
  | nil => rfl
  | cons c run ih =>
    have others := ih fun other member => blank other (List.mem_cons_of_mem _ member)
    rw [List.cons_append, stripped, others, blank c List.mem_cons_self, endsLine_stripped ends]
    rfl

/-- Mending some of the runs does not change what is left without all of them. -/
theorem stripped_mended (mended : runs.Mended inRun count text result) :
    stripped result = stripped text := by
  induction mended with
  | nil => rfl
  | keep later ih => rw [stripped, stripped, ih]
  | mend blank whole breaks later ih =>
    rw [stripped_run blank (Bool.and_eq_true_iff.mp breaks).2]
    exact ih

end FixLoop.TrailingWhitespace
