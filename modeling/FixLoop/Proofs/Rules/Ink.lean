import FixLoop.Formatting
import FixLoop.Proofs.Rules.Landing

/-!
Ink: what is left of a text without its white space. Neither mending a built-in rule nor formatting
a document changes the ink.
-/

namespace FixLoop

theorem isBlank_of_isLayout {c : Char} (layout : isLayout c = true) : isBlank c = true := by
  rcases EmbeddedStatement.isLayout_cases layout with rfl | rfl | rfl | rfl <;> decide

theorem isBlank_of_isTabOrSpace {c : Char} (blank : isTabOrSpace c = true) : isBlank c = true :=
  isBlank_of_isLayout (isLayout_of_isTabOrSpace blank)

namespace Text

/-- What is left of a text without its white space. -/
def ink (text : Text) : Text := text.filter (!isBlank ·)

variable {text rest : Text} {c : Char}

theorem ink_append (text rest : Text) : ink (text ++ rest) = ink text ++ ink rest :=
  List.filter_append ..

theorem ink_of_blank (blank : ∀ c ∈ text, isBlank c = true) : ink text = [] := by
  refine List.filter_eq_nil_iff.mpr fun c member => ?_
  rw [blank c member]
  exact Bool.false_ne_true

theorem ink_cons_of_blank (blank : isBlank c = true) : ink (c :: rest) = ink rest := by
  rw [← List.singleton_append, ink_append, ink_of_blank (by simpa using blank), List.nil_append]

/-- White space in two texts with the same ink before and after it does not count. -/
theorem ink_append_congr {filling other result : Text} (blank : ink filling = ink other)
    (later : ink result = ink rest) : ink (filling ++ result) = ink (other ++ rest) := by
  rw [ink_append, ink_append, blank, later]

theorem ink_cons_congr {result : Text} (later : ink result = ink rest) :
    ink (c :: result) = ink (c :: rest) := by
  have whole : ink ([c] ++ result) = ink ([c] ++ rest) := ink_append_congr rfl later
  exact whole

theorem ink_trimRight (text : Text) : ink (trimRight text) = ink text := by
  have split := List.takeWhile_append_dropWhile (p := isBlank) (l := text.reverse)
  have whole : text = trimRight text ++ (text.reverse.takeWhile isBlank).reverse := by
    rw [trimRight, trimRightOf, ← List.reverse_append, split, List.reverse_reverse]
  have blank : ∀ c ∈ (text.reverse.takeWhile isBlank).reverse, isBlank c = true :=
    fun c member => List.mem_takeWhile_imp (List.mem_reverse.mp member)
  conv_rhs => rw [whole, ink_append, ink_of_blank blank, List.append_nil]

theorem ink_flatMap {α : Type} (items : List α) (piece : α → Text) :
    ink (items.flatMap piece) = items.flatMap fun item => ink (piece item) :=
  List.filter_flatMap ..

theorem ink_lines (text : Text) : (lines text).flatMap ink = ink text := by
  fun_induction lines text with
  | case1 => rfl
  | case2 rest ih =>
    rw [List.flatMap_cons, ih, ink_cons_of_blank rfl, ink_cons_of_blank rfl]
    rfl
  | case3 c rest _ breaks ih =>
    rw [List.flatMap_cons, ih, ink_cons_of_blank (isBlank_of_isLineBreak breaks)]
    rfl
  | case4 c rest _ _ last ih =>
    rw [last] at ih
    rw [List.flatMap_singleton]
    exact ink_cons_congr ih
  | case5 c rest _ _ line more split ih =>
    rw [split, List.flatMap_cons] at ih
    rw [List.flatMap_cons, ← List.singleton_append, ink_append, List.append_assoc, ih,
      ← ink_append, List.singleton_append]

theorem ink_newline (text : Text) : ink (newline text) = [] := by
  unfold newline
  split <;> rfl

end Text

open Text

theorem Formatting.ink_tidy (text : Text) : (Formatting.tidy text).ink = text.ink := by
  let trimmed := (lines text).map trimRight
  have split := List.takeWhile_append_dropWhile (p := List.isEmpty) (l := trimmed.reverse)
  have whole : trimmed = (trimmed.reverse.dropWhile (·.isEmpty)).reverse ++
      (trimmed.reverse.takeWhile (·.isEmpty)).reverse := by
    rw [← List.reverse_append, split, List.reverse_reverse]
  have blank : (trimmed.reverse.takeWhile (·.isEmpty)).reverse.flatMap ink = [] := by
    refine List.flatMap_eq_nil_iff.mpr fun line member => ?_
    have none := List.mem_takeWhile_imp (List.mem_reverse.mp member)
    rw [List.isEmpty_iff.mp none]
    rfl
  calc (tidy text).ink
      = (trimmed.reverse.dropWhile (·.isEmpty)).reverse.flatMap ink := by
        rw [tidy, ink_flatMap]
        refine List.flatMap_congr fun line _ => ?_
        rw [ink_append, ink_newline, List.append_nil]
    _ = trimmed.flatMap ink := by
        conv_rhs => rw [whole, List.flatMap_append, blank, List.append_nil]
    _ = (lines text).flatMap ink := by
        rw [List.flatMap_map]
        exact List.flatMap_congr fun line _ => ink_trimRight line
    _ = text.ink := ink_lines text

/-! ### Rules -/

namespace RunRule

/-- A rule that replaces runs by white space changes no ink. -/
theorem ink_mended {rule : RunRule} {state : Bool} {count : Nat} {text result : Text}
    (blank : ∀ run, (∀ c ∈ run, isTabOrSpace c = true) → ink (rule.mend run) = [])
    (mended : rule.Mended state count text result) : result.ink = text.ink := by
  induction mended with
  | nil => rfl
  | keep later ih => exact ink_cons_congr ih
  | @mend _ _ run _ _ spaces whole breaks later ih =>
    have gone : ink run = [] :=
      ink_of_blank fun c member => isBlank_of_isTabOrSpace (spaces c member)
    exact ink_append_congr ((blank run spaces).trans gone.symm) ih

end RunRule

theorem EmbeddedStatement.Respaced.ink_eq {whole text result : Text} {fixed : Nat → Bool}
    {mode : Literals.Mode} (respaced : Respaced whole fixed mode text result) :
    result.ink = text.ink := by
  have blank {gap : Text} (layout : ∀ c ∈ gap, isLayout c = true) : ink gap = [] :=
    ink_of_blank fun c member => isBlank_of_isLayout (layout c member)
  induction respaced with
  | nil => rfl
  | keep kept later ih => exact ink_cons_congr ih
  | gap spaced layout solid fills later ih =>
    refine ink_cons_congr (ink_append_congr ?_ ih)
    rw [blank layout, blank fills.isBreak.layout]

/-- Mending a built-in rule changes no ink. -/
theorem Builtin.ink_mended {σ : Type} {keeper : Keeper σ} (member : keeper ∈ keepers σ)
    {text result : Text} (mends : keeper.rule.mends text result) : result.ink = text.ink := by
  simp only [keepers, List.mem_cons, List.not_mem_nil, or_false] at member
  rcases member with rfl | rfl | rfl | rfl
  · obtain ⟨fixed, respaced⟩ := mends
    exact respaced.ink_eq
  · obtain ⟨count, mended⟩ := mends
    exact RunRule.ink_mended (fun _ _ => rfl) mended
  · rcases mends with rfl | rfl
    · rfl
    · unfold FinalNewline.ended
      split
      · rfl
      · rw [ink_append]
        exact List.append_nil _
  · obtain ⟨count, mended⟩ := mends
    refine RunRule.ink_mended (fun run spaces => ?_) mended
    refine ink_of_blank fun c member => isBlank_of_isTabOrSpace ?_
    rw [TabIndentation.mem_expandTabs spaces c member]
    rfl

end FixLoop
