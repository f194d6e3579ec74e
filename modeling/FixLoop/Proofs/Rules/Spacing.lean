import FixLoop.Rules.EmbeddedStatement
import Mathlib.Data.List.Forall2

/-!
Masked texts that differ in white space behind semicolons. All scanning reads such texts alike, but
a statement counts as followed closely only where the white space behind it was left as it was, so
that exactly the findings whose statements got a blank line are gone.
-/

namespace FixLoop.EmbeddedStatement

/-- Whether white space is more than the end of one line. -/
structure IsBreak (filling : Text) : Prop where
  layout : ∀ c ∈ filling, isLayout c = true
  lines : 2 ≤ filling.count '\n'

/-- Whether two masked texts differ only in the white space behind some semicolons, which are given
by the lengths of what follows them; the second text has breaks there. -/
inductive Spaced (fixed : Nat → Bool) : Text → Text → Prop where
  | nil : Spaced fixed [] []
  | keep {c : Char} {rest result : Text} (kept : fixed rest.length = false)
      (later : Spaced fixed rest result) : Spaced fixed (c :: rest) (c :: result)
  | gap {gap filling rest result : Text} (spaced : fixed (gap ++ rest).length = true)
      (layout : ∀ c ∈ gap, isLayout c = true) (breaks : IsBreak filling)
      (later : Spaced fixed rest result) :
    Spaced fixed (';' :: (gap ++ rest)) (';' :: (filling ++ result))

/-- What follows a semicolon in two such texts. -/
inductive Follows (fixed : Nat → Bool) : Text → Text → Prop where
  | kept {rest result : Text} (kept : fixed rest.length = false)
      (same : Spaced fixed rest result) : Follows fixed rest result
  | spaced {rest filling result : Text} (spaced : fixed rest.length = true)
      (breaks : IsBreak filling) : Follows fixed rest (filling ++ result)

/-- Headers that leave two such texts. -/
inductive Alike (fixed : Nat → Bool) : Header → Header → Prop where
  | condition {rest result : Text} (same : Spaced fixed rest result) :
    Alike fixed (.condition rest) (.condition result)
  | otherwise {rest result : Text} (same : Spaced fixed rest result) :
    Alike fixed (.otherwise rest) (.otherwise result)

variable {fixed : Nat → Bool} {text rest result gap : Text}

/-! ### White space is skipped -/

theorem isLayout_cases {c : Char} (layout : isLayout c = true) :
    c = ' ' ∨ c = '\t' ∨ c = '\r' ∨ c = '\n' := by
  simpa [isLayout, or_assoc] using layout

/-- A scan that passes over every character of white space passes over all of a gap. -/
theorem scan_append {α : Type} {scan : Text → α}
    (passes : ∀ c rest, isLayout c = true → scan (c :: rest) = scan rest)
    (layout : ∀ c ∈ gap, isLayout c = true) : scan (gap ++ rest) = scan rest := by
  induction gap with
  | nil => rfl
  | cons c gap ih =>
    have others := ih fun other member => layout other (List.mem_cons_of_mem _ member)
    exact (passes c (gap ++ rest) (layout c List.mem_cons_self)).trans others

theorem afterParentheses?_append (layout : ∀ c ∈ gap, isLayout c = true) (opened : Nat) :
    afterParentheses? opened (gap ++ rest) = afterParentheses? opened rest := by
  refine scan_append (fun c rest layout => ?_) layout
  rcases isLayout_cases layout with rfl | rfl | rfl | rfl <;> rfl

theorem afterStatement?_append (layout : ∀ c ∈ gap, isLayout c = true) (depth : Int) :
    afterStatement? depth (gap ++ rest) = afterStatement? depth rest := by
  refine scan_append (fun c rest layout => ?_) layout
  rcases isLayout_cases layout with rfl | rfl | rfl | rfl <;> rfl

/-- No header starts with white space, and no word goes on behind it. -/
theorem findings_append (layout : ∀ c ∈ gap, isLayout c = true) :
    findings false (gap ++ rest) = findings false rest := by
  refine scan_append (fun c rest layout => ?_) layout
  rcases isLayout_cases layout with rfl | rfl | rfl | rfl <;> rfl

theorem takeWhile_append (layout : ∀ c ∈ gap, isLayout c = true) :
    (gap ++ rest).takeWhile isLayout = gap ++ rest.takeWhile isLayout :=
  List.takeWhile_append_of_pos layout

/-! ### Scanning reads such texts alike -/

theorem isNone_of_rel {α β : Type} {related : α → β → Prop} {a : Option α} {b : Option β}
    (rel : Option.Rel related a b) : b.isNone = a.isNone := by
  cases rel <;> rfl

namespace Spaced

theorem head? (spaced : Spaced fixed text result) : result.head? = text.head? := by
  cases spaced <;> rfl

theorem takeWhile {p : Char → Bool} (spaced : Spaced fixed text result) (stops : p ';' = false) :
    result.takeWhile p = text.takeWhile p := by
  have stops : ¬ p ';' = true := by simp [stops]
  induction spaced with
  | nil => rfl
  | keep kept later ih => rw [List.takeWhile_cons, List.takeWhile_cons, ih]
  | gap => rw [List.takeWhile_cons_of_neg stops, List.takeWhile_cons_of_neg stops]

theorem dropWhile {p : Char → Bool} (spaced : Spaced fixed text result) (stops : p ';' = false) :
    Spaced fixed (text.dropWhile p) (result.dropWhile p) := by
  have stops : ¬ p ';' = true := by simp [stops]
  induction spaced with
  | nil => exact .nil
  | keep kept later ih =>
    rw [List.dropWhile_cons, List.dropWhile_cons]
    split
    · exact ih
    · exact .keep kept later
  | gap spaced layout breaks later =>
    rw [List.dropWhile_cons_of_neg stops, List.dropWhile_cons_of_neg stops]
    exact .gap spaced layout breaks later

theorem isPrefixOf {word : Text} (free : ';' ∉ word) (spaced : Spaced fixed text result) :
    word.isPrefixOf result = word.isPrefixOf text := by
  induction word generalizing text result with
  | nil => rfl
  | cons w word ih =>
    obtain ⟨other, free⟩ := List.ne_and_not_mem_of_not_mem_cons free
    cases spaced with
    | nil => rfl
    | keep kept later => rw [List.isPrefixOf, List.isPrefixOf, ih free later]
    | gap =>
      rw [List.isPrefixOf, List.isPrefixOf, beq_eq_false_iff_ne.mpr other.symm]
      rfl

theorem drop {word : Text} (free : ';' ∉ word) (spaced : Spaced fixed text result)
    (starts : word.isPrefixOf text = true) :
    Spaced fixed (text.drop word.length) (result.drop word.length) := by
  induction word generalizing text result with
  | nil => exact spaced
  | cons w word ih =>
    obtain ⟨other, free⟩ := List.ne_and_not_mem_of_not_mem_cons free
    cases spaced with
    | nil => cases starts
    | keep kept later => exact ih free later (Bool.and_eq_true_iff.mp starts).2
    | gap => exact absurd (beq_iff_eq.mp (Bool.and_eq_true_iff.mp starts).1).symm other

theorem afterWord? (word : String) (free : ';' ∉ word.toList) 
    (spaced : Spaced fixed text result) :
    Option.Rel (Spaced fixed) (afterWord? word text) (afterWord? word result) := by
  unfold EmbeddedStatement.afterWord? opensWithWord
  dsimp only
  rw [spaced.isPrefixOf free]
  cases starts : word.toList.isPrefixOf text with
  | false => exact .none
  | true =>
    have dropped := spaced.drop free starts
    rw [String.length_toList] at dropped
    rw [dropped.head?]
    split
    · exact .some dropped
    · exact .none

theorem afterKeyword? {keyword : String} (free : ';' ∉ keyword.toList)
    (spaced : Spaced fixed text result) :
    Option.Rel (Spaced fixed) (afterKeyword? keyword text) (afterKeyword? keyword result) := by
  unfold EmbeddedStatement.afterKeyword?
  rw [spaced.isPrefixOf free]
  split
  · rename_i starts
    have dropped := (spaced.drop free starts).dropWhile (p := isBlank) rfl
    rw [String.length_toList] at dropped
    generalize (text.drop keyword.length).dropWhile isBlank = before,
      (result.drop keyword.length).dropWhile isBlank = after at dropped
    cases dropped with
    | nil => exact .none
    | @keep c rest result kept later =>
      by_cases open_ : c = '('
      · subst open_
        exact .some later
      · split
        · rename_i same
          exact absurd (List.cons.inj same).1 open_
        · split
          · rename_i same
            exact absurd (List.cons.inj same).1 open_
          · exact .none
    | gap => exact .none
  · exact .none

theorem header? (spaced : Spaced fixed text result) :
    Option.Rel (Alike fixed) (header? text) (header? result) := by
  have each (keywords : List String) (free : ∀ keyword ∈ keywords, ';' ∉ keyword.toList) :
      Option.Rel (Spaced fixed) (keywords.findSome? (EmbeddedStatement.afterKeyword? · text))
        (keywords.findSome? (EmbeddedStatement.afterKeyword? · result)) := by
    induction keywords with
    | nil => exact .none
    | cons keyword keywords ih =>
      have later := ih fun other member => free other (List.mem_cons_of_mem _ member)
      have here := spaced.afterKeyword? (free keyword List.mem_cons_self)
      rw [List.findSome?_cons, List.findSome?_cons]
      generalize EmbeddedStatement.afterKeyword? keyword text = before,
        EmbeddedStatement.afterKeyword? keyword result = after at here
      cases here with
      | none => exact later
      | some same => exact .some same
  have conditions := each ["if", "while", "for", "foreach"] (by decide)
  have others := spaced.afterWord? "else" (by decide)
  unfold EmbeddedStatement.header?
  generalize List.findSome? (EmbeddedStatement.afterKeyword? · text) _ = before,
    List.findSome? (EmbeddedStatement.afterKeyword? · result) _ = after,
    EmbeddedStatement.afterWord? "else" text = word,
    EmbeddedStatement.afterWord? "else" result = other at conditions others
  cases conditions with
  | some same => exact .some (.condition same)
  | none =>
    cases others with
    | some same => exact .some (.otherwise same)
    | none => exact .none

theorem afterParentheses? (spaced : Spaced fixed text result) (opened : Nat) :
    Option.Rel (Spaced fixed) (afterParentheses? opened text)
      (afterParentheses? opened result) := by
  induction spaced generalizing opened with
  | nil => exact .none
  | keep kept later ih =>
    rw [EmbeddedStatement.afterParentheses?, EmbeddedStatement.afterParentheses?]
    split
    · exact ih _
    · split
      · split
        · exact .some later
        · exact ih _
      · exact ih _
  | gap spaced layout breaks later ih =>
    rw [EmbeddedStatement.afterParentheses?, EmbeddedStatement.afterParentheses?,
      if_neg (by decide), if_neg (by decide), if_neg (by decide), if_neg (by decide),
      afterParentheses?_append layout, afterParentheses?_append breaks.layout]
    exact ih _

theorem afterStatement? (spaced : Spaced fixed text result) (depth : Int) :
    Option.Rel (Follows fixed) (afterStatement? depth text) (afterStatement? depth result) := by
  induction spaced generalizing depth with
  | nil => exact .none
  | @keep c rest result kept later ih =>
    rw [EmbeddedStatement.afterStatement?, EmbeddedStatement.afterStatement?]
    split
    · exact ih _
    · split
      · exact ih _
      · split
        · exact .none
        · split
          · exact .some (.kept kept later)
          · exact ih _
  | gap spaced layout breaks later ih =>
    have goesOn (text : Text) : EmbeddedStatement.afterStatement? depth (';' :: text) =
        if depth = 0 then some text else EmbeddedStatement.afterStatement? depth text := by
      simp [EmbeddedStatement.afterStatement?]
    rw [goesOn, goesOn]
    split
    · exact .some (.spaced spaced breaks)
    · rw [afterStatement?_append layout, afterStatement?_append breaks.layout]
      exact ih _

theorem isPlainStatement (spaced : Spaced fixed text result) :
    isPlainStatement result = isPlainStatement text := by
  have same := isNone_of_rel spaced.header?
  cases spaced with
  | nil => rfl
  | keep kept later =>
    rw [EmbeddedStatement.isPlainStatement, EmbeddedStatement.isPlainStatement, same]
  | gap => rfl

end Spaced

/-- A statement that is followed closely no longer is if a break was put there. -/
theorem Follows.isFollowed (follows : Follows fixed rest result) :
    isFollowed result = (isFollowed rest && !fixed rest.length) := by
  cases follows with
  | kept kept same =>
    have gaps := same.takeWhile (p := isLayout) rfl
    have onward := same.dropWhile (p := isLayout) rfl
    rw [kept, Bool.not_false, Bool.and_true]
    unfold EmbeddedStatement.isFollowed
    rw [gaps]
    generalize rest.dropWhile isLayout = before, result.dropWhile isLayout = after at onward
    have alternative := isNone_of_rel (onward.afterWord? "else" (by decide))
    cases onward with
    | nil => rfl
    | keep kept later =>
      dsimp only
      rw [alternative]
    | gap =>
      dsimp only
      rw [alternative]
  | @spaced filling result spaced breaks =>
    rw [spaced, Bool.not_true, Bool.and_false]
    unfold EmbeddedStatement.isFollowed
    rw [takeWhile_append breaks.layout]
    dsimp only
    split
    · rfl
    · have many : ¬ (filling ++ result.takeWhile isLayout).count '\n' < 2 := by
        rw [List.count_append]
        have lines := breaks.lines
        omega
      rw [decide_eq_false many]
      rfl

theorem Alike.bodyText? {header other : Header} (alike : Alike fixed header other) :
    Option.Rel (Spaced fixed) (bodyText? header) (bodyText? other) := by
  cases alike with
  | condition same => exact same.afterParentheses? 1
  | otherwise same =>
    have words := isNone_of_rel ((same.dropWhile (p := isBlank) rfl).afterWord? "if" (by decide))
    unfold EmbeddedStatement.bodyText?
    dsimp only
    rw [← Option.not_isNone, ← Option.not_isNone, words]
    split
    · exact .none
    · exact .some same

theorem afterEmbedded?_eq (header : Header) : afterEmbedded? header =
    (bodyText? header).bind fun body =>
      if isPlainStatement (body.dropWhile isLayout) then
        (afterStatement? 0 (body.dropWhile isLayout)).bind fun rest =>
          if isFollowed rest then some rest else none
      else none := rfl

/-- A header embeds a statement that is followed closely if it did before and no break was put
behind that. -/
theorem Alike.afterEmbedded? {header other : Header} (alike : Alike fixed header other) :
    (afterEmbedded? other).isSome =
      (afterEmbedded? header).any fun after => !fixed after.length := by
  have bodies := alike.bodyText?
  rw [afterEmbedded?_eq, afterEmbedded?_eq]
  generalize EmbeddedStatement.bodyText? header = before,
    EmbeddedStatement.bodyText? other = after at bodies
  cases bodies with
  | none => rfl
  | @some before after same =>
    have body := same.dropWhile (p := isLayout) rfl
    have statements := body.afterStatement? 0
    rw [Option.bind_some, Option.bind_some, body.isPlainStatement]
    split
    · generalize EmbeddedStatement.afterStatement? 0 (before.dropWhile isLayout) = rest,
        EmbeddedStatement.afterStatement? 0 (after.dropWhile isLayout) = result at statements
      cases statements with
      | none => rfl
      | @some rest result follows =>
        rw [Option.bind_some, Option.bind_some, follows.isFollowed]
        cases isFollowed rest with
        | false => rfl
        | true =>
          change (if (!fixed rest.length) = true then some result else none).isSome =
            !fixed rest.length
          cases fixed rest.length <;> rfl
    · rfl

/-- What is found at the start of what is left of a masked text. -/
def found (afterWordChar : Bool) (text : Text) : Option Text :=
  if afterWordChar then none else (header? text).bind afterEmbedded?

theorem Spaced.isSome_found (spaced : Spaced fixed text result) (word : Bool) :
    (found word result).isSome = (found word text).any fun after => !fixed after.length := by
  have headers := spaced.header?
  unfold found
  split
  · rfl
  · generalize EmbeddedStatement.header? text = before,
      EmbeddedStatement.header? result = after at headers
    cases headers with
    | none => rfl
    | some alike => exact alike.afterEmbedded?

theorem findings_cons (word : Bool) (c : Char) (rest : Text) : findings word (c :: rest) =
    ((found word (c :: rest)).toList.map fun after => (c :: rest, after)) ++
      findings (isWord c) rest := rfl

/-- Exactly the findings are gone behind whose statements a break was put. -/
theorem Spaced.length_findings (spaced : Spaced fixed text result) (word : Bool) :
    (findings word result).length =
      (findings word text).countP fun finding => !fixed finding.2.length := by
  have step {c : Char} {rest result : Text} (spaced : Spaced fixed (c :: rest) (c :: result))
      (word : Bool) (later : (findings (isWord c) result).length =
        (findings (isWord c) rest).countP fun finding => !fixed finding.2.length) :
      (findings word (c :: result)).length =
        (findings word (c :: rest)).countP fun finding => !fixed finding.2.length := by
    have here := spaced.isSome_found word
    rw [findings_cons, findings_cons, List.length_append, List.countP_append, later]
    congr 1
    generalize found word (c :: rest) = before, found word (c :: result) = after at here
    cases before <;> cases after <;> simp_all
  induction spaced generalizing word with
  | nil => rfl
  | keep kept later ih => exact step (.keep kept later) word (ih _)
  | gap spaced layout breaks later ih =>
    refine step (.gap spaced layout breaks later) word ?_
    change (findings false (_ ++ _)).length = (findings false (_ ++ _)).countP _
    rw [findings_append layout, findings_append breaks.layout]
    exact ih false

end FixLoop.EmbeddedStatement
