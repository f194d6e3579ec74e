import FixLoop.Proofs.Rules.Spacing

/-!
Semicolons of code. What is found in a masked text ends behind a semicolon that the mask left as it
is, so that the same semicolon is one of the code of the text itself, and the white space behind it
is the same in both.
-/

namespace FixLoop

namespace Literals

/-- Whether a mode is reached in a text that starts with code. -/
def Mode.IsReached : Mode → Prop
  | .literal quote | .escaped quote => isQuote quote = true
  | _ => True

theorem Mode.IsReached.next {mode : Mode} (reached : mode.IsReached) (c : Char)
    (ahead : Option Char) : (mode.next c ahead).IsReached := by
  cases mode with
  | code =>
    rw [Mode.next]
    split
    · assumption
    · split <;> trivial
  | literal quote =>
    rw [Mode.next]
    split
    · trivial
    · split
      · exact reached
      · split
        · trivial
        · exact reached
  | escaped quote => exact reached
  | comment =>
    rw [Mode.next]
    split <;> trivial

theorem length_maskFrom (mode : Mode) (text : Text) :
    (maskFrom mode text).length = text.length := by
  induction text generalizing mode with
  | nil => rfl
  | cons c rest ih => rw [maskFrom, List.length_cons, List.length_cons, ih]

/-- A semicolon that is not blanked is one of code. -/
theorem eq_code_of_semicolon {mode : Mode} {ahead : Option Char} (reached : mode.IsReached)
    (seen : mode.hides ';' ahead = false) : mode = .code := by
  cases mode with
  | code => rfl
  | literal quote =>
    have quoted : ';' = quote := by simpa [Mode.hides] using seen
    subst quoted
    cases reached
  | escaped quote => cases seen
  | comment => cases seen

end Literals

namespace EmbeddedStatement

open Literals

/-- What stands behind the semicolons of the code of a text, which starts in a mode. -/
inductive Behind : Mode → Text → Text → Prop where
  | here {rest : Text} : Behind .code (';' :: rest) rest
  | later {mode : Mode} {c : Char} {text rest : Text}
      (behind : Behind (mode.next c text.head?) text rest) : Behind mode (c :: text) rest

variable {mode : Mode} {text rest other start after gap : Text}

namespace Behind

theorem suffix (behind : Behind mode text rest) : ';' :: rest <:+ text := by
  induction behind with
  | here => exact List.suffix_rfl
  | later behind ih => exact ih.trans (List.suffix_cons _ _)

theorem length_lt (behind : Behind mode text rest) : rest.length < text.length :=
  behind.suffix.length_le

/-- No semicolon is white space. -/
theorem of_append (layout : ∀ c ∈ gap, isLayout c = true)
    (behind : Behind .code (gap ++ text) rest) : Behind .code text rest := by
  induction gap with
  | nil => exact behind
  | cons c gap ih =>
    refine ih (fun other member => layout other (List.mem_cons_of_mem _ member)) ?_
    rcases isLayout_cases (layout c List.mem_cons_self) with rfl | rfl | rfl | rfl <;>
      exact match behind with | .later behind => behind

/-- The white space behind a semicolon ends before the next one. -/
theorem length_takeWhile (behind : Behind mode text rest) (next : Behind mode text other)
    (shorter : other.length < rest.length) :
    (rest.takeWhile isLayout).length + other.length < rest.length := by
  have inside : ';' :: other <:+ rest := by
    refine List.suffix_of_suffix_length_le next.suffix ?_ shorter
    exact (List.suffix_cons _ _).trans behind.suffix
  obtain ⟨between, rfl⟩ := inside
  have stops : ((between ++ ';' :: other).takeWhile isLayout).length ≤ between.length := by
    clear behind next shorter
    induction between with
    | nil => exact Nat.le_refl 0
    | cons c between ih =>
      rw [List.cons_append, List.takeWhile_cons]
      split
      · exact Nat.succ_le_succ ih
      · exact Nat.zero_le _
  rw [List.length_append, List.length_cons]
  omega

end Behind

theorem maskFrom_append (layout : ∀ c ∈ gap, isLayout c = true) :
    maskFrom .code (gap ++ text) = gap ++ maskFrom .code text := by
  induction gap with
  | nil => rfl
  | cons c gap ih =>
    have others := ih fun other member => layout other (List.mem_cons_of_mem _ member)
    rcases isLayout_cases (layout c List.mem_cons_self) with rfl | rfl | rfl | rfl <;>
      exact congrArg _ others

/-- A semicolon in a masked text is one of the code of the text. -/
theorem exists_behind (reached : mode.IsReached) (masked : ';' :: after <:+ maskFrom mode text) :
    ∃ rest, Behind mode text rest ∧ after = maskFrom .code rest := by
  induction text generalizing mode with
  | nil => exact nomatch masked.length_le
  | cons c text ih =>
    rw [maskFrom] at masked
    rcases List.suffix_cons_iff.mp masked with same | later
    · obtain ⟨seen, rfl⟩ := List.cons.inj same
      cases hidden : mode.hides c text.head? with
      | true =>
        rw [hidden, if_pos rfl] at seen
        exact absurd seen (by decide)
      | false =>
        rw [hidden] at seen
        obtain rfl : ';' = c := seen
        obtain rfl := eq_code_of_semicolon reached hidden
        exact ⟨text, .here, rfl⟩
    · obtain ⟨rest, behind, same⟩ := ih (reached.next c text.head?) later
      exact ⟨rest, .later behind, same⟩

/-! ### What is found -/

theorem suffix_afterWord? {word : String} (found : afterWord? word text = some rest) :
    rest <:+ text := by
  unfold afterWord? at found
  dsimp only at found
  split at found
  · obtain rfl := Option.some.inj found
    exact List.drop_suffix _ _
  · cases found

theorem suffix_afterKeyword? {keyword : String} (found : afterKeyword? keyword text = some rest) :
    rest <:+ text := by
  unfold afterKeyword? at found
  split at found
  · split at found
    · rename_i rest opened
      obtain rfl := Option.some.inj found
      have behind := List.suffix_cons '(' rest
      rw [← opened] at behind
      exact (behind.trans (List.dropWhile_suffix _)).trans (List.drop_suffix _ _)
    · cases found
  · cases found

theorem suffix_afterParentheses? {opened : Nat}
    (found : afterParentheses? opened text = some rest) : rest <:+ text := by
  induction text generalizing opened with
  | nil => cases found
  | cons c text ih =>
    have later := List.suffix_cons c text
    unfold afterParentheses? at found
    split at found
    · exact (ih found).trans later
    · split at found
      · split at found
        · obtain rfl := Option.some.inj found
          exact later
        · exact (ih found).trans later
      · exact (ih found).trans later

/-- A statement ends with a semicolon. -/
theorem suffix_afterStatement? {depth : Int} (found : afterStatement? depth text = some rest) :
    ';' :: rest <:+ text := by
  induction text generalizing depth with
  | nil => cases found
  | cons c text ih =>
    have later := List.suffix_cons c text
    unfold afterStatement? at found
    split at found
    · exact (ih found).trans later
    · split at found
      · exact (ih found).trans later
      · split at found
        · cases found
        · split at found
          · rename_i ends
            obtain rfl := Option.some.inj found
            simp only [Bool.and_eq_true, decide_eq_true_eq] at ends
            obtain ⟨rfl, -⟩ := ends
            exact List.suffix_rfl
          · exact (ih found).trans later

/-- What a header leaves. -/
def Header.left : Header → Text
  | .condition rest | .otherwise rest => rest

theorem suffix_header? {header : Header} (found : header? text = some header) :
    header.left <:+ text := by
  unfold header? at found
  split at found
  · rename_i rest condition
    obtain rfl := Option.some.inj found
    obtain ⟨keyword, -, condition⟩ := List.exists_of_findSome?_eq_some condition
    exact suffix_afterKeyword? condition
  · obtain ⟨rest, otherwise, rfl⟩ := Option.map_eq_some_iff.mp found
    exact suffix_afterWord? otherwise

theorem suffix_bodyText? {header : Header} {body : Text} (found : bodyText? header = some body) :
    body <:+ header.left := by
  cases header with
  | condition rest => exact suffix_afterParentheses? found
  | otherwise rest =>
    unfold bodyText? at found
    dsimp only at found
    split at found
    · cases found
    · obtain rfl := Option.some.inj found
      exact List.suffix_rfl

/-- What is found ends behind a semicolon and is followed closely. -/
theorem found_eq_some {word : Bool} (found : found word text = some after) :
    ';' :: after <:+ text ∧ isFollowed after = true := by
  unfold EmbeddedStatement.found at found
  split at found
  · cases found
  · obtain ⟨header, headed, found⟩ := Option.bind_eq_some_iff.mp found
    rw [afterEmbedded?_eq] at found
    obtain ⟨body, left, found⟩ := Option.bind_eq_some_iff.mp found
    split at found
    · obtain ⟨rest, ends, found⟩ := Option.bind_eq_some_iff.mp found
      split at found
      · rename_i followed
        obtain rfl := Option.some.inj found
        have inBody := (suffix_afterStatement? ends).trans (List.dropWhile_suffix _)
        exact ⟨(inBody.trans (suffix_bodyText? left)).trans (suffix_header? headed), followed⟩
      · cases found
    · cases found

theorem mem_findings {word : Bool} (member : (start, after) ∈ findings word text) :
    start <:+ text ∧ ';' :: after <:+ text ∧ isFollowed after = true := by
  induction text generalizing word with
  | nil => cases member
  | cons c text ih =>
    rw [findings_cons] at member
    rcases List.mem_append.mp member with here | later
    · obtain ⟨ends, listed, same⟩ := List.mem_map.mp here
      obtain ⟨rfl, rfl⟩ := Prod.mk.inj same
      obtain ⟨inside, followed⟩ := found_eq_some (Option.mem_toList.mp listed)
      exact ⟨List.suffix_rfl, inside, followed⟩
    · obtain ⟨starts, ends, followed⟩ := ih later
      exact ⟨starts.trans (List.suffix_cons _ _), ends.trans (List.suffix_cons _ _), followed⟩

/-- No two findings start at one place. -/
theorem pairwise_findings (word : Bool) (text : Text) :
    (findings word text).Pairwise fun a b => b.1.length < a.1.length := by
  induction text generalizing word with
  | nil => exact .nil
  | cons c text ih =>
    rw [findings_cons]
    refine List.pairwise_append.mpr ⟨?_, ih _, ?_⟩
    · cases found word (c :: text) with
      | none => exact .nil
      | some after => exact List.pairwise_singleton _ _
    · intro a here b later
      obtain ⟨after, -, rfl⟩ := List.mem_map.mp here
      exact Nat.lt_succ_of_le (mem_findings later).1.length_le

end EmbeddedStatement

end FixLoop
