import FixLoop.Text.Basic

/-!
Lines. A line ends at any of the line boundaries of Unicode, and CRLF is one boundary; a boundary
at the very end opens no further line.
-/

namespace FixLoop

def isLineBreak (c : Char) : Bool :=
  let n := c.toNat
  (0x0A ≤ n && n ≤ 0x0D) || (0x1C ≤ n && n ≤ 0x1E) || n == 0x85 || n == 0x2028 || n == 0x2029

namespace Text

def lines : Text → List Text
  | [] => []
  | '\r' :: '\n' :: rest => [] :: lines rest
  | c :: rest =>
    if isLineBreak c then [] :: lines rest
    else
      match lines rest with
      | [] => [[c]]
      | line :: more => (c :: line) :: more

/-- CRLF and a lone CR both become LF, as when a file is read. -/
def unifyNewlines : Text → Text
  | [] => []
  | '\r' :: '\n' :: rest => '\n' :: unifyNewlines rest
  | c :: rest => (if c = '\r' then '\n' else c) :: unifyNewlines rest

theorem not_mem_unifyNewlines (text : Text) : '\r' ∉ unifyNewlines text := by
  fun_induction unifyNewlines text with
  | case1 => simp
  | case2 rest ih => simpa using ih
  | case3 char rest _ ih =>
    split <;> simp_all [eq_comm]

theorem unifyNewlines_cons {char : Char} {rest : Text}
    (apart : ∀ more, char = '\r' → rest ≠ '\n' :: more) :
    unifyNewlines (char :: rest) = (if char = '\r' then '\n' else char) :: unifyNewlines rest := by
  rw [unifyNewlines]
  exact apart

end Text

end FixLoop
