import FixLoop.Text.Basic

/-!
White space, and texts without it at their ends. A space here is any of the 29 code points that
Unicode counts as white space or as a separator control, not ASCII alone.
-/

namespace FixLoop

def isBlank (c : Char) : Bool :=
  let n := c.toNat
  (0x09 ≤ n && n ≤ 0x0D) || (0x1C ≤ n && n ≤ 0x20) || n == 0x85 || n == 0xA0 || n == 0x1680 ||
    (0x2000 ≤ n && n ≤ 0x200A) || n == 0x2028 || n == 0x2029 || n == 0x202F || n == 0x205F ||
    n == 0x3000

/-- Spaces and tabs, the only white space that indents or trails on a line. -/
def isTabOrSpace (c : Char) : Bool := c == ' ' || c == '\t'

/-- The white space that may stand between two statements. -/
def isLayout (c : Char) : Bool := c == ' ' || c == '\t' || c == '\r' || c == '\n'

namespace Text

/-- A text without the characters of a class at its end. -/
def trimRightOf (drops : Char → Bool) (text : Text) : Text :=
  (text.reverse.dropWhile drops).reverse

/-- A text without the characters of a class at either end. -/
def trimOf (drops : Char → Bool) (text : Text) : Text :=
  trimRightOf drops (text.dropWhile drops)

def trimRight (text : Text) : Text := trimRightOf isBlank text

def trim (text : Text) : Text := trimOf isBlank text

/-- The leading spaces and tabs of the line that holds an offset. -/
def indentation (text : Text) (offset : Int) : Text :=
  (text.drop (lineStart text offset)).takeWhile isTabOrSpace

end Text

/-- The white space at both ends taken off. -/
def trimmed (s : String) : String := String.ofList (Text.trim s.toList)

/-- The parts between commas, trimmed, the empty ones left out. -/
def commaParts (s : String) : List String :=
  ((s.toList.splitOn ',').map Text.trim).filter (! ·.isEmpty) |>.map String.ofList

end FixLoop
