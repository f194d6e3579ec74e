/-!
Texts as sequences of code points. Offsets, lengths and columns count code points. An offset may
be negative, and then counts from the end; one outside the text falls on the nearer end.
-/

namespace FixLoop

abbrev Text := List Char

namespace Text

/-- The place in `0..size` that an offset names. -/
def place (size : Nat) (offset : Int) : Nat :=
  if offset < 0 then (offset + size).toNat else min offset.toNat size

theorem place_le (size : Nat) (offset : Int) : place size offset ≤ size := by
  unfold place; split <;> omega

theorem place_of_mem {size : Nat} {offset : Int} (low : 0 ≤ offset) (high : offset ≤ size) :
    (place size offset : Int) = offset := by
  unfold place; split <;> omega

/-- The part before an offset. -/
def upTo (text : Text) (stop : Int) : Text :=
  text.take (place text.length stop)

/-- The part from one offset to another, empty if they are in the wrong order. -/
def slice (text : Text) (start stop : Int) : Text :=
  (upTo text stop).drop (place text.length start)

/-- The offset at which the last line of a text starts. -/
def lastLineStart (text : Text) : Nat :=
  text.length - (text.reverse.takeWhile (· ≠ '\n')).length

/-- The offset at which the line that holds an offset starts. -/
def lineStart (text : Text) (offset : Int) : Nat :=
  lastLineStart (upTo text offset)

/-- Whether a non-empty pattern or any other text occurs somewhere. -/
def contains (pattern : Text) : Text → Bool
  | [] => pattern.isEmpty
  | c :: rest => pattern.isPrefixOf (c :: rest) || contains pattern rest

/-- The line break that a text keeps to: CRLF if it has one, else LF. -/
def newline (text : Text) : Text :=
  if contains ['\r', '\n'] text then ['\r', '\n'] else ['\n']

/-- A text from a column on, with a tab expanded to the next multiple of a size; a line break of
either kind starts a new line. -/
def expandTabs (size column : Nat) : Text → Text
  | [] => []
  | c :: rest =>
    if c = '\t' then
      let width := size - column % size
      List.replicate width ' ' ++ expandTabs size (column + width) rest
    else c :: expandTabs size (if c = '\n' ∨ c = '\r' then 0 else column + 1) rest

/-- The parts before and after the first occurrence of a character. -/
def cut (mark : Char) : Text → Option (Text × Text)
  | [] => none
  | c :: rest =>
    if c = mark then some ([], rest)
    else (cut mark rest).map fun (before, after) => (c :: before, after)

/-- The parts before and after the last occurrence of a character. -/
def cutLast (mark : Char) (text : Text) : Option (Text × Text) :=
  (cut mark text.reverse).map fun (after, before) => (before.reverse, after.reverse)

end Text

end FixLoop
