import FixLoop.Number.Decimal
import FixLoop.Text.Printable
import FixLoop.Value

/-!
Quoted texts and the plain form of values. Single quotes are used unless only double quotes avoid
an escape; what does not print is written by its code point.
-/

namespace FixLoop

/-- A number in lower-case hexadecimal, padded with zeros to a width. -/
def hexPadded (width n : Nat) : Text :=
  let digits := Nat.toDigits 16 n
  List.replicate (width - digits.length) '0' ++ digits

/-- A code point by the shortest escape that holds it. -/
def codePointEscape (c : Char) : Text :=
  let n := c.toNat
  if n < 0x100 then ['\\', 'x'] ++ hexPadded 2 n
  else if n < 0x10000 then ['\\', 'u'] ++ hexPadded 4 n
  else ['\\', 'U'] ++ hexPadded 8 n

/-- A character between quotes of the given kind. -/
def quotedChar (shown : Char → Bool) (mark c : Char) : Text :=
  if c = mark || c = '\\' then ['\\', c]
  else if c = '\n' then ['\\', 'n']
  else if c = '\r' then ['\\', 'r']
  else if c = '\t' then ['\\', 't']
  else if shown c then [c]
  else codePointEscape c

def quotedWith (shown : Char → Bool) (s : String) : String :=
  let text := s.toList
  let mark := if text.contains '\'' && !text.contains '"' then '"' else '\''
  String.ofList (mark :: text.flatMap (quotedChar shown mark) ++ [mark])

def quoted (s : String) : String := quotedWith isPrintable s

/-- A text with an escape for each character outside ASCII. -/
def inAscii (s : String) : String :=
  String.ofList (s.toList.flatMap fun c => if c.toNat < 0x80 then [c] else codePointEscape c)

namespace Value

mutual

/-- A value as it is written inside a list or a table. -/
def quoted : Value → String
  | .null => "None"
  | .bool true => "True"
  | .bool false => "False"
  | .int n => toString n
  | .real x => x.text
  | .text s => FixLoop.quoted s
  | .moment _ _ inside => inside
  | .list items => "[" ++ quotedItems items ++ "]"
  | .table fields => "\x7b" ++ quotedFields fields ++ "\x7d"

def quotedItems : List Value → String
  | [] => ""
  | [item] => quoted item
  | item :: more => quoted item ++ ", " ++ quotedItems more

def quotedFields : List (String × Value) → String
  | [] => ""
  | [(name, value)] => FixLoop.quoted name ++ ": " ++ quoted value
  | (name, value) :: more =>
    FixLoop.quoted name ++ ": " ++ quoted value ++ ", " ++ quotedFields more

end

/-- A value as a text: a text is itself, a moment as it is written alone, and anything else as it is
quoted. -/
def plain : Value → String
  | .text s => s
  | .moment _ alone _ => alone
  | value => quoted value

end Value

end FixLoop
