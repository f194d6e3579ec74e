import FixLoop.Text.Blank

/-!
Decimal digits of every script, and whole numbers written with them.
-/

namespace FixLoop

/-- The zeros of the decimal digits of Unicode; the nine other digits of a script follow. -/
def decimalZeros : List Nat := [
  0x0030, 0x0660, 0x06F0, 0x07C0, 0x0966, 0x09E6, 0x0A66, 0x0AE6, 0x0B66, 0x0BE6, 0x0C66, 0x0CE6,
  0x0D66, 0x0DE6, 0x0E50, 0x0ED0, 0x0F20, 0x1040, 0x1090, 0x17E0, 0x1810, 0x1946, 0x19D0, 0x1A80,
  0x1A90, 0x1B50, 0x1BB0, 0x1C40, 0x1C50, 0xA620, 0xA8D0, 0xA900, 0xA9D0, 0xA9F0, 0xAA50, 0xABF0,
  0xFF10, 0x104A0, 0x10D30, 0x11066, 0x110F0, 0x11136, 0x111D0, 0x112F0, 0x11450, 0x114D0, 0x11650,
  0x116C0, 0x11730, 0x118E0, 0x11950, 0x11C50, 0x11D50, 0x11DA0, 0x16A60, 0x16AC0, 0x16B50, 0x1D7CE,
  0x1D7D8, 0x1D7E2, 0x1D7EC, 0x1D7F6, 0x1E140, 0x1E2F0, 0x1E950, 0x1FBF0]

def digitValue? (c : Char) : Option Nat :=
  (decimalZeros.find? fun first => first ≤ c.toNat && c.toNat < first + 10).map (c.toNat - ·)

/-- White space that may surround a number: all but the four separator controls. -/
def isNumberPadding (c : Char) : Bool :=
  isBlank c && !(0x1C ≤ c.toNat && c.toNat ≤ 0x1F)

namespace Text

/-- The value of a run of digits in which single underscores may separate digits. -/
def digitRun (value : Nat) : Text → Option Nat
  | [] => some value
  | '_' :: c :: rest => (digitValue? c).bind fun d => digitRun (value * 10 + d) rest
  | c :: rest => (digitValue? c).bind fun d => digitRun (value * 10 + d) rest

/-- How many digits a number has at most; zeros at its start count. -/
def mostDigits : Nat := 4300

/-- Digits, at least one, the first no underscore. -/
def natural? (text : Text) : Option Nat :=
  if mostDigits < text.countP (· ≠ '_') then none
  else
    match text with
    | [] => none
    | c :: rest => (digitValue? c).bind fun d => digitRun d rest

/-- A whole number with an optional sign and white space around it. -/
def integer? (text : Text) : Option Int :=
  match trimOf isNumberPadding text with
  | '+' :: rest => (natural? rest).map Int.ofNat
  | '-' :: rest => (natural? rest).map fun n => -(n : Int)
  | rest => (natural? rest).map Int.ofNat

end Text

end FixLoop
