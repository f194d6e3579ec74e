import FixLoop.Text.Quoted

/-!
Writing JSON: one line, the fields of a table in their order, a number with a fraction or an
exponent never as a whole number.
-/

namespace FixLoop.Json

def hexDigit (n : Nat) : Char := (Nat.digitChar n)

/-- A character inside a string: quotes, backslashes and control characters are escaped. -/
def escaped (c : Char) : Text :=
  if c = '"' then ['\\', '"']
  else if c = '\\' then ['\\', '\\']
  else if c.toNat < 0x20 then
    ['\\', 'u', '0', '0', hexDigit (c.toNat / 16), hexDigit (c.toNat % 16)]
  else [c]

def quoted (s : String) : String :=
  String.ofList ('"' :: s.toList.flatMap escaped ++ ['"'])

mutual

def write : Value → String
  | .null => "null"
  | .bool true => "true"
  | .bool false => "false"
  | .int n => toString n
  | .real .notANumber => "NaN"
  | .real (.infinite negative) => if negative then "-Infinity" else "Infinity"
  | .real x => x.text
  | .text s => quoted s
  | .moment _ alone _ => quoted alone
  | .list items => "[" ++ writeItems items ++ "]"
  | .table fields => "\x7b" ++ writeFields fields ++ "\x7d"

def writeItems : List Value → String
  | [] => ""
  | [item] => write item
  | item :: more => write item ++ "," ++ writeItems more

def writeFields : List (String × Value) → String
  | [] => ""
  | [(name, value)] => quoted name ++ ":" ++ write value
  | (name, value) :: more => quoted name ++ ":" ++ write value ++ "," ++ writeFields more

end

end FixLoop.Json
