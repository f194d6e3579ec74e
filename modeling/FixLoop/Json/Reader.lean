import FixLoop.Value

/-!
Reading JSON. Every value takes at least one character, so twice the length of the text bounds the
recursion; `read?` hides that bound.
-/

namespace FixLoop.Json

def isSpace (c : Char) : Bool := c == ' ' || c == '\t' || c == '\n' || c == '\r'

def skipSpace (text : Text) : Text := text.dropWhile isSpace

def hexDigit? (c : Char) : Option Nat :=
  if '0' ≤ c && c ≤ '9' then some (c.toNat - '0'.toNat)
  else if 'a' ≤ c && c ≤ 'f' then some (c.toNat - 'a'.toNat + 10)
  else if 'A' ≤ c && c ≤ 'F' then some (c.toNat - 'A'.toNat + 10)
  else none

/-- Four hexadecimal digits. -/
def codeUnit? : Text → Option (Nat × Text)
  | a :: b :: c :: d :: rest => do
    let a ← hexDigit? a
    let b ← hexDigit? b
    let c ← hexDigit? c
    let d ← hexDigit? d
    some (((a * 16 + b) * 16 + c) * 16 + d, rest)
  | _ => none

/-- The character of an escape; a surrogate pair is one character. -/
def escape? : Text → Option (Char × Text)
  | '"' :: rest => some ('"', rest)
  | '\\' :: rest => some ('\\', rest)
  | '/' :: rest => some ('/', rest)
  | 'b' :: rest => some (Char.ofNat 8, rest)
  | 'f' :: rest => some (Char.ofNat 12, rest)
  | 'n' :: rest => some ('\n', rest)
  | 'r' :: rest => some ('\r', rest)
  | 't' :: rest => some ('\t', rest)
  | 'u' :: rest => do
    let (high, rest) ← codeUnit? rest
    if 0xD800 ≤ high && high < 0xDC00 then
      match rest with
      | '\\' :: 'u' :: more => do
        let (low, more) ← codeUnit? more
        if 0xDC00 ≤ low && low < 0xE000 then
          some (Char.ofNat (0x10000 + (high - 0xD800) * 0x400 + (low - 0xDC00)), more)
        else none
      | _ => none
    else some (Char.ofNat high, rest)
  | _ => none

/-- The rest of a string, after its opening quote. -/
def string? : Nat → Text → Option (Text × Text)
  | 0, _ => none
  | _ + 1, [] => none
  | _ + 1, '"' :: rest => some ([], rest)
  | fuel + 1, '\\' :: rest => do
    let (c, rest) ← escape? rest
    let (more, rest) ← string? fuel rest
    some (c :: more, rest)
  | fuel + 1, c :: rest => do
    if c.toNat < 0x20 then none
    else
      let (more, rest) ← string? fuel rest
      some (c :: more, rest)

def isAsciiDigit (c : Char) : Bool := '0' ≤ c && c ≤ '9'

def naturalOf (digits : Text) : Nat :=
  digits.foldl (fun n c => n * 10 + (c.toNat - '0'.toNat)) 0

/-- One or more digits. -/
def digits? (text : Text) : Option (Text × Text) :=
  match text.span isAsciiDigit with
  | ([], _) => none
  | found => some found

def fraction? : Text → Option (Text × Text)
  | '.' :: rest => digits? rest
  | rest => some ([], rest)

/-- An exponent, or none if there is no sign of one. -/
def exponent? (text : Text) : Option (Option Int × Text) :=
  let signed : Text → Option (Option Int × Text)
    | '+' :: rest => (digits? rest).map fun (ds, rest) => (some (naturalOf ds : Int), rest)
    | '-' :: rest => (digits? rest).map fun (ds, rest) => (some (-(naturalOf ds : Int)), rest)
    | rest => (digits? rest).map fun (ds, rest) => (some (naturalOf ds : Int), rest)
  match text with
  | 'e' :: rest => signed rest
  | 'E' :: rest => signed rest
  | rest => some (none, rest)

def number? (text : Text) : Option (Value × Text) := do
  let (negative, rest) := match text with
    | '-' :: rest => (true, rest)
    | rest => (false, rest)
  let (whole, rest) ← digits? rest
  if whole.length > 1 && whole.head? == some '0' then none
  let (places, rest) ← fraction? rest
  let (exponent, rest) ← exponent? rest
  if places.isEmpty && exponent.isNone then
    let n : Int := naturalOf whole
    some (.int (if negative then -n else n), rest)
  else
    let x := Binary64.ofDecimal negative (naturalOf (whole ++ places))
      (exponent.getD 0 - places.length)
    some (.real x, rest)

mutual

def value? : Nat → Text → Option (Value × Text)
  | 0, _ => none
  | fuel + 1, text =>
    match skipSpace text with
    | 'n' :: 'u' :: 'l' :: 'l' :: rest => some (.null, rest)
    | 't' :: 'r' :: 'u' :: 'e' :: rest => some (.bool true, rest)
    | 'f' :: 'a' :: 'l' :: 's' :: 'e' :: rest => some (.bool false, rest)
    | '"' :: rest => (string? (rest.length + 1) rest).map fun (s, rest) =>
        (.text (String.ofList s), rest)
    | '[' :: rest =>
      match skipSpace rest with
      | ']' :: rest => some (.list [], rest)
      | rest => (items? fuel rest).map fun (items, rest) => (.list items, rest)
    | '{' :: rest =>
      match skipSpace rest with
      | '}' :: rest => some (.table [], rest)
      | rest => (fields? fuel [] rest).map fun (fields, rest) => (.table fields, rest)
    | rest => number? rest

/-- The items of a list up to its closing bracket. -/
def items? : Nat → Text → Option (List Value × Text)
  | 0, _ => none
  | fuel + 1, text => do
    let (item, rest) ← value? fuel text
    match skipSpace rest with
    | ',' :: rest =>
      let (more, rest) ← items? fuel rest
      some (item :: more, rest)
    | ']' :: rest => some ([item], rest)
    | _ => none

/-- The fields of a table up to its closing brace, after those already read. -/
def fields? : Nat → List (String × Value) → Text → Option (List (String × Value) × Text)
  | 0, _, _ => none
  | fuel + 1, before, text =>
    match skipSpace text with
    | '"' :: rest => do
      let (name, rest) ← string? (rest.length + 1) rest
      match skipSpace rest with
      | ':' :: rest =>
        let (value, rest) ← value? fuel rest
        let fields := putField (String.ofList name) value before
        match skipSpace rest with
        | ',' :: rest => fields? fuel fields rest
        | '}' :: rest => some (fields, rest)
        | _ => none
      | _ => none
    | _ => none

end

/-- The value that a whole text writes. -/
def read? (text : Text) : Option Value :=
  match value? (2 * text.length + 2) text with
  | some (value, rest) => if (skipSpace rest).isEmpty then some value else none
  | none => none

end FixLoop.Json
