import FixLoop.Number.Decimal
import FixLoop.Text.Digit
import FixLoop.Text.Template.Fault

/-!
Layouts of values in message templates: fill and alignment, sign, width, grouping, precision and
presentation code, and texts, whole numbers and real numbers laid out by them.
-/

namespace FixLoop

/-- How a filled field is laid out. `inner` padding stands between the sign and the digits. -/
inductive Alignment where
  | left | right | center | inner
  deriving Repr, DecidableEq

def Alignment.ofMark? : Char → Option Alignment
  | '<' => some left
  | '>' => some right
  | '^' => some center
  | '=' => some inner
  | _ => none

structure Layout where
  fill : Char := ' '
  align : Alignment
  sign : Option Char := none
  zero : Bool := false
  alternate : Bool := false
  width : Option Nat := none
  grouping : Option Char := none
  precision : Option Nat := none
  code : Option Char := none

namespace Template

abbrev Result := Except TemplateFault

/-- The widest field that is filled; a wider one would not fit into the memory. -/
def tooWide : Nat := 0xFFFFFFF

/-- A number of decimal digits at the start, if there is one, and the rest. -/
def number (text : Text) : Result (Option Nat × Text) :=
  let (digits, rest) := text.span fun c => (digitValue? c).isSome
  if digits.isEmpty then .ok (none, rest)
  else
    let n := digits.foldl (fun n c => n * 10 + (digitValue? c).getD 0) 0
    if 0x8000000000000000 ≤ n then .error .tooManyDigits else .ok (some n, rest)

/-- One character if it satisfies a condition, and the rest. -/
def take? (wanted : Char → Bool) : Text → Option Char × Text
  | [] => (none, [])
  | c :: rest => if wanted c then (some c, rest) else (none, c :: rest)

/-- The fill and the alignment that start a layout. -/
def alignment : Text → Option Char × Option Alignment × Text
  | fill :: mark :: rest =>
    match Alignment.ofMark? mark, Alignment.ofMark? fill with
    | some align, _ => (some fill, some align, rest)
    | none, some align => (none, some align, mark :: rest)
    | none, none => (none, none, fill :: mark :: rest)
  | [mark] =>
    match Alignment.ofMark? mark with
    | some align => (none, some align, [])
    | none => (none, none, [mark])
  | [] => (none, none, [])

/-- Whether a presentation code admits a grouping mark. -/
def groupable (mark : Char) : Option Char → Bool
  | none => true
  | some code => "deEfFgG%".contains code || (mark == '_' && "boxX".contains code)

/-- The layout that a text describes for a kind of value with its natural alignment and code. -/
def layout (kind : String) (natural : Alignment) (code : Option Char) (text : Text) :
    Result Layout := do
  let (fill, align, rest) := alignment text
  let (sign, rest) := take? (fun c => c == '+' || c == '-' || c == ' ') rest
  let (zero, rest) := take? (· == 'z') rest
  let (alternate, rest) := take? (· == '#') rest
  let (padded, rest) := if fill.isNone then take? (· == '0') rest else (none, rest)
  let (width, rest) ← number rest
  let (comma, rest) := take? (· == ',') rest
  let (score, rest) := take? (· == '_') rest
  if comma.isSome && score.isSome then throw .bothGroupings
  if score.isSome && rest.head? == some ',' then throw .bothGroupings
  let (point, rest) := take? (· == '.') rest
  let (precision, rest) ← if point.isSome then number rest else pure (none, rest)
  if point.isSome && precision.isNone then throw .missingPrecision
  let (own, rest) := take? (fun _ => true) rest
  if !rest.isEmpty then
    throw (.badLayout (String.ofList text) kind)
  let code := own <|> code
  match comma <|> score with
  | some mark => if !groupable mark code then throw (.grouping mark (code.getD ' '))
  | none => pure ()
  let inner := padded.isSome && align.isNone && natural == .right
  return {
    fill := if padded.isSome then '0' else fill.getD ' '
    align := if inner then .inner else align.getD natural
    sign := sign
    zero := zero.isSome
    alternate := alternate.isSome
    width := width
    grouping := comma <|> score
    precision := precision
    code := code }

/-- Fills a body up to the width of a layout; a centred body leans to the left. -/
def pad (layout : Layout) (lead body : Text) : Result Text := do
  if tooWide < layout.width.getD 0 then throw .tooLong
  let missing := layout.width.getD 0 - (lead.length + body.length)
  let fill n := List.replicate n layout.fill
  return match layout.align with
    | .left => lead ++ body ++ fill missing
    | .right => fill missing ++ lead ++ body
    | .center => fill (missing / 2) ++ lead ++ body ++ fill (missing - missing / 2)
    | .inner => lead ++ fill missing ++ body

def text (text : Text) (spec : Text) : Result Text := do
  let layout ← layout "str" .left (some 's') spec
  if layout.code ≠ some 's' then throw (.unknownCode (layout.code.getD 's') "str")
  match layout.sign with
  | some sign => throw (.signInText sign)
  | none => pure ()
  if layout.zero then throw .zeroInText
  if layout.alternate then throw .alternateInText
  if layout.align = .inner then throw .innerAlignmentInText
  pad layout [] (match layout.precision with
    | some n => text.take n
    | none => text)

/-- A mark between groups of digits, counted from the right. -/
def grouped (mark : Char) (size : Nat) (digits : Text) : Text :=
  (digits.reverse.zipIdx.flatMap fun (c, i) =>
    if i % size = 0 && i ≠ 0 then [mark, c] else [c]).reverse

/-- How many digits fill a width together with their grouping marks. -/
def digitsFor (size width count : Nat) : Nat :=
  let wanted := (List.range (width + 1)).find? fun n =>
    count ≤ n && width ≤ n + (n - 1) / size
  wanted.getD (max count width)

/-- A number apart from its layout: what stands between the sign and the digits, the digits up to
the point, and what follows them. -/
structure Numeral where
  negative : Bool
  mark : Text := []
  whole : Text
  rest : Text := []

/-- A numeral with its sign, in groups of digits of a size where that is wanted. Zeros that fill
the width are grouped too. -/
def Numeral.lay (numeral : Numeral) (size : Nat) (layout : Layout) : Result Text := do
  if tooWide < layout.width.getD 0 then throw .tooLong
  let sign : Text :=
    if numeral.negative then ['-']
    else match layout.sign with
      | some '-' => []
      | some sign => [sign]
      | none => []
  let lead := sign ++ numeral.mark
  let body :=
    match numeral.whole, layout.grouping with
    | [], _ => []
    | digits, none => digits
    | digits, some mark =>
      let count :=
        if layout.fill = '0' && layout.align = .inner then
          digitsFor size (layout.width.getD 0 - lead.length - numeral.rest.length) digits.length
        else digits.length
      grouped mark size (List.replicate (count - digits.length) '0' ++ digits)
  pad layout lead (body ++ numeral.rest)

/-- The longest significand of a number of double precision is shorter than this. -/
def exactDigits : Nat := 800

/-- The longest fraction of a number of double precision is shorter than this. -/
def exactPlaces : Nat := 1100

/-- The form with a count of significant digits: positional from `1e-4` on as long as the digits
reach the point, and without zeros at its end. A number without a code keeps a place. -/
def general (count num den : Nat) (place alternate : Bool) : Decimal × Text :=
  let d := Decimal.significant (min count exactDigits) num den
  let stop : Int := if alternate then count else d.digits.length
  if d.point ≤ -4 || (count : Int) < d.point + (if place then 1 else 0) then
    (d, d.scientific stop alternate)
  else (d, d.positional (if place then max stop (d.point + 1) else stop) alternate)

/-- A finite magnitude in the form of a presentation code in lower case, beside its digits. -/
def magnitude (significand : Nat) (exponent : Int) (layout : Layout) (code : Option Char) :
    Decimal × Text :=
  let (num, den) := Binary64.ratio significand exponent
  let precision := layout.precision.getD 6
  match code with
  | none =>
    match layout.precision with
    | none =>
      let d := Decimal.shortest significand exponent
      (d, d.plain layout.alternate)
    | some precision => general (max precision 1) num den true layout.alternate
  | some 'e' =>
    let d := Decimal.significant (min (precision + 1) exactDigits) num den
    (d, d.scientific (precision + 1) layout.alternate)
  | some 'f' =>
    let places := min precision exactPlaces
    let d := Decimal.ofUnits (roundedQuotient (num * Nat.pow 10 places) den) (-places)
    (d, d.positional (d.point + precision) layout.alternate)
  | some _ => general (max precision 1) num den false layout.alternate

/-- A real number in the form that a layout asks for. -/
def numeralOf (x : Binary64) (layout : Layout) : Numeral :=
  let upper (body : Text) : Text :=
    if (layout.code.map Char.isUpper).getD false then body.map Char.toUpper else body
  let percent : Text := if layout.code = some '%' then ['%'] else []
  let code := if layout.code = some '%' then some 'f' else layout.code.map Char.toLower
  match if layout.code = some '%' then x.timesHundred else x with
  | .notANumber => ⟨false, [], [], upper ['n', 'a', 'n'] ++ percent⟩
  | .infinite negative => ⟨negative, [], [], upper ['i', 'n', 'f'] ++ percent⟩
  | .finite negative significand exponent =>
    let (d, body) := magnitude significand exponent layout code
    let (whole, rest) := (upper body).span Char.isDigit
    ⟨negative && !(layout.zero && d.digits == ['0']), [], whole, rest ++ percent⟩

/-- The presentation codes of real numbers. -/
def isRealCode (code : Char) : Bool := "eEfFgGn%".contains code

def layReal (x : Binary64) (layout : Layout) : Result Text := do
  if 0x7FFFFFFF < layout.precision.getD 0 then throw .precisionTooBig
  if tooWide < layout.precision.getD 0 then throw .tooLong
  (numeralOf x layout).lay 3 layout

def real (x : Binary64) (spec : Text) : Result Text := do
  let layout ← layout "float" .right none spec
  match layout.code with
  | some code => if !isRealCode code then throw (.unknownCode code "float")
  | none => pure ()
  layReal x layout

/-- A whole number as the character that it numbers. -/
def character (n : Int) (layout : Layout) : Result Text := do
  if layout.sign.isSome then throw .signInCharacter
  if layout.alternate then throw .alternateInCharacter
  if n < -0x8000000000000000 ∨ 0x8000000000000000 ≤ n then throw .beyondCharacters
  if n < 0 ∨ 0x110000 ≤ n then throw .notACharacter
  pad layout [] [Char.ofNat n.toNat]

/-- The base of a code for whole numbers, and the mark of its alternate form. -/
def base? : Char → Option (Nat × Text)
  | 'd' => some (10, [])
  | 'n' => some (10, [])
  | 'b' => some (2, ['0', 'b'])
  | 'o' => some (8, ['0', 'o'])
  | 'x' => some (16, ['0', 'x'])
  | 'X' => some (16, ['0', 'X'])
  | _ => none

/-- A whole number; a code of real numbers shows it as one of these. -/
def integer (n : Int) (kind : String) (spec : Text) : Result Text := do
  let layout ← layout kind .right (some 'd') spec
  let code := layout.code.getD 'd'
  if (base? code).isNone && isRealCode code then
    match Binary64.ofInt? n with
    | some x => layReal x layout
    | none => throw .beyondReals
  else
    if (base? code).isNone && code ≠ 'c' then throw (.unknownCode code kind)
    if layout.precision.isSome then throw .precisionInNumber
    if layout.zero then throw .zeroInNumber
    match base? code with
    | none => character n layout
    | some (base, mark) =>
      let digits := Nat.toDigits base n.natAbs
      let numeral : Numeral := {
        negative := n < 0
        mark := if layout.alternate then mark else []
        whole := if code = 'X' then digits.map Char.toUpper else digits }
      numeral.lay (if base = 10 then 3 else 4) layout

/-- A value in the layout that a text describes. -/
def value (value : Value) (spec : Text) : Result Text :=
  if spec.isEmpty then .ok value.plain.toList
  else
    match value with
    | .text s => text s.toList spec
    | .int n => integer n "int" spec
    | .bool b => integer (if b then 1 else 0) "bool" spec
    | .real x => real x spec
    | other => .error (.noLayout other.kind)

end Template

end FixLoop
