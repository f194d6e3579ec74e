import FixLoop.Number.Binary64
import FixLoop.Text.Basic

/-!
Decimal forms of binary numbers: the fewest digits that read back as the same number, a count of
significant digits, or a count of places; and how such digits are written with a point or an
exponent.
-/

namespace FixLoop

/-- The digits after the point of `0.d₁d₂…`, times ten to the power `point`. -/
structure Decimal where
  digits : Text
  point : Int
  deriving Repr, DecidableEq

namespace Decimal

/-- A number of units, each ten to a power, without zeros at its end. -/
def ofUnits (units : Nat) (power : Int) : Decimal :=
  if units = 0 then { digits := ['0'], point := 1 }
  else
    let digits := Nat.toDigits 10 units
    { digits := (digits.reverse.dropWhile (· == '0')).reverse
      point := power + digits.length }

/-- The place of the point of a positive ratio: the least power of ten above it. -/
def pointOf (num den : Nat) : Int :=
  if den ≤ num then (Nat.toDigits 10 (num / den)).length
  else
    let places := (Nat.toDigits 10 (den / num)).length
    if den ≤ num * Nat.pow 10 (places - 1) then 2 - (places : Int) else 1 - (places : Int)

/-- A ratio after a division by ten to a power. -/
def scaledDown (power : Int) (num den : Nat) : Nat × Nat :=
  if 0 ≤ power then (num, den * Nat.pow 10 power.toNat)
  else (num * Nat.pow 10 power.natAbs, den)

/-- A ratio rounded to a count of significant digits. -/
def significant (count num den : Nat) : Decimal :=
  if num = 0 then ofUnits 0 0
  else
    let power := pointOf num den - count
    let (num, den) := scaledDown power num den
    ofUnits (roundedQuotient num den) power

/--
The numbers that are read as a finite magnitude: from `low` to `high` quarters of its last bit, the
ends included if its significand is even. Below a power of two the gap is half as wide.
-/
def neighbourhood (significand : Nat) (exponent : Int) : Nat × Nat :=
  let low :=
    if significand = 0x10000000000000 ∧ Binary64.leastExponent < exponent then
      4 * significand - 1
    else 4 * significand - 2
  (low, 4 * significand + 2)

/-- The nearest decimal of a count of digits, if it or its other neighbour reads back. -/
def readingBack? (significand : Nat) (exponent : Int) (count : Nat) : Option Decimal :=
  let (num, den) := Binary64.ratio significand exponent
  let power := pointOf num den - count
  let (num, den) := scaledDown power num den
  let (low, high) := neighbourhood significand exponent
  let within (units : Nat) : Bool :=
    let (value, low, high) := (4 * significand * den * units, low * num, high * num)
    if significand % 2 = 0 then low ≤ value && value ≤ high else low < value && value < high
  let nearest := roundedQuotient num den
  let other := if nearest * den ≤ num then nearest + 1 else nearest - 1
  if within nearest then some (ofUnits nearest power)
  else if within other then some (ofUnits other power)
  else none

/-- The fewest digits that read back as a finite magnitude; seventeen always do. -/
def shortest (significand : Nat) (exponent : Int) : Decimal :=
  if significand = 0 then ofUnits 0 0
  else
    ((List.range 17).findSome? fun count => readingBack? significand exponent (count + 1)).getD <|
      let (num, den) := Binary64.ratio significand exponent
      significant 17 num den

/-- The digits from one place to another, zeros where there are none. -/
def slice (d : Decimal) (start stop : Int) : Text :=
  let count := (stop - start).toNat
  let shown := (List.replicate (-start).toNat '0' ++ d.digits.drop start.toNat).take count
  shown ++ List.replicate (count - shown.length) '0'

/-- An exponent with its sign and at least two digits. -/
def exponentText (exponent : Int) : Text :=
  let digits := Nat.toDigits 10 exponent.natAbs
  (if exponent < 0 then '-' else '+') :: List.replicate (2 - digits.length) '0' ++ digits

/-- The digits up to a place with the point among them; an alternate form keeps a point that
nothing follows. -/
def positional (d : Decimal) (stop : Int) (alternate : Bool) : Text :=
  let whole := if d.point ≤ 0 then ['0'] else d.slice 0 d.point
  let fraction := d.slice d.point (max stop d.point)
  whole ++ (if fraction.isEmpty && !alternate then [] else '.' :: fraction)

/-- The digits up to a place with the point after the first of them, and an exponent. -/
def scientific (d : Decimal) (stop : Int) (alternate : Bool) : Text :=
  positional { d with point := 1 } stop alternate ++ 'e' :: exponentText (d.point - 1)

/-- The form of a number by itself: positional from `1e-4` up to `1e16`, with a place at least. -/
def plain (d : Decimal) (alternate : Bool) : Text :=
  if d.point ≤ -4 || 16 < d.point then d.scientific d.digits.length alternate
  else d.positional (max d.digits.length (d.point + 1)) alternate

end Decimal

/-- A number by itself, in the fewest digits that read back. -/
def Binary64.text : Binary64 → String
  | .finite negative significand exponent =>
    (if negative then "-" else "") ++
      String.ofList ((Decimal.shortest significand exponent).plain false)
  | .infinite negative => if negative then "-inf" else "inf"
  | .notANumber => "nan"

end FixLoop
