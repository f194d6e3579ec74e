/-!
Binary numbers of double precision: a significand of 53 bits times a power of two. Every operation
gives the number nearest to the exact result; of two that are equally near, the even one.
-/

namespace FixLoop

/-- A quotient rounded to the nearest whole number, a half to the even neighbour. -/
def roundedQuotient (num den : Nat) : Nat :=
  let whole := num / den
  let rest := num % den
  if den < 2 * rest ∨ 2 * rest = den ∧ whole % 2 = 1 then whole + 1 else whole

/-- A rounded quotient is at most half a unit away from the exact one. -/
theorem roundedQuotient_near {num den : Nat} (positive : 0 < den) :
    2 * (den * roundedQuotient num den) ≤ 2 * num + den ∧
      2 * num ≤ 2 * (den * roundedQuotient num den) + den := by
  have parts := Nat.div_add_mod num den
  have small := Nat.mod_lt num positive
  simp only [roundedQuotient]
  split
  · rw [Nat.mul_add]
    omega
  · omega

theorem roundedQuotient_one (num : Nat) : roundedQuotient num 1 = num := by
  simp [roundedQuotient, Nat.mod_one]

/-- `finite negative significand exponent` is the significand times two to the exponent. The
significand is below `2^53`, and it is at least `2^52` unless the exponent is the least, `-1074`. -/
inductive Binary64 where
  | finite (negative : Bool) (significand : Nat) (exponent : Int)
  | infinite (negative : Bool)
  | notANumber
  deriving Repr, DecidableEq, Inhabited

namespace Binary64

def leastExponent : Int := -1074

def greatestExponent : Int := 971

def zero (negative : Bool) : Binary64 := .finite negative 0 leastExponent

/-- The ratio of two numbers after a division by two to a power. -/
def scaledDown (exponent : Int) (num den : Nat) : Nat × Nat :=
  if 0 ≤ exponent then (num, den <<< exponent.toNat) else (num <<< exponent.natAbs, den)

/-- The number nearest to a ratio. -/
def ofRatio (negative : Bool) (num den : Nat) : Binary64 :=
  if num = 0 then zero negative
  else
    let low := max ((Nat.log2 num : Int) - Nat.log2 den - 53) leastExponent
    let (scaledNum, scaledDen) := scaledDown low num den
    let exponent := if 0x20000000000000 ≤ scaledNum / scaledDen then low + 1 else low
    let (scaledNum, scaledDen) := scaledDown exponent num den
    let significand := roundedQuotient scaledNum scaledDen
    let (significand, exponent) :=
      if significand = 0x20000000000000 then (0x10000000000000, exponent + 1)
      else (significand, exponent)
    if greatestExponent < exponent then .infinite negative
    else .finite negative significand exponent

/-- The number nearest to decimal digits times ten to a power. -/
def ofDecimal (negative : Bool) (digits : Nat) (exponent : Int) : Binary64 :=
  let leading := exponent + (Nat.toDigits 10 digits).length
  if digits = 0 ∨ leading < -400 then zero negative
  else if 400 < leading then .infinite negative
  else if 0 ≤ exponent then ofRatio negative (digits * Nat.pow 10 exponent.toNat) 1
  else ofRatio negative digits (Nat.pow 10 exponent.natAbs)

/-- The number nearest to a whole number, unless that is too large. -/
def ofInt? (n : Int) : Option Binary64 :=
  match ofRatio (n < 0) n.natAbs 1 with
  | .infinite _ => none
  | x => some x

def isNegative : Binary64 → Bool
  | .finite negative _ _ => negative
  | .infinite negative => negative
  | .notANumber => false

/-- Zero alone counts as no. -/
def isTruthy : Binary64 → Bool
  | .finite _ significand _ => significand ≠ 0
  | _ => true

/-- The ratio that a finite magnitude is, exactly. -/
def ratio (significand : Nat) (exponent : Int) : Nat × Nat :=
  if 0 ≤ exponent then (significand <<< exponent.toNat, 1)
  else (significand, 1 <<< exponent.natAbs)

/-- A number multiplied by a hundred. -/
def timesHundred : Binary64 → Binary64
  | .finite negative significand exponent =>
    let (num, den) := ratio significand exponent
    ofRatio negative (num * 100) den
  | x => x

/-- A number rounded to thousandths. -/
def toThousandths : Binary64 → Binary64
  | .finite negative significand exponent =>
    let (num, den) := ratio significand exponent
    ofDecimal negative (roundedQuotient (num * 1000) den) (-3)
  | x => x

end Binary64

end FixLoop
