/-!
# Binary floating-point numbers

The numbers of the 64-bit binary format, held exactly: a finite one is `significand · 2 ^ exponent`
with a significand of at most 53 bits. The significand has all 53 bits unless the exponent is the
least one, so a number other than zero has one form.

Rounding takes the nearest number of the format, and of two equally near ones that with the even
significand. It is exact integer arithmetic throughout.
-/

namespace AccountAudit

/-- A number of the 64-bit binary format. -/
inductive Binary64 where
  | nan
  | infinity (negative : Bool)
  | finite (negative : Bool) (significand : Nat) (exponent : Int)
  deriving DecidableEq, Repr, Inhabited

namespace Binary64

/-! ## The format -/

/-- The least exponent of a finite number. -/
def leastExponent : Int := -1074

/-- The greatest exponent of a finite number. -/
def greatestExponent : Int := 971

/-- Significands lie below this bound. -/
def significandBound : Nat := Nat.pow 2 53

def zero (negative : Bool) : Binary64 :=
  .finite negative 0 leastExponent

/-! ## Rounding -/

/-- The quotient of two naturals rounded to the nearest one; a half goes to the even neighbour. -/
def roundQuotient (numerator denominator : Nat) : Nat :=
  let quotient := numerator / denominator
  let doubled := 2 * (numerator % denominator)
  if doubled < denominator then quotient
  else if denominator < doubled then quotient + 1
  else quotient + quotient % 2

/-- Numerator and denominator of a quotient in units of `2 ^ exponent`. -/
def inUnits (numerator denominator : Nat) (exponent : Int) : Nat × Nat :=
  if 0 ≤ exponent then (numerator, denominator * Nat.pow 2 exponent.toNat)
  else (numerator * Nat.pow 2 (-exponent).toNat, denominator)

/-- The exponent in whose units a positive quotient has a significand of 53 bits, or the least
exponent if that is greater. -/
def exponentFor (numerator denominator : Nat) : Int :=
  let guess : Int := (Nat.log2 numerator : Int) - (Nat.log2 denominator : Int) - 53
  let (above, below) := inUnits numerator denominator guess
  max leastExponent (if significandBound ≤ above / below then guess + 1 else guess)

/-- The number nearest to a quotient with positive denominator. -/
def ofQuotient (negative : Bool) (numerator denominator : Nat) : Binary64 :=
  if numerator = 0 then zero negative
  else
    let exponent := exponentFor numerator denominator
    let (above, below) := inUnits numerator denominator exponent
    let significand := roundQuotient above below
    let (significand, exponent) :=
      if significand = significandBound then (significand / 2, exponent + 1)
      else (significand, exponent)
    if greatestExponent < exponent then .infinity negative
    else .finite negative significand exponent

/-- The number nearest to `digits · 10 ^ exponent`. Far outside the range of the format the answer
is known without computing the power. -/
def ofDecimal (negative : Bool) (digits : Nat) (exponent : Int) : Binary64 :=
  let size : Int := (Nat.toDigits 10 digits).length
  if digits = 0 then zero negative
  else if 400 < size + exponent then .infinity negative
  else if size + exponent < -400 then zero negative
  else if 0 ≤ exponent then ofQuotient negative (digits * Nat.pow 10 exponent.toNat) 1
  else ofQuotient negative digits (Nat.pow 10 (-exponent).toNat)

/-- The number nearest to an integer. -/
def ofInt (i : Int) : Binary64 :=
  ofQuotient (i < 0) i.natAbs 1

/-! ## Questions -/

def isZero : Binary64 → Bool
  | .finite _ significand _ => significand == 0
  | _ => false

/-- Greater than zero; a NaN is not. -/
def isPositive : Binary64 → Bool
  | .nan => false
  | .infinity negative => !negative
  | .finite negative significand _ => !negative && significand != 0

/-- Less than zero; a NaN is not. -/
def isNegative : Binary64 → Bool
  | .nan => false
  | .infinity negative => negative
  | .finite negative significand _ => negative && significand != 0

/-- Numerator and denominator of a significand in units of `2 ^ exponent`. -/
def asQuotient (significand : Nat) (exponent : Int) : Nat × Nat :=
  if 0 ≤ exponent then (significand * Nat.pow 2 exponent.toNat, 1)
  else (significand, Nat.pow 2 (-exponent).toNat)

/-- The integer that the number is, if it is one. -/
def toInt? : Binary64 → Option Int
  | .finite negative significand exponent =>
    let (above, below) := asQuotient significand exponent
    if above % below = 0 then
      let magnitude : Int := (above / below : Nat)
      some (if negative then -magnitude else magnitude)
    else none
  | _ => none

/-- The integer next to the number on the side of zero, if the number is finite. -/
def truncate? : Binary64 → Option Int
  | .finite negative significand exponent =>
    let (above, below) := asQuotient significand exponent
    let magnitude : Int := (above / below : Nat)
    some (if negative then -magnitude else magnitude)
  | _ => none

end Binary64

end AccountAudit
