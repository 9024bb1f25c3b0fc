import AccountAudit.Number.Binary64

/-!
# Decimal forms of binary numbers

A number is written with the fewest decimal digits that read back as that number; of two such
decimals the one nearer to the number is taken, and of two equally near ones that with the even last
digit. How the digits are laid out is a matter of the place where they are written and is described
by a `DecimalLayout`.

Only exact integer arithmetic is used. The reals that round to a number form an interval around it,
whose ends belong to it exactly if its significand is even. On the grid of decimals with a given
number of digits only the two neighbours of the number need to be looked at: if any point of the
grid lies in the interval, one of these does.
-/

namespace AccountAudit

/-- The decimal `digits · 10 ^ exponent`. -/
structure Decimal where
  digits : Nat
  exponent : Int
  deriving DecidableEq, Repr

namespace Decimal

/-- Numerator and denominator of a decimal. -/
def asQuotient (d : Decimal) : Nat × Nat :=
  if 0 ≤ d.exponent then (d.digits * Nat.pow 10 d.exponent.toNat, 1)
  else (d.digits, Nat.pow 10 (-d.exponent).toNat)

/-- The decimal without the zeros at its end. -/
def withoutTrailingZeros : Nat → Decimal → Decimal
  | 0, d => d
  | fuel + 1, d =>
    if d.digits ≠ 0 ∧ d.digits % 10 = 0 then
      withoutTrailingZeros fuel ⟨d.digits / 10, d.exponent + 1⟩
    else d

end Decimal

namespace Binary64

/-- An interval of positive reals in quarters of `2 ^ exponent`, with or without its ends. -/
structure RoundingInterval where
  least : Nat
  greatest : Nat
  closed : Bool
  exponent : Int
  deriving DecidableEq, Repr

/-- The reals that round to `significand · 2 ^ exponent`. Below a power of two the numbers lie twice
as close, so the lower half of the interval is half as long there. -/
def roundingInterval (significand : Nat) (exponent : Int) : RoundingInterval :=
  let narrow := significand = significandBound / 2 ∧ leastExponent < exponent
  { least := if narrow then 4 * significand - 1 else 4 * significand - 2
    greatest := 4 * significand + 2
    closed := significand % 2 = 0
    exponent := exponent - 2 }

/-- The decimal lies in the interval. -/
def RoundingInterval.holds (interval : RoundingInterval) (d : Decimal) : Bool :=
  let (above, below) := d.asQuotient
  let (leastAbove, leastBelow) := asQuotient interval.least interval.exponent
  let (greatestAbove, greatestBelow) := asQuotient interval.greatest interval.exponent
  let least := leastAbove * below
  let greatest := greatestAbove * below
  if interval.closed then least ≤ above * leastBelow && above * greatestBelow ≤ greatest
  else least < above * leastBelow && above * greatestBelow < greatest

/-- The exponent of the first decimal digit of a positive quotient. -/
def firstDigitExponent (above below : Nat) : Int :=
  if below ≤ above then (Nat.toDigits 10 (above / below)).length - 1
  else
    -- ten to this power times the quotient reaches one
    let guess := (Nat.toDigits 10 (below / above)).length
    if below ≤ above * Nat.pow 10 (guess - 1) then -((guess : Int) - 1) else -(guess : Int)

/-- Of the two neighbours of a quotient among the decimals with exponent `grid`, the one in the
interval; the nearer one if both are. -/
def neighbour? (interval : RoundingInterval) (above below : Nat) (grid : Int) : Option Decimal :=
  let (above, below) :=
    if 0 ≤ grid then (above, below * Nat.pow 10 grid.toNat)
    else (above * Nat.pow 10 (-grid).toNat, below)
  let low : Decimal := ⟨above / below, grid⟩
  let high : Decimal := ⟨above / below + 1, grid⟩
  match interval.holds low, interval.holds high with
  | true, true => some (if roundQuotient above below = low.digits then low else high)
  | true, false => some low
  | false, true => some high
  | false, false => none

/-- The shortest decimal that reads back, for a significand other than zero; seventeen digits
always do. -/
def shortest (significand : Nat) (exponent : Int) : Decimal :=
  let (above, below) := asQuotient significand exponent
  let interval := roundingInterval significand exponent
  let first := firstDigitExponent above below
  let found := (List.range 17).findSome? fun (more : Nat) =>
    neighbour? interval above below (first - more)
  (found.getD ⟨significand, exponent⟩).withoutTrailingZeros 17

end Binary64

/-- How the digits of a number are laid out. -/
structure DecimalLayout where
  /-- From this exponent of the first digit on the digits are written around a point. -/
  leastPositional : Int
  /-- From this exponent on they are written with a power of ten. -/
  leastScientific : Int
  /-- The fewest digits of the exponent. -/
  exponentWidth : Nat
  nan : String
  infinity : String
  deriving DecidableEq, Repr

namespace DecimalLayout

/-- Numbers of moderate size are written around a point, which stands in integral ones too; the
exponent of the others has a sign and two digits. -/
def plain : DecimalLayout :=
  { leastPositional := -4
    leastScientific := 16
    exponentWidth := 2
    nan := "nan"
    infinity := "inf" }

private def zeros (n : Nat) : String :=
  String.ofList (List.replicate n '0')

/-- Digits around a point. -/
def positional (digits : List Char) (exponent : Int) : String :=
  if exponent < 0 then "0." ++ zeros (-exponent - 1).toNat ++ String.ofList digits
  else
    let whole := exponent.toNat + 1
    let fraction := digits.drop whole
    String.ofList (digits.take whole) ++ zeros (whole - digits.length) ++ "." ++
      (if fraction.isEmpty then "0" else String.ofList fraction)

/-- Digits with a power of ten. -/
def scientific (layout : DecimalLayout) (digits : List Char) (exponent : Int) : String :=
  let fraction := digits.drop 1
  let power := toString exponent.natAbs
  String.ofList (digits.take 1) ++
    (if fraction.isEmpty then "" else "." ++ String.ofList fraction) ++ "e" ++
    (if exponent < 0 then "-" else "+") ++ zeros (layout.exponentWidth - power.length) ++ power

/-- A positive decimal in a layout. -/
def decimal (layout : DecimalLayout) (d : Decimal) : String :=
  let digits := Nat.toDigits 10 d.digits
  let exponent := d.exponent + (digits.length - 1 : Nat)
  if layout.leastPositional ≤ exponent ∧ exponent < layout.leastScientific then
    positional digits exponent
  else layout.scientific digits exponent

end DecimalLayout

namespace Binary64

private def sign (negative : Bool) : String :=
  if negative then "-" else ""

/-- The number in a layout; the sign of a zero is written. -/
def render (layout : DecimalLayout) : Binary64 → String
  | .nan => layout.nan
  | .infinity negative => sign negative ++ layout.infinity
  | .finite negative significand exponent =>
    sign negative ++
      (if significand = 0 then "0.0" else layout.decimal (shortest significand exponent))

/-- The number rounded to one place after the point; a half goes to the even digit. -/
def renderTenths : Binary64 → String
  | .nan => DecimalLayout.plain.nan
  | .infinity negative => sign negative ++ DecimalLayout.plain.infinity
  | .finite negative significand exponent =>
    let (above, below) := asQuotient significand exponent
    let tenths := roundQuotient (10 * above) below
    sign negative ++ toString (tenths / 10) ++ "." ++ toString (tenths % 10)

end Binary64

end AccountAudit
