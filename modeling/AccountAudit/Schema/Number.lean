import AccountAudit.Number.Integer
import AccountAudit.Schema.Checked
import AccountAudit.Text.Basic

/-!
# Numbers and flags in documents

A number may be written as a number or as text, and a whole number also as a truth value or as a
floating-point number without fraction. Text may have blanks around it and single underscores
between digits.
-/

namespace AccountAudit
namespace Schema

/-! ## Texts of numbers -/

/-- The blanks that may stand around a number; the separators of information units are none. -/
def isNumberBlank (c : Char) : Bool :=
  Text.isBlank c && !(0x1C ≤ c.toNat && c.toNat ≤ 0x1F)

def trimNumber (cs : List Char) : List Char :=
  ((cs.dropWhile isNumberBlank).reverse.dropWhile isNumberBlank).reverse

def isAsciiDigit (c : Char) : Bool :=
  '0' ≤ c && c ≤ '9'

/-- A sign in front of a number: whether it is a minus, and what follows. -/
def takeSign : List Char → Bool × List Char
  | '-' :: rest => (true, rest)
  | '+' :: rest => (false, rest)
  | cs => (false, cs)

/-- Digits without the underscores between them, each of which has a digit on both sides. -/
def joinDigits? (cs : List Char) : Option (List Char) :=
  let groups := Text.splitOn ['_'] cs
  if groups.all fun group => !group.isEmpty && group.all isAsciiDigit then some groups.flatten
  else none

/-- A decimal point with nothing but zeros behind it changes nothing. -/
def withoutZeroFraction (cs : List Char) : List Char :=
  let whole := cs.takeWhile (· != '.')
  if (cs.drop (whole.length + 1)).all (· == '0') then whole else cs

/-- The integer that a text writes. -/
def integerOfText (s : String) : Except Cause Int :=
  let (negative, body) := takeSign (trimNumber s.toList)
  match joinDigits? (withoutZeroFraction body) with
  | none => .error .unreadableInteger
  | some digits =>
    match readDigits digits with
    | .error _ => .error .unboundedInteger
    | .ok n => .ok (if negative then -n else n)

/-- The exponent behind the digits of a number, if any; `none` for anything else. -/
def exponentOf? : List Char → Option Int
  | [] => some 0
  | c :: rest =>
    if c == 'e' || c == 'E' then
      let (negative, digits) := takeSign rest
      if digits.isEmpty || !digits.all isAsciiDigit then none
      else
        let size : Int := (Text.digitsValue digits : Nat)
        some (if negative then -size else size)
    else none

/-- The number that digits with a point and an exponent write. -/
def decimalOf? (negative : Bool) (cs : List Char) : Option Binary64 :=
  let whole := cs.takeWhile isAsciiDigit
  let rest := cs.dropWhile isAsciiDigit
  let (fraction, rest) := match rest with
    | '.' :: more => (more.takeWhile isAsciiDigit, more.dropWhile isAsciiDigit)
    | _ => ([], rest)
  if (whole ++ fraction).isEmpty then none
  else
    (exponentOf? rest).map fun shift =>
      .ofDecimal negative (Text.digitsValue (whole ++ fraction)) (shift - fraction.length)

/-- Some digits of the text have an underscore that may be left out. -/
def withoutUnderscores? (cs : List Char) : Option (List Char) :=
  let groups := Text.splitOn ['_'] cs
  if groups.all (!·.isEmpty) then some groups.flatten else none

/-- The number that a text writes. -/
def numberOfText (s : String) : Except Cause Binary64 :=
  let trimmed := trimNumber s.toList
  let (negative, body) := takeSign trimmed
  let small := body.map Char.toLower
  if small = "inf".toList ∨ small = "infinity".toList then .ok (.infinity negative)
  else if small = "nan".toList then .ok .nan
  else
    match (withoutUnderscores? body).bind (decimalOf? negative) with
    | some x => .ok x
    | none => .error .unreadableNumber

/-! ## Reading -/

/-- The integers to which a floating-point number may stand for. -/
def floatIntegerBound : Nat := Nat.pow 2 63

/-- An integer. -/
def integer (v : Value) : Checked Int :=
  match v with
  | .int i => .ok i
  | .bool b => .ok (if b then 1 else 0)
  | .float .nan | .float (.infinity _) => refuse .infiniteInteger v
  | .float x =>
    match x.toInt? with
    | none => refuse .fractionalInteger v
    | some i => if i.natAbs < floatIntegerBound then .ok i else refuse .unboundedInteger v
  | .text s =>
    match integerOfText s with
    | .ok i => .ok i
    | .error cause => refuse cause v
  | _ => refuse .notInteger v

/-- An integer that is not less than a bound. -/
def integerFrom (bound : Int) (v : Value) : Checked Int :=
  (integer v).bind fun i => if i < bound then refuse (.below bound) v else .ok i

/-- A natural number. -/
def natural (v : Value) : Checked Nat :=
  (integerFrom 0 v).map Int.toNat

/-- A number. -/
def number (v : Value) : Checked Binary64 :=
  match v with
  | .float x => .ok x
  | .int i =>
    match Binary64.ofInt i with
    | .infinity _ => refuse .notNumber v
    | x => .ok x
  | .bool b => .ok (.ofInt (if b then 1 else 0))
  | .text s =>
    match numberOfText s with
    | .ok x => .ok x
    | .error cause => refuse cause v
  | _ => refuse .notNumber v

/-- A number above zero. -/
def positiveNumber (v : Value) : Checked Binary64 :=
  (number v).bind fun x => if x.isZero || x.isNegative then refuse (.notAbove 0) v else .ok x

/-- A truth value, which may also be written as 0 or 1 or as one of a few words. -/
def flag (v : Value) : Checked Bool :=
  match v with
  | .bool b => .ok b
  | .int i => ofInteger i
  | .float x =>
    match x.toInt? with
    | some i => ofInteger i
    | none => refuse .notFlag v
  | .text s =>
    let word := (s.map Char.toLower)
    if ["0", "off", "f", "false", "n", "no"].contains word then .ok false
    else if ["1", "on", "t", "true", "y", "yes"].contains word then .ok true
    else refuse .unreadableFlag v
  | _ => refuse .notFlag v
where
  ofInteger (i : Int) : Checked Bool :=
    if i = 0 then .ok false else if i = 1 then .ok true else refuse .unreadableFlag v

end Schema
end AccountAudit
