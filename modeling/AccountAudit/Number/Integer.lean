import AccountAudit.Text.Digit

/-!
# Reading and writing integers

A run of decimal digits is read as a number only up to a fixed count of digits, which bounds the
work that a text can ask for. Leading zeros count as digits. A number is written only if it has no
more digits than that; texts of other bases can give numbers that have more.
-/

namespace AccountAudit

/-- Integers have at most this many digits. -/
def digitLimit : Nat := 4300

/-- An integer has more digits than are read or written. -/
inductive DigitExcess where
  /-- A text of so many digits is not read. -/
  | reading (digits : Nat)
  /-- A number is not written. -/
  | writing
  deriving DecidableEq, Repr

def DigitExcess.message (excess : DigitExcess) : String :=
  let count := match excess with
    | reading digits => s!": value has {digits} digits"
    | writing => ""
  s!"Exceeds the limit ({digitLimit} digits) for integer string conversion" ++ count ++
    "; use sys.set_int_max_str_digits() to increase the limit"

/-- Why a text in the form of an integer cannot be read. -/
inductive IntegerFailure where
  | tooLong (excess : DigitExcess)
  /-- No digit follows the mark of the base. -/
  | noDigits (base : Nat)
  deriving DecidableEq, Repr

def IntegerFailure.message : IntegerFailure → String
  | tooLong excess => excess.message
  | noDigits base => s!"invalid literal for int() with base {base}: ''"

/-- The number that digits of any script write. -/
def readDigits (digits : List Char) : Except DigitExcess Nat :=
  if digitLimit < digits.length then .error (.reading digits.length)
  else .ok (Text.digitsValue digits)

theorem readDigits_of_length_le {digits : List Char} (h : digits.length ≤ digitLimit) :
    readDigits digits = .ok (Text.digitsValue digits) := by
  simp [readDigits, Nat.not_lt.2 h]

theorem exists_readDigits_iff {digits : List Char} :
    (∃ n, readDigits digits = .ok n) ↔ digits.length ≤ digitLimit := by
  unfold readDigits
  split
  · simpa
  · simpa using Nat.not_lt.1 ‹_›

/-- An integer has few enough digits to be written. -/
def hasFewDigits (i : Int) : Bool :=
  i.natAbs < Nat.pow 10 digitLimit

end AccountAudit
