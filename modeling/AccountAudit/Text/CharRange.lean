/-!
# Ranges of characters

Sets of characters given by ranges of code points, as the properties of the Unicode standard are.
A table lists its ranges in ascending order, so a look-up may stop at the first range that starts
above the code point.
-/

namespace AccountAudit
namespace Text

/-- Closed ranges of code points, ascending and apart from one another. -/
abbrev CharRanges := List (Nat × Nat)

namespace CharRanges

/-- The start of the range that holds a code point. -/
def start? : CharRanges → Nat → Option Nat
  | [], _ => none
  | (first, last) :: rest, n =>
    if n < first then none else if n ≤ last then some first else start? rest n

/-- Some range holds the code point. -/
def holds (ranges : CharRanges) (n : Nat) : Bool :=
  (ranges.start? n).isSome

end CharRanges

/-- Every `step`-th code point from `first` to `last`. -/
structure CharRun where
  first : Nat
  last : Nat
  step : Nat
  deriving DecidableEq, Repr

/-- The run meets the code point. -/
def CharRun.holds (run : CharRun) (n : Nat) : Bool :=
  run.first ≤ n && n ≤ run.last && (n - run.first) % run.step == 0

end Text
end AccountAudit
