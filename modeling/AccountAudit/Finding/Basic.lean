import AccountAudit.Assoc
import AccountAudit.Severity

/-!
# Findings

What a detector reports: one structural match at a place of the analysed program. Two findings of
one class at one place are the same finding (`Finding.key`), whatever else they say, and findings
are listed in the order of their keys.
-/

namespace AccountAudit

/-- A range of offsets in a source file, with the line it starts on if that is known. -/
structure Location where
  file : String
  start : Int
  stop : Int
  line : Option Int := none
  deriving DecidableEq, Repr, Inhabited

/-- The location as messages and suppressions name it. -/
def Location.text (location : Location) : String :=
  location.file ++ ":" ++ toString location.start ++ "-" ++ toString location.stop

/-- A match of a detector. -/
structure Finding where
  classId : String
  title : String
  message : String
  severity : Severity
  location : Location
  remediationId : String := ""
  handler : String := ""
  confidence : Binary64 := .ofInt 1
  category : String := ""
  metadata : List (String × Value) := []
  deriving DecidableEq, Repr

/-- What tells findings apart. -/
structure FindingKey where
  classId : String
  file : String
  start : Int
  stop : Int
  deriving DecidableEq, Repr

namespace FindingKey

/-- Keys are compared part by part. -/
def order : FindingKey → FindingKey → Ordering :=
  compareLex (compareOn classId)
    (compareLex (compareOn file) (compareLex (compareOn start) (compareOn stop)))

end FindingKey

namespace Finding

def key (f : Finding) : FindingKey :=
  { classId := f.classId, file := f.location.file, start := f.location.start,
    stop := f.location.stop }

/-- The finding does not come after the other one. -/
def precedes (f g : Finding) : Bool :=
  (f.key.order g.key).isLE

/-- Findings in the order of their keys; those with one key keep their order. -/
def sort (findings : List Finding) : List Finding :=
  findings.mergeSort precedes

/-- The number of findings of each severity, in the order in which the severities appear. -/
def breakdown (findings : List Finding) : List (Severity × Nat) :=
  (Assoc.gather (findings.map fun f => (f.severity, f))).map fun (severity, group) =>
    (severity, group.length)

/-- Some finding is as grave as the threshold. -/
def anyReaches (findings : List Finding) (threshold : Severity) : Bool :=
  findings.any (·.severity.atLeast threshold)

/-- The finding as one flat record. -/
def record (f : Finding) : Value :=
  .ofFields
    [("classId", .text f.classId), ("severity", .text f.severity.name),
      ("file", .text f.location.file), ("startOffset", .int f.location.start),
      ("endOffset", .int f.location.stop), ("message", .text f.message),
      ("remediationId", .text f.remediationId)]

end Finding
end AccountAudit
