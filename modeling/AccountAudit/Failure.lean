import AccountAudit.Number.Decimal
import AccountAudit.Text.Quoted
import AccountAudit.Value.Basic

/-!
# Failures

What can go wrong around an analysis: a program unit cannot be built, a detector is registered
twice, the settings are unusable. Each failure has a code for programs, a message for people and
details; each kind of failure is a special case of more general ones (`Failure.lineage`). Whatever
else goes wrong is a fault, which has a kind and a message only.
-/

namespace AccountAudit

inductive Failure where
  /-- A failure of no special kind. -/
  | general (message : String) (details : List (String × Value))
  /-- No program unit could be built from a path. -/
  | unparseable (path reason : String)
  /-- Building a program unit took longer than it may. -/
  | timedOut (path : String) (seconds : Binary64)
  /-- A class id is taken already. -/
  | duplicateDetector (classId : String)
  /-- The settings cannot be loaded or are not valid. -/
  | badSettings (message : String) (details : List (String × Value))
  deriving DecidableEq, Repr

namespace Failure

/-- The kinds that a failure belongs to, the most special one first. -/
def lineage : Failure → List String
  | general _ _ => ["AcctScanError"]
  | unparseable _ _ => ["UnparseableUnitError", "AcctScanError"]
  | timedOut _ _ => ["UnitTimeoutError", "UnparseableUnitError", "AcctScanError"]
  | duplicateDetector _ => ["DuplicateDetectorError", "AcctScanError"]
  | badSettings _ _ => ["ConfigError", "AcctScanError"]

/-- The most special kind of a failure. -/
def kind (f : Failure) : String :=
  f.lineage.headD ""

def code : Failure → String
  | general _ _ => "UNPARSEABLE_UNIT"
  | unparseable _ _ => "UNPARSEABLE_UNIT"
  | timedOut _ _ => "UNIT_TIMEOUT"
  | duplicateDetector _ => "DUPLICATE_DETECTOR"
  | badSettings _ _ => "CONFIG_ERROR"

/-- What to say of a program unit that took too long. -/
def timeoutReason (seconds : Binary64) : String :=
  "timed out after " ++ seconds.renderTenths ++ "s"

/-- What to say of a program unit that cannot be built. -/
def unitMessage (path reason : String) : String :=
  "cannot build program unit from " ++ path ++ ": " ++ reason

def message : Failure → String
  | general message _ => message
  | unparseable path reason => unitMessage path reason
  | timedOut path seconds => unitMessage path (timeoutReason seconds)
  | duplicateDetector classId =>
    "detector class id " ++ Text.quote classId ++ " is already registered"
  | badSettings message _ => message

def details : Failure → List (String × Value)
  | general _ details => details
  | unparseable path _ => [("path", .text path)]
  | timedOut path _ => [("path", .text path)]
  | duplicateDetector classId => [("class_id", .text classId)]
  | badSettings _ details => details

/-- Code, message and details as fields of one table. -/
def toFields (f : Failure) : List (String × Value) :=
  [("code", .text f.code), ("message", .text f.message), ("details", .ofFields f.details)]

/-- Code, message and details as one value. -/
def toValue (f : Failure) : Value :=
  .ofFields f.toFields

end Failure

/-- A failure of code that the analysis calls and knows nothing about: its kind and its text. -/
structure Fault where
  kind : String
  message : String
  deriving DecidableEq, Repr

/-- A fault as messages name it. -/
def Fault.text (fault : Fault) : String :=
  fault.kind ++ ": " ++ fault.message

/-- Anything that can go wrong: a failure with a code, or a fault. -/
inductive Mishap where
  | failure (f : Failure)
  | fault (f : Fault)
  deriving DecidableEq, Repr

/-- What went wrong, without its code. -/
def Mishap.asFault : Mishap → Fault
  | failure f => { kind := f.kind, message := f.message }
  | fault f => f

end AccountAudit
