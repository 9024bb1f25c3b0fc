import AccountAudit.Fact.Basic
import AccountAudit.Failure

/-!
# Detectors

A detector is a function from a program unit and its facts to findings, with a description of
itself. It reports structural matches only; where nothing matches it says nothing. A detector that
comes from outside may fail.
-/

namespace AccountAudit

/-- What a detector says of itself. `label` names its kind for people who look at the registry. -/
structure DetectorInfo where
  label : String
  classId : String
  name : String
  description : String := ""
  severity : Severity := .medium
  category : String := ""
  remediationId : String := ""
  confidence : Binary64 := .ofDecimal false 8 (-1)
  deriving DecidableEq, Repr

/-- A detector. -/
structure Detector where
  info : DetectorInfo
  detect : ProgramUnit → FactBase → Except Fault (List Finding)

namespace DetectorInfo

/-- A finding of the detector. Its class, remediation and category are those of the detector, and
so are its severity and confidence unless the match has its own. -/
def finding (info : DetectorInfo) (title message : String) (location : Location)
    (handler : String) (metadata : List (String × Value)) (severity : Severity := info.severity)
    (confidence : Binary64 := info.confidence) : Finding :=
  { classId := info.classId, title, message, severity, location
    remediationId := info.remediationId, handler, confidence, category := info.category
    metadata := Assoc.ofPairs (("detector_name", .text info.name) :: metadata) }

@[simp]
theorem finding_classId (info : DetectorInfo) (title message : String) (location : Location)
    (handler : String) (metadata : List (String × Value)) (severity : Severity)
    (confidence : Binary64) :
    (info.finding title message location handler metadata severity confidence).classId =
      info.classId := rfl

@[simp]
theorem finding_location (info : DetectorInfo) (title message : String) (location : Location)
    (handler : String) (metadata : List (String × Value)) (severity : Severity)
    (confidence : Binary64) :
    (info.finding title message location handler metadata severity confidence).location =
      location := rfl

end DetectorInfo

namespace Detector

/-- A detector that looks at one handler after the other and does not fail. -/
def ofHandlers (info : DetectorInfo) (scan : FactBase → HandlerFacts → List Finding) : Detector :=
  { info, detect := fun _ facts => .ok (facts.handlers.flatMap (scan facts)) }

/-- The detector as the registry shows it. -/
def label (d : Detector) : String :=
  "<" ++ d.info.label ++ " " ++ d.info.classId ++ ">"

end Detector

/-- Texts as a value. -/
def Value.texts (ss : List String) : Value :=
  .list (ss.map .text)

end AccountAudit
