import AccountAudit.Fact.Extract
import AccountAudit.Registry
import AccountAudit.Settings.Basic
import AccountAudit.Text.Quoted

/-!
# Analysis of a unit

The analysis extracts the facts of a unit, runs every enabled detector on them, and reduces what
they report: of the findings with one key the first one stays, severities are overridden, suppressed
findings are dropped, and the rest is sorted.

A detector that fails, or that reports a place outside the unit, gives one finding about its failure
in place of its own findings; the other detectors are not affected.
-/

namespace AccountAudit
namespace Analysis

/-! ## Running detectors -/

/-- The mark of a finding about a failed detector. -/
def failureMark : String := "detector_failed"

/-- The finding about a detector that failed. -/
def failureFinding (info : DetectorInfo) (u : ProgramUnit) (fault : Fault) : Finding :=
  let name := if info.name.isEmpty then info.classId else info.name
  { classId := info.classId
    title := "Detector " ++ name ++ " failed"
    message := "Detector " ++ info.classId ++ " raised " ++ fault.text ++
      ". Results for this class are incomplete for unit " ++ u.name ++ "."
    severity := .informational
    location := { file := u.file, start := 0, stop := 0 }
    remediationId := "ENGINE-FAILURE"
    category := "analysis"
    metadata := [(failureMark, .bool true), ("error_type", .text fault.kind)] }

/-- A finding at a place outside the unit is a fault of its detector. -/
def outsideFault (u : ProgramUnit) (f : Finding) : Fault :=
  { kind := "ValueError"
    message := "finding location " ++ f.location.text ++ " is outside unit " ++
      Text.quote u.name }

/-- The findings of one detector, or the one about its failure. -/
def runDetector (u : ProgramUnit) (facts : FactBase) (d : Detector) : List Finding :=
  match d.detect u facts with
  | .error fault => [failureFinding d.info u fault]
  | .ok findings =>
    match findings.find? fun f => !u.files.contains f.location.file with
    | some outside => [failureFinding d.info u (outsideFault u outside)]
    | none => findings

/-- The diagnostics of the facts and the findings of all enabled detectors, in the order of the
registry. -/
def collect (registry : Registry) (settings : Settings) (u : ProgramUnit) (facts : FactBase) :
    List Finding :=
  facts.diagnostics ++
    (registry.detectors.filter fun d => settings.isEnabled d.info.classId).flatMap
      (runDetector u facts)

/-! ## Reducing findings -/

/-- Keeps the first finding of every key that is not among `seen`. -/
def firstsFrom (seen : List FindingKey) : List Finding → List Finding
  | [] => []
  | f :: rest =>
    if f.key ∈ seen then firstsFrom seen rest else f :: firstsFrom (f.key :: seen) rest

/-- The first finding of every key. -/
def firsts (findings : List Finding) : List Finding :=
  firstsFrom [] findings

/-- The finding is about a detector that failed. -/
def isFailure (f : Finding) : Bool :=
  (f.metadata.lookup failureMark).any Value.isGiven

/-- The finding with the severity that the settings give to its class; a finding about a failure
keeps its own. -/
def override (settings : Settings) (f : Finding) : Finding :=
  if isFailure f then f else { f with severity := settings.severityFor f.classId f.severity }

/-- What remains of collected findings. -/
def reduce (settings : Settings) (findings : List Finding) : List Finding :=
  Finding.sort (((firsts findings).map (override settings)).filter fun f =>
    !settings.isSuppressed f)

/-! ## The whole analysis -/

/-- The findings on a unit whose facts are known. -/
def ofFacts (registry : Registry) (settings : Settings) (u : ProgramUnit) (facts : FactBase) :
    List Finding :=
  reduce settings (collect registry settings u facts)

/-- The findings on a unit. -/
def run (registry : Registry) (settings : Settings) (u : ProgramUnit) :
    Except ExtractionFailure (List Finding) :=
  (FactBase.ofUnit u).map (ofFacts registry settings u)

end Analysis
end AccountAudit
