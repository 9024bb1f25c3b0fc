import AccountAudit.Analysis
import AccountAudit.Document.Loading

/-!
# Scans

A scan builds and analyses the unit of every document that some paths stand for, and merges what is
found. A unit that cannot be built or analysed gives one finding that tells so, which may be
suppressed like any other; nothing that happens to one unit affects another one.

Time itself is not part of the model: of limits on the duration of a scan only those count that are
over before the scan begins. A builder may tell that it took too long by a fault of its own.
-/

namespace AccountAudit

open Files

/-- What became of a unit. -/
inductive UnitState where
  | scanned
  | failed
  | skipped
  deriving DecidableEq, Repr

/-- What a scan of one path gives. A unit that could be built is kept even if its analysis fails. -/
structure UnitOutcome where
  path : String
  state : UnitState
  unit : Option ProgramUnit := none
  findings : List Finding := []
  deriving Repr

/-- What a whole scan gives. -/
structure ScanResult where
  scanned : List String
  failed : List String
  skipped : List String
  /-- The units that could be built, by their paths. -/
  units : List (String × ProgramUnit)
  findings : List Finding
  deriving Repr

/-- A fault as the analysis of a unit can run into. -/
def ExtractionFailure.fault : ExtractionFailure → Fault
  | .attribute issues => { kind := "ValidationError", message := issues.report "Expr" }
  | .digits excess => { kind := "ValueError", message := excess.message }

namespace Scan

/-- Turns a path into a unit. -/
abbrev Builder := Path → Except Mishap ProgramUnit

/-! ## Units that cannot be analysed -/

/-- The class of findings about units that were not analysed. -/
def unparseableClass : String := "SOL-IR-002"

/-- The finding about a unit that was not analysed. -/
def unparseableFinding (file reason : String) (metadata : List (String × Value)) : Finding :=
  { classId := unparseableClass
    title := "Unparseable program unit"
    message := file ++ " was not analyzed: " ++ reason ++ "."
    severity := .informational
    location := { file, start := 0, stop := 0 }
    remediationId := "IR-UNPARSEABLE"
    category := "analysis"
    metadata }

/-- A finding, unless it is suppressed. -/
def reportable (settings : Settings) (f : Finding) : List Finding :=
  if settings.isSuppressed f then [] else [f]

/-- Why a unit was not built: the reason, and the failure that tells it. A failure that is about a
unit is passed on, whatever path it names; everything else becomes a failure of this path. -/
def buildFailure (settings : Settings) (path : String) : Mishap → String × Failure
  | .failure (.unparseable other reason) => (reason, .unparseable other reason)
  | .failure (.timedOut other seconds) => (Failure.timeoutReason seconds, .timedOut other seconds)
  | mishap =>
    let fault := mishap.asFault
    if fault.kind = "TimeoutError" then
      (Failure.timeoutReason settings.unitTimeout, .timedOut path settings.unitTimeout)
    else (fault.text, .unparseable path fault.text)

/-- The findings about a unit that was not built. -/
def buildFindings (settings : Settings) (path : String) (mishap : Mishap) : List Finding :=
  let (reason, failure) := buildFailure settings path mishap
  reportable settings (unparseableFinding path reason failure.toFields)

/-- The findings about a unit whose analysis failed. -/
def analysisFindings (settings : Settings) (u : ProgramUnit) (fault : Fault) : List Finding :=
  reportable settings
    (unparseableFinding u.file ("analysis failed: " ++ fault.text)
      [("error_type", .text fault.kind)])

/-! ## Scanning -/

/-- The time for a scan is over before it begins. -/
def isOver (settings : Settings) : Bool :=
  settings.scanTimeout.any Binary64.isNegative

/-- Scans one path. -/
def scanUnit (builder : Builder) (registry : Registry) (settings : Settings) (path : Path) :
    UnitOutcome :=
  if isOver settings then { path := path.text, state := .skipped }
  else
    match builder path with
    | .error mishap =>
      { path := path.text, state := .failed
        findings := buildFindings settings path.text mishap }
    | .ok u =>
      match Analysis.run registry settings u with
      | .ok findings => { path := path.text, state := .scanned, unit := some u, findings }
      | .error failure =>
        { path := path.text, state := .failed, unit := some u
          findings := analysisFindings settings u failure.fault }

/-- The paths whose units ended in a state. -/
def pathsIn (state : UnitState) (outcomes : List UnitOutcome) : List String :=
  (outcomes.filter (·.state = state)).map (·.path)

/-- What the outcomes of all units come to. -/
def merge (outcomes : List UnitOutcome) : ScanResult :=
  { scanned := pathsIn .scanned outcomes
    failed := pathsIn .failed outcomes
    skipped := pathsIn .skipped outcomes
    units := outcomes.filterMap fun o => o.unit.map fun u => (o.path, u)
    findings := Finding.sort (outcomes.flatMap (·.findings)) }

/-- Scans documents that have been found. -/
def scanDocuments (builder : Builder) (registry : Registry) (settings : Settings)
    (documents : List Path) : ScanResult :=
  merge (documents.map (scanUnit builder registry settings))

/-- Scans the documents that paths in a tree stand for. -/
def run (tree : Tree) (builder : Builder) (registry : Registry) (settings : Settings)
    (paths : List Path) : ScanResult :=
  scanDocuments builder registry settings (Document.discover tree paths)

end Scan

/-- Some finding is as grave as the settings ask for a scan to count as failed. -/
def ScanResult.reaches (result : ScanResult) (threshold : Severity) : Bool :=
  Finding.anyReaches result.findings threshold

end AccountAudit
