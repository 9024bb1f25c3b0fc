import AccountAudit.Finding.Basic
import AccountAudit.Program.Basic
import AccountAudit.Registry
import AccountAudit.Remediation

/-!
# Class reports

Findings gathered by class, each class with its name, its gravest severity, the places where it was
found, excerpts of the source there, and the advice on how to mend it. The classes are in the order
of their ids and the places in the order of the findings' keys, whatever order the findings came in.
-/

namespace AccountAudit

/-- A place where a class was found. -/
structure AffectedPlace where
  location : Location
  handler : String
  deriving DecidableEq, Repr

/-- What a report says about one class. -/
structure ClassReport where
  classId : String
  name : String
  severity : Severity
  affected : List AffectedPlace := []
  excerpts : List (String × String) := []
  messages : List String := []
  remediationId : String := ""
  remediationTitle : String := ""
  remediation : String := ""
  fix : String := ""
  deriving DecidableEq, Repr

namespace ClassReport

/-! ## Names of classes -/

/-- The classes that no detector stands for. -/
def analysisClasses : List (String × String) :=
  [("SOL-IR-001", "Unresolved Construct"), ("SOL-IR-002", "Unparseable Program Unit")]

/-- The name of a class: that of its detector, or the id itself if there is none. -/
def nameOf (registry : Registry) (classId : String) : String :=
  match analysisClasses.lookup classId with
  | some name => name
  | none =>
    match (registry.get? classId).map (·.info.name) with
    | some name => if name.isEmpty then classId else name
    | none => classId

/-! ## Excerpts -/

/-- An excerpt has at most this many characters. -/
def excerptLimit : Nat := 400

/-- The key of an excerpt. -/
def excerptKey (location : Location) : String :=
  toString location.start ++ "-" ++ toString location.stop

/-- The source at a location; of several units with the file the first one counts. -/
def excerpt? (units : List ProgramUnit) (location : Location) : Option String :=
  (units.find? fun u => u.files.contains location.file).bind fun u =>
    let source := (u.sourceFor location.file).toList
    let text := Text.slice source location.start location.stop
    if text.isEmpty then none else some (String.ofList (text.take excerptLimit))

/-! ## Assembling -/

/-- The graver of two severities. -/
def graver (a b : Severity) : Severity :=
  if b.rank < a.rank then b else a

/-- The report on one class, whose findings are given in order; the first one settles the advice. -/
def ofGroup (registry : Registry) (units : List ProgramUnit) (classId : String) (first : Finding)
    (rest : List Finding) : ClassReport :=
  let findings := first :: rest
  let advice := Remediation.get? first.remediationId
  { classId
    name := nameOf registry classId
    severity := rest.foldl (fun severity f => graver severity f.severity) first.severity
    affected := findings.map fun f => { location := f.location, handler := f.handler }
    excerpts := Assoc.ofPairs (findings.filterMap fun f =>
      (excerpt? units f.location).map fun text => (excerptKey f.location, text))
    messages := findings.map Finding.message
    remediationId := first.remediationId
    remediationTitle := (advice.map Remediation.title).getD ""
    remediation := (advice.map Remediation.description).getD ""
    fix := (advice.map Remediation.fix).getD "" }

/-- One report for each class that was found. -/
def assemble (registry : Registry) (units : List ProgramUnit) (findings : List Finding) :
    List ClassReport :=
  let grouped := Assoc.gather ((Finding.sort findings).map fun f => (f.classId, f))
  grouped.filterMap fun
    | (_, []) => none
    | (classId, first :: rest) => some (ofGroup registry units classId first rest)

/-- A report with all its fields. -/
def toValue (report : ClassReport) : Value :=
  .ofFields
    [("class_id", .text report.classId), ("name", .text report.name),
      ("severity", .text report.severity.name),
      ("affected", .list (report.affected.map fun place =>
        .ofFields
          [("file", .text place.location.file), ("start_offset", .int place.location.start),
            ("end_offset", .int place.location.stop),
            ("start_line", match place.location.line with
              | some line => .int line
              | none => .null),
            ("handler", .text place.handler)])),
      ("excerpts", .ofFields (report.excerpts.map fun (key, text) => (key, .text text))),
      ("messages", .list (report.messages.map .text)),
      ("remediation_id", .text report.remediationId),
      ("remediation_title", .text report.remediationTitle),
      ("remediation", .text report.remediation), ("fix_template", .text report.fix)]

end ClassReport
end AccountAudit
