import AccountAudit.Product
import AccountAudit.Report.Assembly

/-!
# Audit report

A report for people on a whole scan, as Markdown: the counts, then a section for each class, the
gravest first, with the places, excerpts of the source and the advice.
-/

namespace AccountAudit
namespace Report
namespace Markdown

/-- How many units a scan dealt with. -/
structure UnitCounts where
  scanned : Nat
  failed : Nat
  skipped : Nat
  deriving DecidableEq, Repr

/-- The counts of all severities, the gravest first. -/
def severityCounts (findings : List Finding) : String :=
  ", ".intercalate (Severity.all.map fun severity =>
    severity.name ++ ": " ++ toString (findings.countP (·.severity == severity)))

/-- The lines above the sections; `time` is the time of the report. -/
def opening (time : String) (counts : UnitCounts) (findings : List Finding) : List String :=
  ["# Account-Model Security Scan", "",
    "Generated " ++ time ++ " by " ++ Product.name ++ " " ++ Product.version ++ ".", "",
    "- Units scanned: " ++ toString counts.scanned,
    "- Units failed: " ++ toString counts.failed,
    "- Units skipped: " ++ toString counts.skipped,
    "- Findings: " ++ toString findings.length ++ " (" ++ severityCounts findings ++ ")", ""]

/-- The line of a place if it is known, else its offset. -/
def placeNumber (location : Location) : Int :=
  match location.line with
  | some line => if line = 0 then location.start else line
  | none => location.start

def excerptLines (report : ClassReport) (place : AffectedPlace) : List String :=
  match report.excerpts.lookup (ClassReport.excerptKey place.location) with
  | none => []
  | some text =>
    ["", "  ```rust"] ++ (Text.lines text.toList).map (fun line => "  " ++ String.ofList line) ++
      ["  ```"]

def placeLines (report : ClassReport) (place : AffectedPlace) (message : String) : List String :=
  ("- `" ++ place.location.file ++ ":" ++ toString (placeNumber place.location) ++ "` " ++
    message) :: excerptLines report place

def adviceLines (report : ClassReport) : List String :=
  if report.remediation.isEmpty then []
  else
    ["", "**Remediation (" ++ report.remediationId ++ "): " ++ report.remediationTitle ++ "**", "",
      report.remediation] ++
      (if report.fix.isEmpty then []
      else ["", "```rust", String.ofList (Text.trimEnd report.fix.toList), "```"])

def sectionLines (report : ClassReport) : List String :=
  ["## " ++ report.classId ++ " " ++ report.name ++ " [" ++ report.severity.name.toUpper ++ "]",
    ""] ++
    (report.affected.zip report.messages).flatMap
      (fun (place, message) => placeLines report place message) ++
    adviceLines report ++ [""]

/-- The gravest class comes first; classes of one severity keep the order of their ids. -/
def bySeverity (reports : List ClassReport) : List ClassReport :=
  reports.mergeSort fun a b => a.severity.rank ≤ b.severity.rank

def render (registry : Registry) (time : String) (counts : UnitCounts) (units : List ProgramUnit)
    (findings : List Finding) : String :=
  "\n".intercalate (opening time counts findings ++
    (bySeverity (ClassReport.assemble registry units findings)).flatMap sectionLines)

end Markdown
end Report
end AccountAudit
