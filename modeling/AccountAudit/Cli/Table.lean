import AccountAudit.Cli.Style
import AccountAudit.Scan

/-!
# Tables of findings

The findings of a scan as lines for a terminal, the gravest ones first.
-/

namespace AccountAudit
namespace Cli
namespace Table

open Style

/-- Messages are cut to this many characters. -/
def messageLimit : Nat := 200

def shortened (message : String) : String :=
  if message.length ≤ messageLimit then message
  else String.ofList (message.toList.take messageLimit) ++ "…"

/-- The gravest findings come first; those of one severity are in the order of their keys. -/
def bySeverity (findings : List Finding) : List Finding :=
  (Finding.sort findings).mergeSort fun f g => f.severity.rank ≤ g.severity.rank

/-- The counts of units, and the time that the scan took. -/
def countLines (duration : String) (result : ScanResult) : List String :=
  ["", paint bold "Scan complete",
    "  Units: " ++ toString result.scanned.length ++ " scanned  |  " ++
      toString result.failed.length ++ " failed  |  " ++ toString result.skipped.length ++
      " skipped  |  Duration: " ++ duration, ""]

/-- The number of findings of each severity that has some. -/
def summaryLines (findings : List Finding) : List String :=
  let parts := Severity.all.filterMap fun severity =>
    let count := findings.countP (·.severity == severity)
    if count = 0 then none
    else some (paint (ofSeverity severity) (toString count ++ " " ++ title severity))
  ["  " ++ " · ".intercalate parts, ""]

/-- A number in a column of three characters, at its right end. -/
def inColumn (n : Nat) : String :=
  let digits := toString n
  String.ofList (List.replicate (3 - digits.length) ' ') ++ digits

/-- The line of a finding, or its offset if the line is not known. -/
def placeNumber (location : Location) : Int :=
  location.line.getD location.start

def headLine (number : Nat) (f : Finding) : String :=
  "  " ++ paint dim (inColumn number ++ ".") ++ " " ++
    paint (ofSeverity f.severity ++ bold) (" " ++ title f.severity ++ " ") ++ " " ++
    paint bold ("[" ++ f.classId ++ "] " ++ f.title) ++
    paint dim ("  " ++ f.location.file ++ ":" ++ toString (placeNumber f.location))

def messageLines (f : Finding) : List String :=
  ("       " ++ paint dim (shortened f.message)) ::
    (if f.remediationId.isEmpty then [] else ["       " ++ paint dim ("Fix: " ++ f.remediationId)])

def findingLines (quiet : Bool) (number : Nat) (f : Finding) : List String :=
  headLine number f :: ((if quiet then [] else messageLines f) ++ [""])

/-- The findings with their numbers. -/
def numberedLines (quiet : Bool) : Nat → List Finding → List String
  | _, [] => []
  | number, f :: rest => findingLines quiet number f ++ numberedLines quiet (number + 1) rest

/-- The lines on the result of a scan. -/
def lines (quiet : Bool) (duration : String) (result : ScanResult) : List String :=
  (if quiet then [] else countLines duration result) ++
    if result.findings.isEmpty then [paint green "  ✓ No findings."]
    else
      summaryLines result.findings ++ numberedLines quiet 1 (bySeverity result.findings)

end Table
end Cli
end AccountAudit
