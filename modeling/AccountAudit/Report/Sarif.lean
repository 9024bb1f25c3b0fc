import AccountAudit.Product
import AccountAudit.Report.Assembly
import AccountAudit.Value.Json

/-!
# SARIF

The findings in the static analysis results interchange format 2.1.0: one rule for each class, in
the order in which the classes appear, and one result for each finding.
-/

namespace AccountAudit
namespace Report
namespace Sarif

def level : Severity → String
  | .critical | .high => "error"
  | .medium => "warning"
  | .low | .informational => "note"

/-- The severity on the scale from 0 to 10. -/
def score : Severity → String
  | .critical => "9.5"
  | .high => "7.5"
  | .medium => "5.5"
  | .low => "3.5"
  | .informational => "1.0"

private def texts (ss : List String) : Value :=
  .list (ss.map .text)

/-- The tags of a rule: the category, then those of the advice that are not among them. -/
def tags (f : Finding) (advice : Option Remediation) : List String :=
  let own := "security" :: (if f.category.isEmpty then [] else [f.category])
  own ++ ((advice.map Remediation.tags).getD []).filter fun tag => !own.contains tag

def ruleProperties (f : Finding) : Value :=
  let advice := Remediation.get? f.remediationId
  let advised : List (String × Value) := match advice with
    | some advice =>
      [("references", texts advice.references), ("fixStrategy", .text advice.strategy.name)]
    | none => []
  .ofFields ([("security-severity", .text (score f.severity))] ++ advised ++
    [("tags", texts (tags f advice))])

/-- The rule of the class of a finding. -/
def rule (registry : Registry) (f : Finding) : Value :=
  let name := ClassReport.nameOf registry f.classId
  let description := ((Remediation.get? f.remediationId).map Remediation.description).getD f.title
  .ofFields
    [("id", .text f.classId),
      ("name", .text (String.ofList (name.toList.filter (· != ' ')))),
      ("shortDescription", .ofFields [("text", .text name)]),
      ("fullDescription", .ofFields [("text", .text description)]),
      ("defaultConfiguration", .ofFields [("level", .text (level f.severity))]),
      ("properties", ruleProperties f)]

def region (location : Location) : Value :=
  let line : List (String × Value) := match location.line with
    | some line => [("startLine", .int line)]
    | none => []
  .ofFields ([("charOffset", .int location.start),
    ("charLength", .int (location.stop - location.start))] ++ line)

def result (f : Finding) : Value :=
  .ofFields
    [("ruleId", .text f.classId), ("message", .ofFields [("text", .text f.message)]),
      ("level", .text (level f.severity)),
      ("locations", .list
        [.ofFields [("physicalLocation", .ofFields
          [("artifactLocation", .ofFields [("uri", .text f.location.file)]),
            ("region", region f.location)])]]),
      ("properties", .ofFields
        [("remediationId", .text f.remediationId), ("handler", .text f.handler)])]

/-- The first finding of each class. -/
def firstOfClasses (findings : List Finding) : List Finding :=
  (Assoc.gather (findings.map fun f => (f.classId, f))).filterMap fun (_, group) => group.head?

def document (registry : Registry) (findings : List Finding) : Value :=
  .ofFields
    [("$schema", .text ("https://raw.githubusercontent.com/oasis-tcs/sarif-spec/master/" ++
        "Schemata/sarif-schema-2.1.0.json")),
      ("version", .text "2.1.0"),
      ("runs", .list
        [.ofFields
          [("tool", .ofFields [("driver", .ofFields
              [("name", .text Product.name), ("version", .text Product.version),
                ("rules", .list ((firstOfClasses findings).map (rule registry)))])]),
            ("results", .list (findings.map result))]])]

def render (registry : Registry) (findings : List Finding) : String :=
  Json.indented 0 (document registry findings)

end Sarif
end Report
end AccountAudit
