import AccountAudit.Schema.Number
import AccountAudit.Settings.Basic

/-!
# Settings in documents

Settings from a table of fields. Severities may be written as people write them; a text that names
no severity is a broken rule of the field that holds it, which is looked at before the shape of the
field.
-/

namespace AccountAudit

open Schema

namespace Deployment

def read (v : Value) : Checked Deployment :=
  match v with
  | .text s =>
    match all.find? (·.name == s) with
    | some deployment => .ok deployment
    | none => refuse (.notOneOf (all.map name)) v
  | _ => refuse (.notOneOf (all.map name)) v

end Deployment

namespace Settings

/-- The class ids of a set, each once. -/
def readClasses (v : Value) : Checked (List String) :=
  (sequence .notSet text v).map Text.distinctSorted

/-- A severity as people write it, brought into the form of its name. -/
def normalizeSeverity (v : Value) : Except String Value :=
  match v with
  | .text s => (Severity.parse s).map fun severity => .text severity.name
  | v => .ok v

/-- Entries with all severities in the form of their names. -/
def normalizeEntries : List (Scalar × Value) → Except String (List (Scalar × Value))
  | [] => .ok []
  | (key, v) :: rest =>
    match normalizeSeverity v with
    | .error message => .error message
    | .ok v => (normalizeEntries rest).map ((key, v) :: ·)

/-- The severity of each class. -/
def readOverrides (v : Value) : Checked (List (String × Severity)) :=
  match v with
  | .table written =>
    match normalizeEntries written with
    | .ok normalized => entries Severity.read (.table normalized)
    | .error message => refuse (.rule message) v
  | v => entries Severity.read v

/-- A severity as people write it. -/
def readSeverity (v : Value) : Checked Severity :=
  match normalizeSeverity v with
  | .ok normalized => Severity.read normalized
  | .error message => refuse (.rule message) v

/-- Settings from a table of fields. -/
def read (v : Value) : Checked Settings :=
  (withDefault "app_env" .development Deployment.read v).and
    (withDefault "log_level" "INFO" text v) |>.and
    (withDefault "enabled_classes" none (nullable readClasses) v) |>.and
    (withDefault "severity_overrides" [] readOverrides v) |>.and
    (withDefault "suppressions" [] (list Suppression.read) v) |>.and
    (withDefault "max_concurrency" 4 (integerFrom 1) v) |>.and
    (withDefault "unit_timeout_seconds" (.ofInt 30) positiveNumber v) |>.and
    (withDefault "scan_timeout_seconds" none (nullable number) v) |>.and
    (withDefault "fail_on" .high readSeverity v) |>.map
    fun ((((((((deployment, logLevel), enabledClasses), severityOverrides), suppressions),
        maxConcurrency), unitTimeout), scanTimeout), failOn) =>
      { deployment, logLevel, enabledClasses, severityOverrides, suppressions, maxConcurrency,
        unitTimeout, scanTimeout, failOn }

/-- The names of the fields. -/
def fieldNames : List String :=
  ["app_env", "log_level", "enabled_classes", "severity_overrides", "suppressions",
    "max_concurrency", "unit_timeout_seconds", "scan_timeout_seconds", "fail_on"]

/-- Settings as a table of fields. -/
def toValue (settings : Settings) : Value :=
  .ofFields
    [("app_env", .text settings.deployment.name), ("log_level", .text settings.logLevel),
      ("enabled_classes", match settings.enabledClasses with
        | none => .null
        | some classes => .list (classes.map .text)),
      ("severity_overrides", .ofFields (settings.severityOverrides.map fun (classId, severity) =>
        (classId, .text severity.name))),
      ("suppressions", .list (settings.suppressions.map fun s =>
        .ofFields [("class_id", .text s.classId), ("location", .text s.location)])),
      ("max_concurrency", .int settings.maxConcurrency),
      ("unit_timeout_seconds", .float settings.unitTimeout),
      ("scan_timeout_seconds", match settings.scanTimeout with
        | none => .null
        | some seconds => .float seconds),
      ("fail_on", .text settings.failOn.name)]

end Settings
end AccountAudit
