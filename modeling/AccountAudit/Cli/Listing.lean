import AccountAudit.Cli.Style
import AccountAudit.Number.Decimal
import AccountAudit.Product
import AccountAudit.Registry
import AccountAudit.Settings.Schema
import AccountAudit.Text.Quoted

/-!
# Listings

The registered detectors, and the settings in force, as lines for a terminal.
-/

namespace AccountAudit
namespace Cli

open Style

/-! ## Detectors -/

def detectorLines (info : DetectorInfo) : List String :=
  ["  " ++ paint bold info.classId ++ "  " ++
      paint (ofSeverity info.severity) (title info.severity) ++ "  " ++ info.name,
    "       " ++ paint dim info.description]

/-- The detectors of a registry in its order. -/
def registryLines (registry : Registry) : List String :=
  ["", paint bold ("Registered detectors (" ++ toString registry.detectors.length ++ ")"), ""] ++
    registry.detectors.flatMap (fun d => detectorLines d.info) ++ [""]

/-! ## Settings -/

private def braced (parts : List String) : String :=
  "\x7b" ++ ", ".intercalate parts ++ "\x7d"

/-- The classes that are enabled, as a set. -/
def classesText : Option (List String) → String
  | none => "None"
  | some [] => "set()"
  | some classes => braced (classes.map Text.quote)

def severityText (s : Severity) : String :=
  "<Severity." ++ title s ++ ": " ++ Text.quote s.name ++ ">"

def overridesText (overrides : List (String × Severity)) : String :=
  braced (overrides.map fun (classId, severity) =>
    Text.quote classId ++ ": " ++ severityText severity)

def suppressionText (s : Suppression) : String :=
  "Suppression(class_id=" ++ Text.quote s.classId ++ ", location=" ++ Text.quote s.location ++ ")"

/-- The fields of settings with their values as they are shown, in alphabetic order. -/
def shownFields (settings : Settings) : List (String × String) :=
  [("app_env", settings.deployment.name),
    ("enabled_classes", classesText settings.enabledClasses),
    ("fail_on", settings.failOn.name),
    ("log_level", settings.logLevel),
    ("max_concurrency", toString settings.maxConcurrency),
    ("scan_timeout_seconds", (settings.scanTimeout.map (·.render .plain)).getD "None"),
    ("severity_overrides", overridesText settings.severityOverrides),
    ("suppressions", "[" ++ ", ".intercalate (settings.suppressions.map suppressionText) ++ "]"),
    ("unit_timeout_seconds", settings.unitTimeout.render .plain)]

/-- The settings in force. -/
def settingsLines (settings : Settings) : List String :=
  ["", paint bold (Product.name ++ " Configuration"), ""] ++
    (shownFields settings).map (fun (name, shown) =>
      "  " ++ paint dim (name ++ ":") ++ "  " ++ shown) ++ [""]

end Cli
end AccountAudit
