import AccountAudit.Proofs.Related
import AccountAudit.Settings.Loading

/-!
# The fields of the settings

Every field has a name, a value that it holds when nothing sets it, and a way in which values of
documents are read (`Field`). Settings are read of a table exactly if each field is read of what the
table has under its name (`read_eq_ok_iff`).
-/

namespace AccountAudit

open Schema

/-! ## What is read of tables -/

namespace Schema

variable {α : Type}

theorem within_eq_ok {step : Step} {made : Checked α} {a : α} :
    made.within step = .ok a ↔ made = .ok a := by
  cases made <;> simp [Checked.within, Except.mapError]

theorem withDefault_eq_ok {name : String} {default a : α} {read : Value → Checked α}
    {table : Value} :
    withDefault name default read table = .ok a ↔
      (match table.field? name with
        | some v => read v
        | none => .ok default) = .ok a := by
  rw [withDefault]
  cases table.field? name with
  | none => rfl
  | some v => exact within_eq_ok

theorem all_eq_ok {made : List (Checked α)} {items : List α} :
    Checked.all made = .ok items ↔ List.Forall₂ (fun one a => one = .ok a) made items := by
  induction made generalizing items with
  | nil => cases items <;> simp [Checked.all]
  | cons first rest ih =>
    rw [Checked.all, map_eq_ok_iff]
    constructor
    · rintro ⟨⟨a, more⟩, made, rfl⟩
      rcases Checked.and_eq_ok.1 made with ⟨here, later⟩
      exact .cons here (ih.1 later)
    · rintro (_ | ⟨here, later⟩)
      exact ⟨(_, _), Checked.and_eq_ok.2 ⟨here, ih.2 later⟩, rfl⟩

end Schema

namespace Settings

/-! ## Fields -/

/-- A field of the settings. -/
inductive Field where
  | deployment
  | logLevel
  | enabledClasses
  | severityOverrides
  | suppressions
  | maxConcurrency
  | unitTimeout
  | scanTimeout
  | failOn
  deriving DecidableEq, Repr

namespace Field

/-- The name of a field in tables and, behind a prefix, in variables. -/
def name : Field → String
  | deployment => "app_env"
  | logLevel => "log_level"
  | enabledClasses => "enabled_classes"
  | severityOverrides => "severity_overrides"
  | suppressions => "suppressions"
  | maxConcurrency => "max_concurrency"
  | unitTimeout => "unit_timeout_seconds"
  | scanTimeout => "scan_timeout_seconds"
  | failOn => "fail_on"

/-- The name as settings files may write it as well. -/
def camelName : Field → String
  | deployment => "appEnv"
  | logLevel => "logLevel"
  | enabledClasses => "enabledClasses"
  | severityOverrides => "severityOverrides"
  | suppressions => "suppressions"
  | maxConcurrency => "maxConcurrency"
  | unitTimeout => "unitTimeoutSeconds"
  | scanTimeout => "scanTimeoutSeconds"
  | failOn => "failOn"

/-- What a field holds. -/
abbrev Held : Field → Type
  | deployment => Deployment
  | logLevel => String
  | enabledClasses => Option (List String)
  | severityOverrides => List (String × Severity)
  | suppressions => List Suppression
  | maxConcurrency => Int
  | unitTimeout => Binary64
  | scanTimeout => Option Binary64
  | failOn => Severity

def get (settings : Settings) : (field : Field) → field.Held
  | deployment => settings.deployment
  | logLevel => settings.logLevel
  | enabledClasses => settings.enabledClasses
  | severityOverrides => settings.severityOverrides
  | suppressions => settings.suppressions
  | maxConcurrency => settings.maxConcurrency
  | unitTimeout => settings.unitTimeout
  | scanTimeout => settings.scanTimeout
  | failOn => settings.failOn

/-- What a value says of a field, if it is valid. -/
def read : (field : Field) → Value → Checked field.Held
  | deployment => Deployment.read
  | logLevel => text
  | enabledClasses => nullable readClasses
  | severityOverrides => readOverrides
  | suppressions => list Suppression.read
  | maxConcurrency => integerFrom 1
  | unitTimeout => positiveNumber
  | scanTimeout => nullable number
  | failOn => readSeverity

/-- What a field is read as if it is set to a value, or not at all. -/
def readOr (field : Field) : Option Value → Checked field.Held
  | some v => field.read v
  | none => .ok (field.get {})

theorem name_mem_fieldNames (field : Field) : field.name ∈ fieldNames := by
  cases field <;> decide

/-- Settings files may write a field in two ways. -/
theorem fieldOfKey_name (field : Field) :
    fieldOfKey field.name = field.name ∧ fieldOfKey field.camelName = field.name := by
  cases field <;> decide +kernel

end Field

/-- Settings are read of a table field by field. -/
theorem read_eq_ok_iff {table : Value} {settings : Settings} :
    read table = .ok settings ↔
      ∀ field : Field, field.readOr (table.field? field.name) = .ok (field.get settings) := by
  rw [read, map_eq_ok_iff]
  simp only [Checked.and_eq_ok, withDefault_eq_ok]
  constructor
  · rintro ⟨held, ⟨⟨⟨⟨⟨⟨⟨⟨deployment, logLevel⟩, enabledClasses⟩, severityOverrides⟩, suppressions⟩,
      maxConcurrency⟩, unitTimeout⟩, scanTimeout⟩, failOn⟩, rfl⟩ field
    cases field with
    | deployment => exact deployment
    | logLevel => exact logLevel
    | enabledClasses => exact enabledClasses
    | severityOverrides => exact severityOverrides
    | suppressions => exact suppressions
    | maxConcurrency => exact maxConcurrency
    | unitTimeout => exact unitTimeout
    | scanTimeout => exact scanTimeout
    | failOn => exact failOn
  · intro all
    exact ⟨((((((((settings.deployment, settings.logLevel), settings.enabledClasses),
      settings.severityOverrides), settings.suppressions), settings.maxConcurrency),
      settings.unitTimeout), settings.scanTimeout), settings.failOn),
      ⟨⟨⟨⟨⟨⟨⟨⟨all .deployment, all .logLevel⟩, all .enabledClasses⟩, all .severityOverrides⟩,
        all .suppressions⟩, all .maxConcurrency⟩, all .unitTimeout⟩, all .scanTimeout⟩,
        all .failOn⟩, rfl⟩

end Settings
end AccountAudit
