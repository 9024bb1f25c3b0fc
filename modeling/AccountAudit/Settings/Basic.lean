import AccountAudit.Suppression

/-!
# Settings

What a user can choose: which detectors run, how grave their findings are, which findings are
silenced, how much time an analysis may take, and from which severity on a scan counts as failed.
-/

namespace AccountAudit

/-- Where the analysis runs. -/
inductive Deployment where
  | development
  | staging
  | production
  deriving DecidableEq, Repr

namespace Deployment

def all : List Deployment :=
  [development, staging, production]

def name : Deployment → String
  | development => "development"
  | staging => "staging"
  | production => "production"

end Deployment

structure Settings where
  deployment : Deployment := .development
  logLevel : String := "INFO"
  /-- The classes that run; `none` stands for all. -/
  enabledClasses : Option (List String) := none
  severityOverrides : List (String × Severity) := []
  suppressions : List Suppression := []
  maxConcurrency : Int := 4
  unitTimeout : Binary64 := .ofInt 30
  scanTimeout : Option Binary64 := none
  failOn : Severity := .high
  deriving DecidableEq, Repr

namespace Settings

def isEnabled (settings : Settings) (classId : String) : Bool :=
  match settings.enabledClasses with
  | none => true
  | some classes => classes.contains classId

def isSuppressed (settings : Settings) (f : Finding) : Bool :=
  settings.suppressions.any (·.applies f)

/-- The severity of a class, where `default` is the one that the class has by itself. -/
def severityFor (settings : Settings) (classId : String) (default : Severity) : Severity :=
  (settings.severityOverrides.lookup classId).getD default

end Settings
end AccountAudit
