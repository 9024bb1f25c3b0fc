import AccountAudit.Finding.Basic
import AccountAudit.Text.Glob

/-!
# Suppressions

A suppression silences findings that are known and accepted. It has one pattern for the class and
one for the location, written as `file:start-stop`; both have to match.
-/

namespace AccountAudit

structure Suppression where
  classId : String
  location : String := "*"
  deriving DecidableEq, Repr

namespace Suppression

/-- The suppression silences findings of a class at a location. -/
def silences (s : Suppression) (classId : String) (location : Location) : Bool :=
  Text.Glob.matchesText s.classId classId && Text.Glob.matchesText s.location location.text

def applies (s : Suppression) (f : Finding) : Bool :=
  s.silences f.classId f.location

def read : Value → Schema.Checked Suppression :=
  Schema.record "Suppression" fun v =>
    (Schema.required "class_id" Schema.text v).and
      (Schema.withDefault "location" "*" Schema.text v) |>.map
      fun (classId, location) => { classId, location }

end Suppression
end AccountAudit
