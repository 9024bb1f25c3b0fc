import AccountAudit.Schema.Read
import AccountAudit.Text.Basic
import AccountAudit.Text.Case
import AccountAudit.Text.Quoted

/-!
# Severities

How grave a finding is. The levels are ordered from `critical` down to `informational`; a lower rank
is graver.
-/

namespace AccountAudit

inductive Severity where
  | critical
  | high
  | medium
  | low
  | informational
  deriving DecidableEq, Repr, Inhabited

namespace Severity

/-- All levels, the gravest first. -/
def all : List Severity :=
  [critical, high, medium, low, informational]

def name : Severity → String
  | critical => "critical"
  | high => "high"
  | medium => "medium"
  | low => "low"
  | informational => "informational"

/-- 0 for the gravest level. -/
def rank : Severity → Nat
  | critical => 0
  | high => 1
  | medium => 2
  | low => 3
  | informational => 4

/-- As grave as the other level or graver. -/
def atLeast (s other : Severity) : Bool :=
  s.rank ≤ other.rank

/-- The level with a name. -/
def ofName? (name : String) : Option Severity :=
  all.find? (·.name == name)

theorem mem_all (s : Severity) : s ∈ all := by
  cases s <;> simp [all]

theorem ofName?_name (s : Severity) : ofName? s.name = some s := by
  cases s <;> decide

/-! ## Reading -/

/-- A level as people write it: in any case, with blanks around it, `info` for short. -/
def normalize (written : String) : String :=
  let plain := Text.lowerString (Text.trimString written)
  if plain = "info" then informational.name else plain

/-- What is said of a text that names no level. -/
def unknownMessage (normalized : String) : String :=
  Text.quote normalized ++ " is not a valid Severity"

/-- The level that a text names; otherwise the message about it. -/
def parse (written : String) : Except String Severity :=
  let plain := normalize written
  match ofName? plain with
  | some s => .ok s
  | none => .error (unknownMessage plain)

/-- A level by its exact name. -/
def read (v : Value) : Schema.Checked Severity :=
  match v with
  | .text s =>
    match ofName? s with
    | some severity => .ok severity
    | none => Schema.refuse (.notMember (all.map name)) v
  | _ => Schema.refuse (.notMember (all.map name)) v

end Severity
end AccountAudit
