import AccountAudit.Schema.Issue

/-!
# Checked values

The outcome of reading a part of a document: the part, or its issues. Parts that are read side by
side keep the issues of all of them (`Checked.and`); a part that is read from another one is read
only if that one has none.
-/

namespace AccountAudit
namespace Schema

/-- What a part of a document holds, or what is wrong with it. -/
abbrev Checked (α : Type) := Except Issues α

/-- A single issue with a value itself. -/
def refuse {α : Type} (cause : Cause) (input : Value) : Checked α :=
  .error { first := { path := [], cause, input } }

namespace Checked

variable {α β : Type}

/-- Two parts side by side. -/
def and (a : Checked α) (b : Checked β) : Checked (α × β) :=
  match a, b with
  | .ok a, .ok b => .ok (a, b)
  | .ok _, .error later => .error later
  | .error earlier, .ok _ => .error earlier
  | .error earlier, .error later => .error (earlier.append later)

/-- Any number of parts side by side. -/
def all : List (Checked α) → Checked (List α)
  | [] => .ok []
  | a :: rest => (a.and (all rest)).map fun (a, rest) => a :: rest

/-- A part, seen from the value that holds it. -/
def within (step : Step) (a : Checked α) : Checked α :=
  a.mapError (·.within step)

theorem and_eq_ok {a : Checked α} {b : Checked β} {p : α × β} :
    a.and b = .ok p ↔ a = .ok p.1 ∧ b = .ok p.2 := by
  obtain ⟨x, y⟩ := p
  cases a <;> cases b <;> simp [Checked.and]

end Checked

end Schema
end AccountAudit
