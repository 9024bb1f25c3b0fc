import AccountAudit.Schema.Checked

/-!
# Reading documents

Readers for texts, lists and tables, and for the fields of a table. A field that a table does not
mention has its default or is missing; fields that nothing asks for are ignored.
-/

namespace AccountAudit
namespace Schema

variable {α : Type}

/-- A text. Nothing else is turned into one. -/
def text (v : Value) : Checked String :=
  match v with
  | .text s => .ok s
  | _ => refuse .notText v

/-- A value that may be left out by writing a null. -/
def nullable (read : Value → Checked α) (v : Value) : Checked (Option α) :=
  match v with
  | .null => .ok none
  | v => (read v).map some

/-- Any value. -/
def anything (v : Value) : Checked Value :=
  .ok v

/-! ## Lists -/

/-- Reads each item at its place. -/
def itemsFrom (read : Value → Checked α) : Nat → List Value → List (Checked α)
  | _, [] => []
  | index, v :: rest => (read v).within (.item index) :: itemsFrom read (index + 1) rest

/-- The items of a list; `cause` tells what was asked for. -/
def sequence (cause : Cause) (read : Value → Checked α) (v : Value) : Checked (List α) :=
  match v with
  | .list items => Checked.all (itemsFrom read 0 items)
  | _ => refuse cause v

def tuple (read : Value → Checked α) : Value → Checked (List α) :=
  sequence .notTuple read

def list (read : Value → Checked α) : Value → Checked (List α) :=
  sequence .notList read

/-! ## Tables -/

/-- The step to the value of a key. -/
def stepOfKey : Scalar → Step
  | .text name => .entry name
  | .bool b => .entry (if b then "1" else "0")
  | key => .entry key.literal

/-- A key, which has to be a text. -/
def keyText (key : Scalar) : Checked String :=
  (text (.scalar key)).within (.entry "[key]")

/-- A table with text keys, in the order of its entries. -/
def entries (read : Value → Checked α) (v : Value) : Checked (List (String × α)) :=
  match v with
  | .table entries =>
    Checked.all (entries.map fun (key, value) =>
      ((keyText key).and (read value)).within (stepOfKey key))
  | _ => refuse .notTable v

/-! ## Fields -/

/-- The value of a field. -/
def required (name : String) (read : Value → Checked α) (table : Value) : Checked α :=
  match table.field? name with
  | some v => (read v).within (.entry name)
  | none => (refuse .missing table).within (.entry name)

/-- The value of a field, or the default of a field that is left out. -/
def withDefault (name : String) (default : α) (read : Value → Checked α) (table : Value) :
    Checked α :=
  match table.field? name with
  | some v => (read v).within (.entry name)
  | none => .ok default

/-- The name under which a field with two names is written, if it is. -/
def writtenName (name other : String) (table : Value) : String :=
  if (table.field? name).isSome || (table.field? other).isNone then name else other

/-- A value with fields; `model` names what it describes. -/
def record (model : String) (read : Value → Checked α) (v : Value) : Checked α :=
  match v with
  | .table _ => read v
  | _ => refuse (.notModel model) v

end Schema
end AccountAudit
