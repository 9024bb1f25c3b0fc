import AccountAudit.Assoc
import AccountAudit.Settings.Schema
import AccountAudit.Text.Case
import AccountAudit.Value.Json

/-!
# Layers of settings

Settings are put together from layers, each a table of fields: what the caller gives, the variables of
the surroundings, the variables of a file. An earlier layer is laid over a later one; where both hold
a table, the tables are laid over each other in the same way.
-/

namespace AccountAudit
namespace Settings

/-! ## Laying tables over each other -/

mutual

/-- A value laid over the one that was there. -/
def overlay (old : Option Value) : Value → Value
  | .table entries =>
    match old with
    | some (.table base) => .table (overlayEntries base entries)
    | _ => .table entries
  | .list items => .list items
  | .scalar s => .scalar s

/-- Entries laid over those of another table, whose keys come first. -/
def overlayEntries (base : List (Scalar × Value)) : List (Scalar × Value) → List (Scalar × Value)
  | [] => base
  | (key, v) :: rest => overlayEntries (Assoc.adjust key (fun old => overlay old v) base) rest

end

/-- A layer: a table of fields, of which those without a meaning are ignored. -/
abbrev Layer := List (Scalar × Value)

/-- The layers laid over each other, the strongest one first. -/
def flatten : List Layer → Layer
  | [] => []
  | layer :: weaker => overlayEntries (flatten weaker) layer

/-- Settings from layers, the strongest one first. -/
def ofLayers (layers : List Layer) : Schema.Checked Settings :=
  read (.table (flatten layers))

/-! ## Layers of variables -/

/-- Where variables come from. -/
inductive VariableSource where
  | environment
  | file
  deriving DecidableEq, Repr

def VariableSource.label : VariableSource → String
  | environment => "EnvSettingsSource"
  | file => "DotEnvSettingsSource"

/-- How a variable writes the value of a field. -/
inductive Writing where
  | plain
  | json
  /-- As JSON, or else as a text. -/
  | jsonOrPlain
  deriving DecidableEq, Repr

/-- How the variable of a field writes its value. -/
def writingOf (field : String) : Writing :=
  if field = "enabled_classes" then .jsonOrPlain
  else if field = "severity_overrides" ∨ field = "suppressions" then .json
  else .plain

/-- A variable whose value cannot be read. -/
structure UnreadableVariable where
  field : String
  source : VariableSource
  deriving DecidableEq, Repr

def UnreadableVariable.message (v : UnreadableVariable) : String :=
  "error parsing value for field \"" ++ v.field ++ "\" from source \"" ++ v.source.label ++ "\""

/-- The variable of a field, in small letters. -/
def variableName (field : String) : String :=
  "acctscan_" ++ field

/-- Variables by their names in small letters. -/
def lowerNames (bindings : List (String × Option String)) : List (String × Option String) :=
  Assoc.ofPairs (bindings.map fun (name, v) => (Text.lowerString name, v))

/-- What a variable says of a field; a null says nothing. -/
def variableValue (field written : String) : Option (Option Value) :=
  match writingOf field, Json.parse written.toList with
  | .plain, _ => some (some (.text written))
  | _, .ok .null => some none
  | _, .ok v => some (some v)
  | .jsonOrPlain, .error _ => some (some (.text written))
  | .json, .error _ => none

/-- The layer of some fields from bindings with small names. -/
def layerFrom (source : VariableSource) (bindings : List (String × Option String)) :
    List String → Except UnreadableVariable Layer
  | [] => .ok []
  | field :: rest =>
    match bindings.lookup (variableName field) with
    | some (some written) =>
      match variableValue field written with
      | none => .error { field, source }
      | some v =>
        (layerFrom source bindings rest).map fun layer =>
          (v.map fun v => (Scalar.text field, v)).toList ++ layer
    | _ => layerFrom source bindings rest

/-- The layer of bindings, whose names are read without regard to capital letters. -/
def layerOf (source : VariableSource) (bindings : List (String × Option String)) :
    Except UnreadableVariable Layer :=
  layerFrom source (lowerNames bindings) fieldNames

end Settings
end AccountAudit
