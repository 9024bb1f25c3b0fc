import AccountAudit.Document.Format
import AccountAudit.Failure
import AccountAudit.Files.Tree
import AccountAudit.Settings.EnvFile
import AccountAudit.Settings.Layer

/-!
# Loading settings

Settings come from a settings file, from values that the caller gives, and from variables: those of
the surroundings and those of the file `.env`. What the caller gives replaces whole fields of the
settings file; both are stronger than the variables. A settings file may write the names of fields
with capital letters inside, as in `maxConcurrency`.
-/

namespace AccountAudit
namespace Settings

open Files

/-- Why settings cannot be loaded. -/
inductive LoadingFailure where
  | unreadable (path : Path) (message : String)
  | notTable (path : Path)
  | invalid (issues : Schema.Issues)
  /-- The path of the settings file has a null character in it. -/
  | nullInPath
  | undecodable (failure : Text.Utf8Failure)
  | integer (failure : IntegerFailure)
  /-- A key of the settings file is not a text. -/
  | keyNotText (typeName : String)
  | unreadableVariable (v : UnreadableVariable)
  deriving DecidableEq, Repr

/-- What goes wrong when settings cannot be loaded. -/
def LoadingFailure.mishap : LoadingFailure → Mishap
  | unreadable path message =>
    .failure (.badSettings ("cannot read config file " ++ path.text ++ ": " ++ message) [])
  | notTable path =>
    .failure (.badSettings ("config file " ++ path.text ++ " must contain a mapping") [])
  | invalid issues =>
    .failure (.badSettings ("invalid configuration: " ++ issues.report "Settings") [])
  | nullInPath => .fault AccessFailure.nullInside.fault
  | undecodable failure => .fault (AccessFailure.undecodable failure).fault
  | integer failure => .fault { kind := "ValueError", message := failure.message }
  | keyNotText typeName =>
    .fault
      { kind := "TypeError"
        message := "expected string or bytes-like object, got '" ++ typeName ++ "'" }
  | unreadableVariable v => .fault { kind := "SettingsError", message := v.message }

/-! ## The settings file -/

/-- A name with an underscore in front of every capital letter but the first character. -/
def separateWords : List Char → List Char
  | [] => []
  | c :: rest => c :: rest.flatMap fun d => if 'A' ≤ d && d ≤ 'Z' then ['_', d] else [d]

/-- The name of a field as it is meant by a key of a settings file. -/
def fieldOfKey (key : String) : String :=
  String.ofList (Text.lower (separateWords key.toList))

/-- The layer of a settings file's entries; of several spellings of a field the last one counts. -/
def layerOfEntries : Layer → List (Scalar × Value) → Except LoadingFailure Layer
  | layer, [] => .ok layer
  | layer, (key, v) :: rest =>
    match key with
    | .text key => layerOfEntries (Value.put (.text (fieldOfKey key)) v layer) rest
    | key => .error (.keyNotText (Value.scalar key).typeName)

/-- The layer of a settings file. -/
def fileLayer (tree : Tree) (path : Path) : Except LoadingFailure Layer :=
  match tree.readText path with
  | .error .nullInside => .error .nullInPath
  | .error (.undecodable failure) => .error (.undecodable failure)
  | .error failure => .error (.unreadable path failure.message)
  | .ok text =>
    match Document.decode .yaml text with
    | .error (.malformed message) => .error (.unreadable path message)
    | .error (.integer failure) => .error (.integer failure)
    | .ok v =>
      if v.isGiven then
        match v with
        | .table written => layerOfEntries [] written
        | _ => .error (.notTable path)
      else .ok []

/-- The values that the caller gives; a null gives nothing. -/
def givenLayer (given : List (String × Value)) : Layer :=
  (given.filter fun (_, v) => v ≠ .null).map fun (field, v) => (.text field, v)

/-- The layer of a settings file, if there is one, with the fields that the caller gives put in. -/
def ownLayer (tree : Tree) (path : Option Path) (given : List (String × Value)) :
    Except LoadingFailure Layer :=
  match path with
  | none => .ok (Value.putAll [] (givenLayer given))
  | some path => (fileLayer tree path).map fun layer => Value.putAll layer (givenLayer given)

/-! ## Variables -/

/-- The file of variables. -/
def variableFile : Path :=
  { names := [".env"] }

/-- The variables of the file `.env`, if it is there. -/
def fileVariables (tree : Tree) (surroundings : List (String × String)) :
    Except LoadingFailure (List (String × Option String)) :=
  match tree.readText variableFile with
  | .ok text => .ok (EnvFile.parse surroundings text)
  | .error (.undecodable failure) => .error (.undecodable failure)
  | .error _ => .ok []

/-- The layers of variables, the strongest one first. -/
def variableLayers (tree : Tree) (surroundings : List (String × String)) :
    Except LoadingFailure (List Layer) :=
  match fileVariables tree surroundings with
  | .error failure => .error failure
  | .ok fromFile =>
    match layerOf .environment (surroundings.map fun (name, v) => (name, some v)),
        layerOf .file fromFile with
    | .error v, _ => .error (.unreadableVariable v)
    | _, .error v => .error (.unreadableVariable v)
    | .ok stronger, .ok weaker => .ok [stronger, weaker]

/-! ## All layers -/

/-- The settings of layers, the strongest one first. -/
def ofLayersOrFail (layers : List Layer) : Except LoadingFailure Settings :=
  match ofLayers layers with
  | .ok settings => .ok settings
  | .error issues => .error (.invalid issues)

/-- Settings from variables alone. -/
def ofSurroundings (tree : Tree) (surroundings : List (String × String)) :
    Except LoadingFailure Settings :=
  match variableLayers tree surroundings with
  | .error failure => .error failure
  | .ok layers => ofLayersOrFail layers

/-- Settings from a settings file, from values that the caller gives, and from variables. -/
def load (tree : Tree) (surroundings : List (String × String)) (path : Option Path)
    (given : List (String × Value)) : Except LoadingFailure Settings :=
  match ownLayer tree path given with
  | .error failure => .error failure
  | .ok own =>
    match variableLayers tree surroundings with
    | .error failure => .error failure
    | .ok layers => ofLayersOrFail (own :: layers)

end Settings
end AccountAudit
