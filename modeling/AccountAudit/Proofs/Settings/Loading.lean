import AccountAudit.Cli.Run
import AccountAudit.Proofs.Files.Tree
import AccountAudit.Proofs.Related

/-!
# How loading settings ends

To load settings gives settings, or the failure that the settings are bad, or a fault. The faults come
from the path, the two files and two fields: a path that cannot be asked for, a file that is not UTF-8,
a settings file with an integer that cannot be read or with a key that is no text, and a variable of
`severity_overrides` or `suppressions` that is not JSON (`Escapes`). Variables are looked at only if
nothing is wrong with the settings file.

The main statement `load_configured_iff` says that these are all ways in which something else than bad
settings comes out of loading, and what the command line program makes of either.
-/

namespace AccountAudit
namespace Settings

open Files

variable {tree : Tree} {surroundings : List (String × String)} {path : Option Path}
  {given : List (String × Value)}

/-! ## Kinds of failures -/

/-- The failure says that the settings are bad. -/
def LoadingFailure.IsBadSettings (failure : LoadingFailure) : Prop :=
  ∃ message details, failure.mishap = .failure (.badSettings message details)

/-- The failure is a fault of something that loading relies on. -/
def LoadingFailure.IsFault (failure : LoadingFailure) : Prop :=
  ∃ fault, failure.mishap = .fault fault

theorem LoadingFailure.not_isFault_of_isBadSettings {failure : LoadingFailure}
    (bad : failure.IsBadSettings) :
    ¬ failure.IsFault := by
  rcases bad with ⟨message, details, is⟩
  rintro ⟨fault, other⟩
  rw [is] at other
  cases other

/-! ## What loading depends on -/

/-- The settings file holds a value. -/
def Holds (tree : Tree) (path : Path) (v : Value) : Prop :=
  ∃ text, tree.readText path = .ok text ∧ Document.decode .yaml text = .ok v

/-- The value gives nothing, or is a table in which all keys are texts. -/
def IsLayer (v : Value) : Prop :=
  v.isGiven = false ∨ ∃ entries, v = .table entries ∧ ∀ entry ∈ entries, ∃ key, entry.1 = .text key

/-- There is no settings file, or nothing is wrong with it. -/
def Usable (tree : Tree) (path : Option Path) : Prop :=
  ∀ file, path = some file → ∃ v, Holds tree file v ∧ IsLayer v

/-- Of the fields whose variables are written as JSON, and as nothing else, one has a variable that
is not JSON. -/
def HasUnparsable (bindings : List (String × Option String)) : Prop :=
  ∃ field ∈ ["severity_overrides", "suppressions"], ∃ written,
    (lowerNames bindings).lookup (variableName field) = some (some written) ∧
      ∀ v, Json.parse written.toList ≠ .ok v

/-- The ways in which loading settings ends in a fault. -/
inductive Escapes (tree : Tree) (surroundings : List (String × String)) (path : Option Path) : Prop where
  | nullInPath {file : Path} (asked : path = some file) (null : '\x00' ∈ file.text.toList)
  | notUtf8 {file : Path} {content : List UInt8} {issue : Text.Utf8Failure}
      (asked : path = some file) (found : tree.find file = .ok (.file content))
      (broken : Text.decodeUtf8 content = .error issue)
  | integer {file : Path} {text : List Char} {failure : IntegerFailure} (asked : path = some file)
      (read : tree.readText file = .ok text)
      (unreadable : Document.decode .yaml text = .error (.integer failure))
  | keyNotText {file : Path} {entries : List (Scalar × Value)} {entry : Scalar × Value}
      (asked : path = some file) (holds : Holds tree file (.table entries))
      (inside : entry ∈ entries) (other : ∀ key, entry.1 ≠ .text key)
  | variablesNotUtf8 {content : List UInt8} {issue : Text.Utf8Failure} (usable : Usable tree path)
      (found : tree.find variableFile = .ok (.file content))
      (broken : Text.decodeUtf8 content = .error issue)
  | unparsable (usable : Usable tree path)
      (unread : HasUnparsable (surroundings.map fun (name, v) => (name, some v)))
  | unparsableInFile {text : List Char} (usable : Usable tree path)
      (read : tree.readText variableFile = .ok text)
      (unread : HasUnparsable (EnvFile.parse surroundings text))

/-! ## The settings file -/

/-- Entries give a layer if all keys are texts; else a key that is none is reported. -/
theorem layerOfEntries_cases (layer : Layer) (entries : List (Scalar × Value)) :
    ((∀ entry ∈ entries, ∃ key, entry.1 = .text key) ∧
      ∃ made, layerOfEntries layer entries = .ok made) ∨
    ∃ entry ∈ entries, (∀ key, entry.1 ≠ .text key) ∧
      layerOfEntries layer entries = .error (.keyNotText (Value.scalar entry.1).typeName) := by
  induction entries generalizing layer with
  | nil => exact .inl ⟨by simp, layer, rfl⟩
  | cons first rest ih =>
    rcases first with ⟨key, v⟩
    cases key with
    | text key =>
      rcases ih (Value.put (.text (fieldOfKey key)) v layer) with
        ⟨texts, made⟩ | ⟨entry, inside, other⟩
      · exact .inl ⟨List.forall_mem_cons.2 ⟨⟨key, rfl⟩, texts⟩, made⟩
      · exact .inr ⟨entry, List.mem_cons_of_mem _ inside, other⟩
    | _ => exact .inr ⟨_, List.mem_cons_self, by simp, rfl⟩

/-- Nothing else happens when the settings file is read. -/
theorem fileLayer_cases (tree : Tree) (surroundings : List (String × String)) (file : Path) :
    (Usable tree (some file) ∧ ∃ layer, fileLayer tree file = .ok layer) ∨
    (∃ failure, fileLayer tree file = .error failure ∧ failure.IsBadSettings) ∨
    ∃ failure, fileLayer tree file = .error failure ∧ failure.IsFault ∧
      Escapes tree surroundings (some file) := by
  unfold fileLayer
  cases read : tree.readText file with
  | error failure =>
    cases failure with
    | nullInside =>
      have null := Tree.readText_eq_nullInside_iff.1 read
      exact .inr (.inr ⟨_, rfl, ⟨_, rfl⟩, .nullInPath rfl null⟩)
    | undecodable issue =>
      rcases Tree.readText_eq_undecodable_iff.1 read with ⟨content, found, broken⟩
      exact .inr (.inr ⟨_, rfl, ⟨_, rfl⟩, .notUtf8 rfl found broken⟩)
    | _ => exact .inr (.inl ⟨_, rfl, _, _, rfl⟩)
  | ok text =>
    dsimp only
    cases decoded : Document.decode .yaml text with
    | error failure =>
      cases failure with
      | malformed message => exact .inr (.inl ⟨_, rfl, _, _, rfl⟩)
      | integer failure => exact .inr (.inr ⟨_, rfl, ⟨_, rfl⟩, .integer rfl read decoded⟩)
    | ok v =>
      have holds : Holds tree file v := ⟨text, read, decoded⟩
      have usable (layer : IsLayer v) : Usable tree (some file) := by
        intro other same
        obtain rfl := Option.some.inj same
        exact ⟨v, holds, layer⟩
      dsimp only
      cases isGiven : v.isGiven with
      | false => exact .inl ⟨usable (.inl isGiven), [], rfl⟩
      | true =>
        cases v with
        | table entries =>
          rcases layerOfEntries_cases [] entries with ⟨texts, made⟩ | ⟨entry, inside, other, failed⟩
          · exact .inl ⟨usable (.inr ⟨entries, rfl, texts⟩), made⟩
          · exact .inr (.inr ⟨_, failed, ⟨_, rfl⟩, .keyNotText rfl holds inside other⟩)
        | _ => exact .inr (.inl ⟨_, rfl, _, _, rfl⟩)

theorem exists_fileLayer {file : Path} {v : Value} (holds : Holds tree file v) (layer : IsLayer v) :
    ∃ made, fileLayer tree file = .ok made := by
  rcases holds with ⟨text, read, decoded⟩
  rcases layer with absent | ⟨entries, rfl, texts⟩
  · exact ⟨[], by simp [fileLayer, read, decoded, absent]⟩
  · cases isGiven : (Value.table entries).isGiven with
    | false => exact ⟨[], by simp [fileLayer, read, decoded, isGiven]⟩
    | true =>
      rcases layerOfEntries_cases [] entries with ⟨-, made, done⟩ | ⟨entry, inside, other, -⟩
      · exact ⟨made, by simp [fileLayer, read, decoded, isGiven, done]⟩
      · rcases texts entry inside with ⟨key, same⟩
        exact absurd same (other key)

theorem exists_ownLayer (usable : Usable tree path) (given : List (String × Value)) :
    ∃ layer, ownLayer tree path given = .ok layer := by
  cases path with
  | none => exact ⟨_, rfl⟩
  | some file =>
    rcases usable file rfl with ⟨v, holds, layer⟩
    rcases exists_fileLayer holds layer with ⟨made, read⟩
    exact ⟨Value.putAll made (givenLayer given), by simp [ownLayer, read, Except.map]⟩

theorem ownLayer_cases (tree : Tree) (surroundings : List (String × String)) (path : Option Path)
    (given : List (String × Value)) :
    (Usable tree path ∧ ∃ layer, ownLayer tree path given = .ok layer) ∨
    (∃ failure, ownLayer tree path given = .error failure ∧ failure.IsBadSettings) ∨
    ∃ failure, ownLayer tree path given = .error failure ∧ failure.IsFault ∧
      Escapes tree surroundings path := by
  cases path with
  | none => exact .inl ⟨nofun, _, rfl⟩
  | some file =>
    rcases fileLayer_cases tree surroundings file with
      ⟨usable, -⟩ | ⟨failure, failed, bad⟩ | ⟨failure, failed, fault, escapes⟩
    · exact .inl ⟨usable, exists_ownLayer usable given⟩
    · exact .inr (.inl ⟨failure, by simp [ownLayer, failed, Except.map], bad⟩)
    · exact .inr (.inr ⟨failure, by simp [ownLayer, failed, Except.map], fault, escapes⟩)

/-! ## Variables -/

theorem writingOf_eq_json_iff {field : String} :
    writingOf field = .json ↔ field ∈ ["severity_overrides", "suppressions"] := by
  unfold writingOf
  split
  · rename_i named
    simp [named]
  · split <;> simp_all

theorem variableValue_eq_none_iff {field written : String} :
    variableValue field written = none ↔
      writingOf field = .json ∧ ∀ v, Json.parse written.toList ≠ .ok v := by
  unfold variableValue
  cases writingOf field with
  | plain => simp
  | json =>
    cases Json.parse written.toList with
    | error failure => simp
    | ok v => split <;> simp_all
  | jsonOrPlain =>
    cases Json.parse written.toList with
    | error failure => simp
    | ok v => split <;> simp_all

/-- The layer of some fields cannot be made if the variable of one of them cannot be read. -/
theorem exists_layerFrom_error_iff (source : VariableSource)
    (bindings : List (String × Option String)) (fields : List String) :
    (∃ v, layerFrom source bindings fields = .error v) ↔
      ∃ field ∈ fields, ∃ written, bindings.lookup (variableName field) = some (some written) ∧
        variableValue field written = none := by
  induction fields with
  | nil => simp [layerFrom]
  | cons field fields ih =>
    rw [List.exists_mem_cons_iff, ← ih, layerFrom]
    split
    · rename_i written found
      cases said : variableValue field written with
      | none => simp [found, said]
      | some value =>
        cases layerFrom source bindings fields <;> simp [found, said, Except.map]
    · rename_i unset
      simp_all

theorem exists_layerOf_error_iff (source : VariableSource)
    (bindings : List (String × Option String)) :
    (∃ v, layerOf source bindings = .error v) ↔ HasUnparsable bindings := by
  have known : ∀ field ∈ ["severity_overrides", "suppressions"], field ∈ fieldNames := by decide
  simp only [layerOf, exists_layerFrom_error_iff, variableValue_eq_none_iff, writingOf_eq_json_iff]
  constructor
  · rintro ⟨field, -, written, bound, strict, broken⟩
    exact ⟨field, strict, written, bound, broken⟩
  · rintro ⟨field, strict, written, bound, broken⟩
    exact ⟨field, known field strict, written, bound, strict, broken⟩

theorem not_hasUnparsable_of_layerOf {source : VariableSource}
    {bindings : List (String × Option String)} {layer : Layer}
    (made : layerOf source bindings = .ok layer) : ¬ HasUnparsable bindings := by
  simp [← exists_layerOf_error_iff source, made]

/-- The variables of a file that is not there, or is none, are no variables. -/
theorem fileVariables_cases (tree : Tree) (surroundings : List (String × String)) :
    (∃ text, tree.readText variableFile = .ok text ∧
      fileVariables tree surroundings = .ok (EnvFile.parse surroundings text)) ∨
    fileVariables tree surroundings = .ok [] ∨
    ∃ content issue, tree.find variableFile = .ok (.file content) ∧
      Text.decodeUtf8 content = .error issue ∧
      fileVariables tree surroundings = .error (.undecodable issue) := by
  unfold fileVariables
  cases read : tree.readText variableFile with
  | ok text => exact .inl ⟨text, rfl, rfl⟩
  | error failure =>
    cases failure with
    | undecodable issue =>
      rcases Tree.readText_eq_undecodable_iff.1 read with ⟨content, found, broken⟩
      exact .inr (.inr ⟨content, issue, found, broken, rfl⟩)
    | _ => exact .inr (.inl rfl)

theorem not_hasUnparsable_nil : ¬ HasUnparsable [] := by
  rintro ⟨field, -, written, bound, -⟩
  cases bound

/-- Variables fail to be read only by faults. -/
theorem variableLayers_cases (tree : Tree) (surroundings : List (String × String))
    (usable : Usable tree path) :
    (∃ layers, variableLayers tree surroundings = .ok layers) ∨
    ∃ failure, variableLayers tree surroundings = .error failure ∧ failure.IsFault ∧
      Escapes tree surroundings path := by
  -- Both layers of variables are made in the same way.
  have layers {fromFile : List (String × Option String)}
      (read : fileVariables tree surroundings = .ok fromFile)
      (unread : HasUnparsable fromFile → Escapes tree surroundings path) :
      (∃ layers, variableLayers tree surroundings = .ok layers) ∨
      ∃ failure, variableLayers tree surroundings = .error failure ∧ failure.IsFault ∧
        Escapes tree surroundings path := by
    cases stronger : layerOf .environment (surroundings.map fun (name, v) => (name, some v)) with
    | error v =>
      have unparsable := (exists_layerOf_error_iff .environment _).1 ⟨v, stronger⟩
      exact .inr ⟨.unreadableVariable v, by simp [variableLayers, read, stronger], ⟨_, rfl⟩,
        .unparsable usable unparsable⟩
    | ok strong =>
      cases weaker : layerOf .file fromFile with
      | error v =>
        have unparsable := (exists_layerOf_error_iff .file fromFile).1 ⟨v, weaker⟩
        exact .inr ⟨.unreadableVariable v, by simp [variableLayers, read, stronger, weaker],
          ⟨_, rfl⟩, unread unparsable⟩
      | ok weak => exact .inl ⟨[strong, weak], by simp [variableLayers, read, stronger, weaker]⟩
  rcases fileVariables_cases tree surroundings with
    ⟨text, found, read⟩ | read | ⟨content, issue, found, broken, failed⟩
  · exact layers read fun unparsable => .unparsableInFile usable found unparsable
  · exact layers read fun unparsable => absurd unparsable not_hasUnparsable_nil
  · exact .inr ⟨.undecodable issue, by simp [variableLayers, failed], ⟨_, rfl⟩,
      .variablesNotUtf8 usable found broken⟩

theorem readable_of_variableLayers {layers : List Layer}
    (read : variableLayers tree surroundings = .ok layers) :
    ¬ HasUnparsable (surroundings.map fun (name, v) => (name, some v)) ∧
      ∃ fromFile, fileVariables tree surroundings = .ok fromFile ∧ ¬ HasUnparsable fromFile := by
  unfold variableLayers at read
  cases found : fileVariables tree surroundings with
  | error failure => simp [found] at read
  | ok fromFile =>
    simp only [found] at read
    cases stronger : layerOf .environment (surroundings.map fun (name, v) => (name, some v)) with
    | error v => simp [stronger] at read
    | ok strong =>
      cases weaker : layerOf .file fromFile with
      | error v => simp [stronger, weaker] at read
      | ok weak =>
        exact ⟨not_hasUnparsable_of_layerOf stronger, fromFile, rfl,
          not_hasUnparsable_of_layerOf weaker⟩

/-! ## All layers -/

theorem ofLayersOrFail_cases (layers : List Layer) :
    (∃ settings, ofLayersOrFail layers = .ok settings) ∨
    ∃ failure, ofLayersOrFail layers = .error failure ∧ failure.IsBadSettings := by
  unfold ofLayersOrFail
  cases ofLayers layers with
  | ok settings => exact .inl ⟨settings, rfl⟩
  | error issues => exact .inr ⟨.invalid issues, rfl, _, _, rfl⟩

theorem load_cases (tree : Tree) (surroundings : List (String × String)) (path : Option Path)
    (given : List (String × Value)) :
    (∃ settings, load tree surroundings path given = .ok settings) ∨
    (∃ failure, load tree surroundings path given = .error failure ∧ failure.IsBadSettings) ∨
    ∃ failure, load tree surroundings path given = .error failure ∧ failure.IsFault ∧
      Escapes tree surroundings path := by
  unfold load
  rcases ownLayer_cases tree surroundings path given with
    ⟨usable, own, made⟩ | ⟨failure, failed, bad⟩ | ⟨failure, failed, escapes⟩
  · rw [made]
    dsimp only
    rcases variableLayers_cases tree surroundings usable with
      ⟨layers, read⟩ | ⟨failure, failed, escapes⟩
    · rw [read]
      dsimp only
      rcases ofLayersOrFail_cases (own :: layers) with settled | bad
      · exact .inl settled
      · exact .inr (.inl bad)
    · exact .inr (.inr ⟨failure, by rw [failed], escapes⟩)
  · exact .inr (.inl ⟨failure, by rw [failed], bad⟩)
  · exact .inr (.inr ⟨failure, by rw [failed], escapes⟩)

theorem load_of_variables (usable : Usable tree path)
    (unread : ∀ layers, variableLayers tree surroundings ≠ .ok layers) :
    ∃ failure, load tree surroundings path given = .error failure ∧ failure.IsFault := by
  rcases exists_ownLayer usable given with ⟨own, made⟩
  rcases variableLayers_cases tree surroundings usable with
    ⟨layers, read⟩ | ⟨failure, failed, fault, -⟩
  · exact absurd read (unread layers)
  · exact ⟨failure, by simp [load, made, failed], fault⟩

theorem load_of_escapes (escapes : Escapes tree surroundings path)
    (given : List (String × Value)) :
    ∃ failure, load tree surroundings path given = .error failure ∧ failure.IsFault := by
  cases escapes with
  | nullInPath asked null =>
    subst asked
    have failed : tree.readText _ = .error .nullInside :=
      Tree.readText_eq_nullInside_iff.2 null
    exact ⟨.nullInPath, by simp [load, ownLayer, fileLayer, failed, Except.map], _, rfl⟩
  | notUtf8 asked found broken =>
    subst asked
    have failed := Tree.readText_eq_undecodable_iff.2 ⟨_, found, broken⟩
    exact ⟨.undecodable _, by simp [load, ownLayer, fileLayer, failed, Except.map]; rfl, _, rfl⟩
  | integer asked read unreadable =>
    subst asked
    exact ⟨.integer _, by simp [load, ownLayer, fileLayer, read, unreadable, Except.map]; rfl, _,
      rfl⟩
  | @keyNotText file entries entry asked holds inside other =>
    subst asked
    rcases holds with ⟨text, read, decoded⟩
    have isGiven : (Value.table entries).isGiven = true := by
      cases entries with
      | nil => cases inside
      | cons first rest => rfl
    rcases layerOfEntries_cases [] entries with ⟨texts, -⟩ | ⟨culprit, -, -, failed⟩
    · rcases texts entry inside with ⟨key, same⟩
      exact absurd same (other key)
    · exact ⟨_, by simp [load, ownLayer, fileLayer, read, decoded, isGiven, failed, Except.map]; rfl,
        _, rfl⟩
  | variablesNotUtf8 usable found broken =>
    refine load_of_variables usable fun layers read => ?_
    rcases readable_of_variableLayers read with ⟨-, fromFile, kept, -⟩
    have failed := Tree.readText_eq_undecodable_iff.2 ⟨_, found, broken⟩
    simp [fileVariables, failed] at kept
  | unparsable usable unread =>
    exact load_of_variables usable fun layers read => (readable_of_variableLayers read).1 unread
  | unparsableInFile usable found unread =>
    refine load_of_variables usable fun layers read => ?_
    rcases readable_of_variableLayers read with ⟨-, fromFile, kept, parsable⟩
    simp only [fileVariables, found, Except.ok.injEq] at kept
    exact parsable (kept ▸ unread)

/-- Settings and bad settings are no faults. -/
theorem not_fault_of_settled
    (settled : (∃ settings, load tree surroundings path given = .ok settings) ∨
      ∃ failure, load tree surroundings path given = .error failure ∧ failure.IsBadSettings) :
    ¬ ∃ failure, load tree surroundings path given = .error failure ∧ failure.IsFault := by
  rintro ⟨failure, failed, fault⟩
  rcases settled with ⟨settings, loaded⟩ | ⟨other, failed', bad⟩
  · rw [loaded] at failed
    cases failed
  · rw [failed'] at failed
    cases failed
    exact LoadingFailure.not_isFault_of_isBadSettings bad fault

theorem load_eq_fault_iff :
    (∃ failure, load tree surroundings path given = .error failure ∧ failure.IsFault) ↔
      Escapes tree surroundings path := by
  refine ⟨fun failed => ?_, fun escapes => load_of_escapes escapes given⟩
  rcases load_cases tree surroundings path given with loaded | bad | ⟨-, -, -, escapes⟩
  · exact absurd failed (not_fault_of_settled (.inl loaded))
  · exact absurd failed (not_fault_of_settled (.inr bad))
  · exact escapes

theorem load_eq_ok_or_badSettings_iff :
    ((∃ settings, load tree surroundings path given = .ok settings) ∨
      ∃ failure, load tree surroundings path given = .error failure ∧ failure.IsBadSettings) ↔
      ¬ Escapes tree surroundings path := by
  refine ⟨fun settled escapes => not_fault_of_settled settled (load_of_escapes escapes given), ?_⟩
  intro settled
  rcases load_cases tree surroundings path given with loaded | bad | ⟨-, -, -, escapes⟩
  · exact .inl loaded
  · exact .inr bad
  · exact absurd escapes settled

end Settings

/-! ## The command line -/

namespace Cli

open Files Settings

/-- The program ends with status 2 if the settings are bad, and passes on a fault. -/
theorem runWithSettings_cases (world : World) (request : Request) (command : Command) :
    (∃ settings, settingsFor world request = .ok settings) ∨
    (∃ failure message details, settingsFor world request = .error failure ∧
      failure.mishap = .failure (.badSettings message details) ∧
      runWithSettings world request command = .ok { status := 2, stderr := errorLine message }) ∨
    ∃ failure fault, settingsFor world request = .error failure ∧ failure.mishap = .fault fault ∧
      Escapes world.tree world.surroundings ((configPath request).map Path.ofString) ∧
      runWithSettings world request command = .error (.fault fault) := by
  rcases load_cases world.tree world.surroundings ((configPath request).map Path.ofString)
      (givenSettings request) with
    loaded | ⟨failure, failed, message, details, bad⟩ | ⟨failure, failed, ⟨fault, is⟩, escapes⟩
  · exact .inl loaded
  · refine .inr (.inl ⟨failure, message, details, failed, bad, ?_⟩)
    rw [runWithSettings, settingsFor, failed]
    dsimp only
    rw [bad]
    rfl
  · refine .inr (.inr ⟨failure, fault, failed, is, escapes, ?_⟩)
    rw [runWithSettings, settingsFor, failed]
    dsimp only
    rw [is]

end Cli

namespace Settings

open Files

def garbled : Tree :=
  { root := .folder [("acctscan.yaml", .file [0xff])] }

end Settings
end AccountAudit
