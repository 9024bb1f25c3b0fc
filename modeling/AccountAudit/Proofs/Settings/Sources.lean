import AccountAudit.Proofs.Settings.Field
import AccountAudit.Proofs.Settings.Overlay

/-!
# Sources of the settings

A field may be set by the caller, by the settings file, by a variable of the surroundings and by a
variable of the file `.env`. The first of these that sets it is the strongest source of the field
(`Sources.strongest`).

Loading makes three layers of the four sources, since what the caller gives is put into the layer of
the settings file. At each field the layers have what the sources say (`exists_layers_of_load`).
-/

namespace AccountAudit
namespace Settings

open Files

/-! ## What a source says -/

/-- What the caller gives for a field; a null gives nothing. -/
def givenFor (given : List (String × Value)) (field : Field) : Option Value :=
  ((given.filter fun (name, v) => v ≠ .null ∧ name = field.name).map Prod.snd).getLast?

/-- The value of an entry whose key means the field. -/
def entryFor? (field : Field) : Scalar × Value → Option Value
  | (.text key, v) => if fieldOfKey key = field.name then some v else none
  | _ => none

/-- What the entries of a settings file say of a field. -/
def writtenFor (written : List (Scalar × Value)) (field : Field) : Option Value :=
  (written.filterMap (entryFor? field)).getLast?

/-- What variables with small names say of the field with a name. -/
def boundFor (bindings : List (String × Option String)) (name : String) : Option Value :=
  match bindings.lookup (variableName name) with
  | some (some written) => (variableValue name written).join
  | _ => none

/-- What variables say of a field. -/
def variableFor (bindings : List (String × Option String)) (field : Field) : Option Value :=
  boundFor (lowerNames bindings) field.name

/-- Where the values of the fields come from, the strongest source first. -/
structure Sources where
  /-- What the caller gives. -/
  given : List (String × Value)
  /-- The entries of the settings file. -/
  written : List (Scalar × Value)
  /-- The variables of the surroundings. -/
  environment : List (String × Option String)
  /-- The variables that the file `.env` assigns. -/
  assigned : List (String × Option String)

namespace Sources

/-- The entries of a settings file; there are none if it is no table. -/
def entriesOf (tree : Tree) (path : Path) : List (Scalar × Value) :=
  match tree.readText path with
  | .error _ => []
  | .ok text =>
    match Document.decode .yaml text with
    | .ok (.table entries) => entries
    | _ => []

/-- The variables that the file `.env` assigns; there are none if it cannot be read. -/
def assignedIn (tree : Tree) (surroundings : List (String × String)) :
    List (String × Option String) :=
  match tree.readText variableFile with
  | .error _ => []
  | .ok text => EnvFile.parse surroundings text

/-- The sources that settings are loaded from. -/
def of (tree : Tree) (surroundings : List (String × String)) (path : Option Path)
    (given : List (String × Value)) : Sources where
  given := given
  written := (path.map (entriesOf tree)).getD []
  environment := surroundings.map fun (name, v) => (name, some v)
  assigned := assignedIn tree surroundings

/-- The value that the strongest source of a field gives it. -/
def strongest (sources : Sources) (field : Field) : Option Value :=
  (givenFor sources.given field).or <| (writtenFor sources.written field).or <|
    (variableFor sources.environment field).or (variableFor sources.assigned field)

/-- The values of a field that are laid over each other, the strongest one first. What the caller
gives hides the settings file. -/
def layered (sources : Sources) (field : Field) : List Value :=
  [(givenFor sources.given field).or (writtenFor sources.written field),
    variableFor sources.environment field, variableFor sources.assigned field].filterMap id

theorem head?_layered (sources : Sources) (field : Field) :
    (sources.layered field).head? = sources.strongest field := by
  unfold layered strongest
  cases givenFor sources.given field <;> cases writtenFor sources.written field <;>
    cases variableFor sources.environment field <;> cases variableFor sources.assigned field <;> rfl

end Sources

/-! ## Layers -/

variable {tree : Tree} {surroundings : List (String × String)} {path : Option Path}
  {given : List (String × Value)} {settings : Settings}

theorem lookup_putAll_givenLayer (layer : Layer) (field : Field) :
    (Value.putAll layer (givenLayer given)).lookup (.text field.name) =
      (givenFor given field).or (layer.lookup (.text field.name)) := by
  have values : Assoc.valuesOf (.text field.name) (givenLayer given) =
      (given.filter fun (name, v) => v ≠ .null ∧ name = field.name).map Prod.snd := by
    unfold Assoc.valuesOf givenLayer
    rw [List.filter_map, List.map_map, List.filter_filter]
    simp only [Function.comp_def, Scalar.text.injEq, Bool.and_comm, Bool.decide_and]
  rw [Value.putAll_eq, Assoc.lookup_foldl_put, values, givenFor]

theorem distinct_putAll_givenLayer {layer : Layer} (distinct : (Value.table layer).Distinct)
    (parts : ∀ entry ∈ given, entry.2.Distinct) :
    (Value.table (Value.putAll layer (givenLayer given))).Distinct := by
  refine Value.distinct_putAll distinct fun entry inside => ?_
  rcases List.mem_map.1 inside with ⟨one, kept, rfl⟩
  exact parts one (List.mem_filter.1 kept).1

theorem layerOfEntries_spec {layer made : Layer} {entries : List (Scalar × Value)}
    (done : layerOfEntries layer entries = .ok made) :
    (∀ field : Field, made.lookup (.text field.name) =
      (writtenFor entries field).or (layer.lookup (.text field.name))) ∧
    ((Value.table layer).Distinct → (∀ entry ∈ entries, entry.2.Distinct) →
      (Value.table made).Distinct) := by
  induction entries generalizing layer with
  | nil =>
    obtain rfl := Except.ok.inj done
    exact ⟨fun field => rfl, fun distinct _ => distinct⟩
  | cons entry rest ih =>
    rcases entry with ⟨key, v⟩
    cases key with
    | text key =>
      rcases ih done with ⟨found, distinct⟩
      constructor
      · intro field
        rw [found field, writtenFor, writtenFor, List.filterMap_cons, entryFor?, Value.put_eq,
          Assoc.lookup_put]
        by_cases means : fieldOfKey key = field.name
        -- The entry is found if no later one means the field as well.
        · cases later : (rest.filterMap (entryFor? field)).getLast? with
          | none => simp [means, List.getLast?_cons, later]
          | some w => simp [means, List.getLast?_cons, later]
        · simp [means, Ne.symm means]
      · intro before parts
        rw [List.forall_mem_cons] at parts
        exact distinct (Value.distinct_put before parts.1) parts.2
    | _ => cases done

theorem fileLayer_spec {file : Path} {layer : Layer} (made : fileLayer tree file = .ok layer) :
    (∀ field : Field,
      layer.lookup (.text field.name) = writtenFor (Sources.entriesOf tree file) field) ∧
    (Value.table layer).Distinct := by
  unfold fileLayer at made
  unfold Sources.entriesOf
  cases read : tree.readText file with
  | error failure =>
    rw [read] at made
    cases failure <;> cases made
  | ok text =>
    rw [read] at made
    dsimp only at made ⊢
    cases decoded : Document.decode .yaml text with
    | error failure =>
      rw [decoded] at made
      cases failure <;> cases made
    | ok v =>
      rw [decoded] at made
      dsimp only at made ⊢
      cases v with
      | scalar s =>
        split at made
        · cases made
        · obtain rfl := Except.ok.inj made
          exact ⟨fun field => rfl, Value.distinct_nil⟩
      | list items =>
        split at made
        · cases made
        · obtain rfl := Except.ok.inj made
          exact ⟨fun field => rfl, Value.distinct_nil⟩
      | table entries =>
        have parts := (Document.distinct_of_decode decoded).parts
        split at made
        · rcases layerOfEntries_spec made with ⟨found, distinct⟩
          refine ⟨fun field => ?_, distinct Value.distinct_nil parts⟩
          rw [found field, List.lookup_nil, Option.or_none]
        -- A table that counts as not given is empty.
        · rename_i absent
          obtain rfl := Except.ok.inj made
          have none : entries = [] := by simpa [Value.isGiven] using absent
          exact ⟨fun field => by rw [none]; rfl, Value.distinct_nil⟩

theorem ownLayer_spec {own : Layer} (made : ownLayer tree path given = .ok own)
    (parts : ∀ entry ∈ given, entry.2.Distinct) :
    (∀ field : Field, own.lookup (.text field.name) =
      (givenFor given field).or (writtenFor ((path.map (Sources.entriesOf tree)).getD []) field)) ∧
    (Value.table own).Distinct := by
  cases path with
  | none =>
    obtain rfl := Except.ok.inj made
    exact ⟨lookup_putAll_givenLayer [], distinct_putAll_givenLayer Value.distinct_nil parts⟩
  | some file =>
    rcases map_eq_ok_iff.1 made with ⟨layer, read, rfl⟩
    rcases fileLayer_spec read with ⟨found, distinct⟩
    refine ⟨fun field => ?_, distinct_putAll_givenLayer distinct parts⟩
    rw [lookup_putAll_givenLayer, found field]
    rfl

theorem distinct_of_variableValue {name written : String} {v : Value}
    (said : variableValue name written = some (some v)) : v.Distinct := by
  unfold variableValue at said
  split at said
  · cases said
    exact .scalar _
  · cases said
  · rename_i parsed _
    cases said
    exact Json.distinct_of_parse parsed
  · cases said
    exact .scalar _
  · cases said

/-- A layer of variables has the fields that it was made for, as far as they are bound. -/
theorem layerFrom_spec {source : VariableSource} {bindings : List (String × Option String)}
    {fields : List String} {layer : Layer} (made : layerFrom source bindings fields = .ok layer)
    (once : fields.Nodup) :
    (∀ name, layer.lookup (.text name) = if name ∈ fields then boundFor bindings name else none) ∧
    (Value.table layer).Distinct := by
  induction fields generalizing layer with
  | nil =>
    obtain rfl := Except.ok.inj made
    exact ⟨fun name => by simp, Value.distinct_nil⟩
  | cons field rest ih =>
    rw [List.nodup_cons] at once
    -- If the field says nothing, the layer is that of the other fields.
    have silent : boundFor bindings field = none → layerFrom source bindings rest = .ok layer →
        (∀ name, layer.lookup (.text name) =
          if name ∈ field :: rest then boundFor bindings name else none) ∧
        (Value.table layer).Distinct := by
      intro none read
      rcases ih read once.2 with ⟨found, distinct⟩
      refine ⟨fun name => ?_, distinct⟩
      rw [found name]
      by_cases here : name = field
      · simp [here, none, once.1]
      · simp [here]
    unfold layerFrom at made
    split at made
    · rename_i written bound
      split at made
      · cases made
      · rename_i said value
        rcases map_eq_ok_iff.1 made with ⟨others, read, rfl⟩
        cases said with
        | none => exact silent (by simp [boundFor, bound, value]) read
        | some v =>
          rcases ih read once.2 with ⟨found, distinct⟩
          have absent : others.lookup (.text field) = none := by rw [found, if_neg once.1]
          constructor
          · intro name
            by_cases here : name = field
            · simp [here, boundFor, bound, value]
            · simp [Assoc.lookup_cons_eq, here, found name]
          · refine .table (List.nodup_cons.2 ⟨?_, distinct.keys⟩)
              (List.forall_mem_cons.2 ⟨distinct_of_variableValue value, distinct.parts⟩)
            intro inside
            rcases List.mem_map.1 inside with ⟨entry, member, same⟩
            have other := List.lookup_eq_none_iff.1 absent entry member
            simp [same] at other
    · rename_i unset
      refine silent ?_ made
      unfold boundFor
      split
      · rename_i written bound
        exact absurd bound (unset written)
      · rfl

theorem layerOf_spec {source : VariableSource} {bindings : List (String × Option String)}
    {layer : Layer} (made : layerOf source bindings = .ok layer) :
    (∀ field : Field, layer.lookup (.text field.name) = variableFor bindings field) ∧
    (Value.table layer).Distinct := by
  rcases layerFrom_spec made (by decide) with ⟨found, distinct⟩
  exact ⟨fun field => by rw [found, if_pos field.name_mem_fieldNames, variableFor], distinct⟩

theorem variableLayers_spec {layers : List Layer}
    (read : variableLayers tree surroundings = .ok layers) :
    ∃ stronger weaker, layers = [stronger, weaker] ∧
      layerOf .environment (surroundings.map fun (name, v) => (name, some v)) = .ok stronger ∧
      layerOf .file (Sources.assignedIn tree surroundings) = .ok weaker := by
  have assigned : ∀ fromFile, fileVariables tree surroundings = .ok fromFile →
      Sources.assignedIn tree surroundings = fromFile := by
    intro fromFile found
    unfold fileVariables at found
    unfold Sources.assignedIn
    split at found
    · rename_i text kept
      rw [kept]
      exact Except.ok.inj found
    · cases found
    · rename_i kept
      rw [kept]
      exact Except.ok.inj found
  unfold variableLayers at read
  cases found : fileVariables tree surroundings with
  | error failure => rw [found] at read; cases read
  | ok fromFile =>
    rw [found] at read
    rw [assigned fromFile found]
    dsimp only at read
    split at read
    · cases read
    · cases read
    · rename_i stronger weaker above below
      exact ⟨stronger, weaker, (Except.ok.inj read).symm, above, below⟩

/-- Settings are loaded from three layers, which have at each field what the sources say. -/
theorem exists_layers_of_load (parts : ∀ entry ∈ given, entry.2.Distinct)
    (loaded : load tree surroundings path given = .ok settings) :
    ∃ layers : List Layer, (∀ layer ∈ layers, (Value.table layer).Distinct) ∧
      (∀ field : Field, layers.filterMap (·.lookup (.text field.name)) =
        (Sources.of tree surroundings path given).layered field) ∧
      read (.table (flatten layers)) = .ok settings := by
  unfold load at loaded
  cases owned : ownLayer tree path given with
  | error failure => rw [owned] at loaded; cases loaded
  | ok own =>
    rw [owned] at loaded
    dsimp only at loaded
    cases bound : variableLayers tree surroundings with
    | error failure => rw [bound] at loaded; cases loaded
    | ok layers =>
      rw [bound] at loaded
      rcases variableLayers_spec bound with ⟨stronger, weaker, rfl, above, below⟩
      have own' := ownLayer_spec owned parts
      have stronger' := layerOf_spec above
      have weaker' := layerOf_spec below
      refine ⟨[own, stronger, weaker], by simp [own'.2, stronger'.2, weaker'.2], fun field => ?_, ?_⟩
      · unfold Sources.layered
        simp only [List.filterMap_cons, own'.1 field, stronger'.1 field, weaker'.1 field,
          List.filterMap_nil, Sources.of, id]
      · dsimp only [ofLayersOrFail, ofLayers] at loaded
        split at loaded
        · rename_i read
          rw [read, Except.ok.inj loaded]
        · cases loaded

end Settings
end AccountAudit
