import AccountAudit.Proofs.Settings.Sources

/-!
# Which source settles a field

A field holds what its strongest source says, or its default if no source sets it (`Field.Takes`).
That is so for all fields but one (`takes_of_load`).

The exception is the severity of the classes. There the tables of the variables stay visible below
the stronger ones, class by class: the severity of a class is that of the first table with the class
(`rel_severityOf_of_load`). So a weaker table shows through where it has a class that the strongest
one has not, and then, and only then, the field does not hold what its strongest source says.
-/

namespace AccountAudit
namespace Settings

open Files Schema

variable {tree : Tree} {surroundings : List (String × String)} {path : Option Path}
  {given : List (String × Value)} {settings : Settings} {v : Value} {severity : Severity}

/-! ## Reading severities -/

theorem readSeverity_eq_ok :
    readSeverity v = .ok severity ↔
      ∃ normalized, normalizeSeverity v = .ok normalized ∧
        Severity.read normalized = .ok severity := by
  unfold readSeverity
  cases normalizeSeverity v with
  | error message => simp [refuse]
  | ok normalized => simp

/-- A table is no severity. -/
theorem readSeverity_table (entries : List (Scalar × Value)) :
    readSeverity (.table entries) ≠ .ok severity := by
  intro read
  cases read

/-- Entries whose values are read as severities, with texts for keys. -/
abbrev Rated (entries : List (Scalar × Value)) (overrides : List (String × Severity)) : Prop :=
  List.Forall₂ (fun entry rated => entry.1 = .text rated.1 ∧ readSeverity entry.2 = .ok rated.2)
    entries overrides

theorem keyText_eq_ok {key : Scalar} {classId : String} :
    keyText key = .ok classId ↔ key = .text classId := by
  rw [keyText, within_eq_ok]
  cases key <;> simp [text, refuse]

theorem rated_iff {entries : List (Scalar × Value)} {overrides : List (String × Severity)} :
    (∃ normalized, normalizeEntries entries = .ok normalized ∧
      Schema.entries Severity.read (.table normalized) = .ok overrides) ↔
      Rated entries overrides := by
  unfold Schema.entries
  simp only [all_eq_ok]
  induction entries generalizing overrides with
  | nil => simp [normalizeEntries]
  | cons entry rest ih =>
    rcases entry with ⟨key, v⟩
    constructor
    · rintro ⟨normalized, made, read⟩
      unfold normalizeEntries at made
      cases normal : normalizeSeverity v with
      | error message => rw [normal] at made; cases made
      | ok w =>
        rw [normal] at made
        rcases map_eq_ok_iff.1 made with ⟨others, later, rfl⟩
        rw [List.map_cons, List.forall₂_cons_left_iff] at read
        rcases read with ⟨rated, more, here, there, rfl⟩
        rcases Checked.and_eq_ok.1 (within_eq_ok.1 here) with ⟨named, read⟩
        exact .cons ⟨keyText_eq_ok.1 named, readSeverity_eq_ok.2 ⟨w, normal, read⟩⟩
          (ih.1 ⟨others, later, there⟩)
    · rintro (_ | ⟨⟨named, read⟩, there⟩)
      rename_i rated more
      rcases ih.2 there with ⟨others, later, all⟩
      rcases readSeverity_eq_ok.1 read with ⟨w, normal, here⟩
      refine ⟨(key, w) :: others, ?_, ?_⟩
      · simp [normalizeEntries, normal, later, Except.map]
      · exact .cons (within_eq_ok.2 (Checked.and_eq_ok.2 ⟨keyText_eq_ok.2 named, here⟩)) all

/-- What is read as the severities of classes is a table whose entries are. -/
theorem readOverrides_eq_ok {overrides : List (String × Severity)} :
    readOverrides v = .ok overrides ↔
      ∃ entries, v = .table entries ∧ Rated entries overrides := by
  cases v with
  | scalar s => simp [readOverrides, Schema.entries, refuse]
  | list items => simp [readOverrides, Schema.entries, refuse]
  | table written =>
    simp only [Value.table.injEq, exists_eq_left', ← rated_iff, readOverrides]
    cases normalizeEntries written with
    | error message => simp [refuse]
    | ok normalized => simp

theorem Rated.rel_lookup {entries : List (Scalar × Value)} {overrides : List (String × Severity)}
    (h : Rated entries overrides) (classId : String) :
    Option.Rel (fun v severity => readSeverity v = .ok severity)
      (entries.lookup (.text classId)) (overrides.lookup classId) := by
  induction h with
  | nil => exact .none
  | @cons entry rated rest others head _ ih =>
    rcases entry with ⟨key, v⟩
    rcases rated with ⟨name, severity⟩
    obtain ⟨rfl, read⟩ := head
    rw [Assoc.lookup_cons_eq, Assoc.lookup_cons_eq]
    by_cases here : classId = name
    · simpa [here] using read
    · simpa [here] using ih

theorem exists_rated {entries : List (Scalar × Value)}
    (each : ∀ entry ∈ entries, ∃ classId severity, entry.1 = .text classId ∧
      readSeverity entry.2 = .ok severity) :
    ∃ overrides, Rated entries overrides := by
  induction entries with
  | nil => exact ⟨[], .nil⟩
  | cons entry rest ih =>
    rw [List.forall_mem_cons] at each
    rcases each.1 with ⟨classId, severity, named, read⟩
    rcases ih each.2 with ⟨overrides, rated⟩
    exact ⟨(classId, severity) :: overrides, .cons ⟨named, read⟩ rated⟩

theorem Rated.each {entries : List (Scalar × Value)} {overrides : List (String × Severity)}
    (h : Rated entries overrides) {entry : Scalar × Value} (inside : entry ∈ entries) :
    ∃ classId severity, entry.1 = .text classId ∧ readSeverity entry.2 = .ok severity := by
  rcases exists_right_of_forall₂ h inside with ⟨rated, -, named, read⟩
  exact ⟨_, _, named, read⟩

/-! ## Holding what a source says -/

namespace Field

/-- No other field can be set to a table. -/
theorem read_table {field : Field} (other : field ≠ severityOverrides)
    (entries : List (Scalar × Value)) (held : field.Held) : field.read (.table entries) ≠ .ok held := by
  intro read
  cases field with
  | severityOverrides => exact other rfl
  | _ => cases read

/-- The same setting of a field. The severities of the classes have no order. -/
def Same : (field : Field) → field.Held → field.Held → Prop
  | severityOverrides, overrides, overrides' =>
    ∀ classId, overrides.lookup classId = overrides'.lookup classId
  | _, held, held' => held = held'

theorem same_of_eq {field : Field} {held held' : field.Held} (h : held = held') :
    field.Same held held' := by
  subst h
  cases field with
  | severityOverrides => exact fun classId => rfl
  | _ => exact rfl

/-- The field holds what is read of a value, or its default. -/
def Takes (field : Field) (settings : Settings) (source : Option Value) : Prop :=
  ∃ held, field.readOr source = .ok held ∧ field.Same (field.get settings) held

end Field

/-- The tables of severities that are laid over each other, the strongest one first. -/
def Sources.severityTables (sources : Sources) : List (List (Scalar × Value)) :=
  leadingTables (sources.layered .severityOverrides)

/-- A weaker table has a class that the strongest one has not. -/
def Sources.ShowsThrough (sources : Sources) (classId : String) : Prop :=
  ∃ strongest weaker, sources.severityTables = strongest :: weaker ∧
    strongest.lookup (.text classId) = none ∧
    ∃ table ∈ weaker, table.lookup (.text classId) ≠ none

/-! ## What settings are read of -/

theorem readOr_laid (parts : ∀ entry ∈ given, entry.2.Distinct)
    (loaded : load tree surroundings path given = .ok settings) (field : Field) :
    field.readOr (laid ((Sources.of tree surroundings path given).layered field)) =
      .ok (field.get settings) := by
  rcases exists_layers_of_load parts loaded with ⟨layers, distinct, found, read⟩
  have held := read_eq_ok_iff.1 read field
  have keys : ∀ layer ∈ layers, (layer.map Prod.fst).Nodup :=
    fun layer inside => (distinct layer inside).keys
  rwa [Value.field?, Value.lookup_eq, lookup_flatten keys, found field] at held

theorem distinct_layered (parts : ∀ entry ∈ given, entry.2.Distinct)
    (loaded : load tree surroundings path given = .ok settings) (field : Field) :
    ∀ v ∈ (Sources.of tree surroundings path given).layered field, v.Distinct := by
  intro v inside
  rcases exists_layers_of_load parts loaded with ⟨layers, distinct, found, -⟩
  rw [← found field] at inside
  rcases List.mem_filterMap.1 inside with ⟨layer, present, here⟩
  exact (distinct layer present).parts _ (Assoc.mem_of_lookup here)

/-- All fields but one hold what their strongest source says. -/
theorem takes_of_load (parts : ∀ entry ∈ given, entry.2.Distinct)
    (loaded : load tree surroundings path given = .ok settings) {field : Field}
    (other : field ≠ .severityOverrides) :
    field.Takes settings ((Sources.of tree surroundings path given).strongest field) := by
  have read := readOr_laid parts loaded field
  rw [← Sources.head?_layered]
  refine ⟨field.get settings, ?_, Field.same_of_eq rfl⟩
  cases values : (Sources.of tree surroundings path given).layered field with
  | nil => rwa [values] at read
  | cons v weaker =>
    rw [values] at read
    -- If it were a table, so would be what is laid over the others.
    have plain : ∀ entries, v ≠ .table entries := by
      rintro entries rfl
      rcases exists_overlay_table (laid weaker) entries with ⟨joined, same⟩
      rw [laid, same] at read
      exact Field.read_table other joined _ read
    rwa [laid_cons_of_not_table plain] at read

/-! ## The severities of the classes -/

/-- A severity that is found under others is the strongest of them. -/
theorem head?_of_laid {values : List Value} (found : laid values = some v)
    (read : readSeverity v = .ok severity) : values.head? = some v := by
  cases values with
  | nil => cases found
  | cons w weaker =>
    have plain : ∀ entries, w ≠ .table entries := by
      rintro entries rfl
      rcases exists_overlay_table (laid weaker) entries with ⟨joined, same⟩
      rw [laid, same, Option.some.injEq] at found
      exact readSeverity_table joined (found ▸ read)
    rwa [laid_cons_of_not_table plain] at found

/-- The severities are read of the tables at the front, of which each class sees the first one that
has it. -/
theorem exists_joined_of_load (parts : ∀ entry ∈ given, entry.2.Distinct)
    (loaded : load tree surroundings path given = .ok settings) :
    ∃ joined, Rated joined settings.severityOverrides ∧
      ∀ key, joined.lookup key =
        (Sources.of tree surroundings path given).severityTables.findSome? (·.lookup key) := by
  have read := readOr_laid parts loaded .severityOverrides
  have distinct := distinct_layered parts loaded .severityOverrides
  unfold Sources.severityTables
  generalize (Sources.of tree surroundings path given).layered .severityOverrides = values at *
  cases found : laid values with
  | none =>
    cases values with
    | cons v weaker => cases found
    | nil =>
      rw [found] at read
      have unset : settings.severityOverrides = [] := (Except.ok.inj read).symm
      exact ⟨[], unset ▸ .nil, fun key => rfl⟩
  | some v =>
    rw [found] at read
    rcases readOverrides_eq_ok.1 read with ⟨joined, rfl, rated⟩
    refine ⟨joined, rated, fun key => ?_⟩
    have below := lookup_of_laid distinct found key
    rw [below, ← List.head?_filterMap]
    cases here : joined.lookup key with
    | none =>
      rw [here] at below
      cases named : (leadingTables values).filterMap (·.lookup key) with
      | nil => rfl
      | cons w weaker => rw [named] at below; cases below
    -- What is found is a severity, so nothing is laid over anything.
    | some w =>
      rcases rated.each (Assoc.mem_of_lookup here) with ⟨-, severity, -, read⟩
      rw [← below, here, head?_of_laid (below.symm.trans here) read]

theorem rel_severityOf_of_load (parts : ∀ entry ∈ given, entry.2.Distinct)
    (loaded : load tree surroundings path given = .ok settings) (classId : String) :
    Option.Rel (fun v severity => readSeverity v = .ok severity)
      ((Sources.of tree surroundings path given).severityTables.findSome? (·.lookup (.text classId)))
      (settings.severityOverrides.lookup classId) := by
  rcases exists_joined_of_load parts loaded with ⟨joined, rated, found⟩
  rw [← found]
  exact rated.rel_lookup classId

/-- If nothing sets the severities there are none; else their strongest source is a table. -/
theorem strongest_severityOverrides_of_load (parts : ∀ entry ∈ given, entry.2.Distinct)
    (loaded : load tree surroundings path given = .ok settings) :
    (Sources.of tree surroundings path given).strongest .severityOverrides =
      (Sources.of tree surroundings path given).severityTables.head?.map .table := by
  have read := readOr_laid parts loaded .severityOverrides
  rw [← Sources.head?_layered, Sources.severityTables]
  cases values : (Sources.of tree surroundings path given).layered .severityOverrides with
  | nil => rfl
  | cons v weaker =>
    rw [values] at read
    cases v with
    | table entries => rfl
    | scalar s => rw [laid_cons_of_not_table (by simp)] at read; cases read
    | list items => rw [laid_cons_of_not_table (by simp)] at read; cases read

/-- The strongest table can be read by itself. -/
theorem exists_rated_strongest (parts : ∀ entry ∈ given, entry.2.Distinct)
    (loaded : load tree surroundings path given = .ok settings) {strongest : List (Scalar × Value)}
    {weaker : List (List (Scalar × Value))}
    (tables : (Sources.of tree surroundings path given).severityTables = strongest :: weaker) :
    ∃ overrides, Rated strongest overrides := by
  rcases exists_joined_of_load parts loaded with ⟨joined, rated, found⟩
  have source := strongest_severityOverrides_of_load parts loaded
  rw [tables, List.head?_cons, Option.map_some, ← Sources.head?_layered] at source
  have distinct := distinct_layered parts loaded .severityOverrides _ (List.mem_of_head? source)
  refine exists_rated fun entry inside => ?_
  -- Nothing lies over the strongest table, so what is read has all its entries.
  have kept : joined.lookup entry.1 = some entry.2 := by
    rw [found, tables, List.findSome?_cons, Assoc.lookup_of_mem distinct.keys inside]
  exact rated.each (Assoc.mem_of_lookup kept)

/-- The severities are those of the strongest source unless a weaker table shows through. -/
theorem takes_severityOverrides_iff (parts : ∀ entry ∈ given, entry.2.Distinct)
    (loaded : load tree surroundings path given = .ok settings) :
    Field.severityOverrides.Takes settings
        ((Sources.of tree surroundings path given).strongest .severityOverrides) ↔
      ∀ classId, ¬ (Sources.of tree surroundings path given).ShowsThrough classId := by
  have held := rel_severityOf_of_load parts loaded
  rw [strongest_severityOverrides_of_load parts loaded]
  cases tables : (Sources.of tree surroundings path given).severityTables with
  | nil =>
    rw [tables] at held
    have unset : ∀ classId, settings.severityOverrides.lookup classId = none :=
      fun classId => eq_none_of_rel (held classId) rfl
    constructor
    · rintro - classId ⟨strongest, weaker, same, -⟩
      rw [tables] at same
      cases same
    · exact fun _ => ⟨[], rfl, unset⟩
  | cons strongest weaker =>
    rcases exists_rated_strongest parts loaded tables with ⟨overrides, rated⟩
    rw [tables] at held
    have read : readOverrides (.table strongest) = .ok overrides :=
      readOverrides_eq_ok.2 ⟨strongest, rfl, rated⟩
    constructor
    · rintro ⟨other, read', same⟩ classId ⟨_, _, split, absent, table, inside, named⟩
      obtain ⟨rfl, rfl⟩ := List.cons.inj (tables.symm.trans split)
      obtain rfl : overrides = other := Except.ok.inj (read.symm.trans read')
      have seen := held classId
      rw [List.findSome?_cons, absent] at seen
      -- No severity of the class is read of the strongest table, so none is held.
      have unread := eq_none_of_rel (rated.rel_lookup classId) absent
      have isSome := isSome_eq_of_rel seen
      rw [show settings.severityOverrides.lookup classId = none from (same classId).trans unread]
        at isSome
      have below := Option.isSome_eq_false_iff.1 isSome.symm
      exact named (List.findSome?_eq_none_iff.1 (Option.isNone_iff_eq_none.1 below) table inside)
    · intro hidden
      refine ⟨overrides, read, fun classId => ?_⟩
      have seen := held classId
      have readOff := rated.rel_lookup classId
      change settings.severityOverrides.lookup classId = overrides.lookup classId
      rw [List.findSome?_cons] at seen
      cases here : strongest.lookup (.text classId) with
      | some v =>
        rw [here] at seen readOff
        rcases exists_right_of_rel seen rfl with ⟨severity, found, read⟩
        rcases exists_right_of_rel readOff rfl with ⟨severity', found', read'⟩
        rw [found, found', Except.ok.inj (read.symm.trans read')]
      | none =>
        rw [here] at seen readOff
        have below : weaker.findSome? (·.lookup (.text classId)) = none := by
          rw [List.findSome?_eq_none_iff]
          intro table inside
          by_contra named
          exact hidden classId ⟨strongest, weaker, tables, here, table, inside, named⟩
        rw [eq_none_of_rel seen below, eq_none_of_rel readOff rfl]

/-- A settings file that makes one class less grave. -/
def teamFile : Tree :=
  { root := .folder [("acctscan.yaml", .file "severityOverrides:\n  SOL-003: low\n".toUTF8.toList)] }

/-- Variables that make another class less grave, and ask for more in the log. -/
def teamVariables : List (String × String) :=
  [("ACCTSCAN_LOG_LEVEL", "DEBUG"), ("ACCTSCAN_SEVERITY_OVERRIDES", "\x7b\"SOL-001\": \"info\"\x7d")]

def teamSettings : Settings :=
  { logLevel := "DEBUG", severityOverrides := [("SOL-001", .informational), ("SOL-003", .low)] }

theorem load_team :
    load teamFile teamVariables (some (.ofString "acctscan.yaml")) [] = .ok teamSettings := by
  have computed : (load teamFile teamVariables (some (.ofString "acctscan.yaml")) []).toOption =
      some teamSettings := by
    decide +kernel
  exact toOption_eq_some_iff.1 computed

end Settings
end AccountAudit
