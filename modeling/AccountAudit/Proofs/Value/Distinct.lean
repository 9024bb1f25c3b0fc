import AccountAudit.Document.Format
import AccountAudit.Proofs.Assoc
import AccountAudit.Proofs.Related

/-!
# Tables without repeated keys

No table of a value holds a key twice (`Value.Distinct`). What a text is read as is such a value,
whether the text is JSON (`Json.distinct_of_parse`) or YAML (`Yaml.distinct_of_parse`): entries are put
into a table one after the other, and a key that is there already gets a new value where it stands.
-/

namespace AccountAudit

namespace Value

variable {key : Scalar} {v : Value} {entries table : List (Scalar × Value)}

/-! ## Tables as association lists -/

theorem lookup_eq (key : Scalar) (entries : List (Scalar × Value)) :
    lookup key entries = entries.lookup key := by
  induction entries with
  | nil => rfl
  | cons entry rest ih =>
    rcases entry with ⟨k, v⟩
    rw [lookup, Assoc.lookup_cons_eq, ih]
    simp only [eq_comm]

theorem put_eq (key : Scalar) (v : Value) (entries : List (Scalar × Value)) :
    put key v entries = Assoc.put key v entries := by
  induction entries with
  | nil => rfl
  | cons entry rest ih =>
    rcases entry with ⟨k, w⟩
    rw [put, ih, Assoc.put, Assoc.put, Assoc.adjust]

theorem putAll_eq (base top : List (Scalar × Value)) :
    putAll base top = top.foldl (fun table pair => Assoc.put pair.1 pair.2 table) base := by
  simp only [putAll, put_eq]

/-! ## Distinct keys -/

/-- No table inside has a key twice. -/
inductive Distinct : Value → Prop where
  | scalar (s : Scalar) : Distinct (.scalar s)
  | list {items : List Value} (parts : ∀ v ∈ items, Distinct v) : Distinct (.list items)
  | table {entries : List (Scalar × Value)} (keys : (entries.map Prod.fst).Nodup)
      (parts : ∀ entry ∈ entries, Distinct entry.2) : Distinct (.table entries)

theorem Distinct.keys (h : (Value.table entries).Distinct) : (entries.map Prod.fst).Nodup := by
  cases h with
  | table keys _ => exact keys

theorem Distinct.parts (h : (Value.table entries).Distinct) :
    ∀ entry ∈ entries, entry.2.Distinct := by
  cases h with
  | table _ parts => exact parts

theorem distinct_nil : (Value.table []).Distinct :=
  .table List.nodup_nil (by simp)

theorem distinct_put (h : (Value.table entries).Distinct) (value : v.Distinct) :
    (Value.table (put key v entries)).Distinct := by
  rw [put_eq]
  refine .table (Assoc.nodup_keys_adjust h.keys) ?_
  have parts := h.parts
  clear h
  induction entries with
  | nil => simpa [Assoc.put, Assoc.adjust] using value
  | cons first rest ih =>
    rcases first with ⟨k, w⟩
    rw [List.forall_mem_cons] at parts
    rw [Assoc.put, Assoc.adjust]
    split
    · exact List.forall_mem_cons.2 ⟨value, parts.2⟩
    · exact List.forall_mem_cons.2 ⟨parts.1, ih parts.2⟩

theorem distinct_putAll {top : List (Scalar × Value)} (h : (Value.table entries).Distinct)
    (parts : ∀ entry ∈ top, entry.2.Distinct) : (Value.table (putAll entries top)).Distinct := by
  induction top generalizing entries with
  | nil => exact h
  | cons first rest ih =>
    rw [List.forall_mem_cons] at parts
    exact ih (distinct_put h parts.1) parts.2

theorem distinct_ofEntries (parts : ∀ entry ∈ entries, entry.2.Distinct) :
    (ofEntries entries).Distinct :=
  distinct_putAll distinct_nil parts

theorem distinct_ofEntries_reverse (parts : ∀ entry ∈ entries, entry.2.Distinct) :
    (ofEntries entries.reverse).Distinct :=
  distinct_ofEntries fun entry inside => parts entry (List.mem_reverse.1 inside)

theorem distinct_list_reverse {items : List Value} (parts : ∀ v ∈ items, v.Distinct) :
    (Value.list items.reverse).Distinct :=
  .list fun v inside => parts v (List.mem_reverse.1 inside)

end Value

/-! ## JSON -/

namespace Json

variable {cs rest : List Char} {v : Value}

theorem scalar_of_number (read : number cs = .ok (v, rest)) : ∃ s, v = .scalar s := by
  unfold number at read
  dsimp only at read
  repeat' split at read
  all_goals cases read
  all_goals exact ⟨_, rfl⟩

theorem scalar_of_wordOrNumber (read : wordOrNumber cs = .ok (v, rest)) : ∃ s, v = .scalar s := by
  unfold wordOrNumber at read
  dsimp only at read
  split at read
  · rename_i found taken
    obtain rfl := Except.ok.inj read
    rcases List.exists_of_findSome?_eq_some taken with ⟨⟨word, w⟩, inside, taken⟩
    rcases Option.map_eq_some_iff.1 taken with ⟨later, -, same⟩
    obtain ⟨rfl, -⟩ := Prod.ext_iff.1 same
    simp only [List.mem_cons, Prod.mk.injEq, List.not_mem_nil, or_false] at inside
    rcases inside with ⟨-, rfl⟩ | ⟨-, rfl⟩ | ⟨-, rfl⟩ | ⟨-, rfl⟩ | ⟨-, rfl⟩ | ⟨-, rfl⟩ <;>
      exact ⟨_, rfl⟩
  · exact scalar_of_number read

/-- What is read with some fuel has no key twice, if what was read before has none. -/
structure ReadsDistinct (fuel : Nat) : Prop where
  value : ∀ {cs v rest}, Json.value fuel cs = .ok (v, rest) → v.Distinct
  items : ∀ {read cs v rest}, (∀ w ∈ read, w.Distinct) →
    Json.items fuel read cs = .ok (v, rest) → v.Distinct
  members : ∀ {read cs v rest}, (∀ entry ∈ read, entry.2.Distinct) →
    Json.members fuel read cs = .ok (v, rest) → v.Distinct

theorem readsDistinct (fuel : Nat) : ReadsDistinct fuel := by
  induction fuel with
  | zero =>
    constructor
    · intro cs v rest read
      cases read
    · intro before cs v rest _ read
      cases read
    · intro before cs v rest _ read
      cases read
  | succ fuel ih =>
    constructor
    · intro cs v rest read
      unfold Json.value at read
      split at read
      · split at read <;> cases read
        exact .scalar _
      · split at read
        · cases read
          exact .list (by simp)
        · exact ih.items (by simp) read
      · split at read
        · cases read
          exact Value.distinct_nil
        · exact ih.members (by simp) read
      · rcases scalar_of_wordOrNumber read with ⟨s, rfl⟩
        exact .scalar s
    · intro before cs v rest distinct read
      unfold Json.items at read
      split at read
      · cases read
      · rename_i item later taken
        have longer := List.forall_mem_cons.2 ⟨ih.value taken, distinct⟩
        split at read
        · cases read
          exact Value.distinct_list_reverse longer
        · exact ih.items longer read
        · cases read
    · intro before cs v rest distinct read
      unfold Json.members at read
      split at read
      · split at read
        · cases read
        · split at read
          · split at read
            · cases read
            · rename_i name _ _ _ _ _ _ w later taken
              have longer : ∀ entry ∈ (Scalar.text name, w) :: before, entry.2.Distinct :=
                List.forall_mem_cons.2 ⟨ih.value taken, distinct⟩
              split at read
              · cases read
                exact Value.distinct_ofEntries_reverse longer
              · exact ih.members longer read
              · cases read
          · cases read
      · cases read

theorem distinct_of_parse (read : parse cs = .ok v) : v.Distinct := by
  unfold parse at read
  dsimp only at read
  split at read
  · cases read
  · split at read
    · cases read
    · rename_i taken
      split at read
      · cases read
        exact (readsDistinct _).value taken
      · cases read

end Json

/-! ## YAML -/

namespace Yaml

variable {cs : List Char} {v : Value}

/-- What is read with some fuel has no key twice, if what was read before has none. -/
structure ReadsDistinct (fuel : Nat) : Prop where
  flowNode : ∀ {cur v next}, Yaml.flowNode fuel cur = .ok (v, next) → v.Distinct
  flowValue : ∀ {cur v next}, Yaml.flowValue fuel cur = .ok (v, next) → v.Distinct
  flowItems : ∀ {read cur v next}, (∀ w ∈ read, w.Distinct) →
    Yaml.flowItems fuel read cur = .ok (v, next) → v.Distinct
  flowEntries : ∀ {read cur v next}, (∀ entry ∈ read, entry.2.Distinct) →
    Yaml.flowEntries fuel read cur = .ok (v, next) → v.Distinct
  blockNode : ∀ {indent collections cur v next},
    Yaml.blockNode fuel indent collections cur = .ok (v, next) → v.Distinct
  blockContent : ∀ {collections column line cur v next},
    Yaml.blockContent fuel collections column line cur = .ok (v, next) → v.Distinct
  blockItems : ∀ {inMapping column read cur v next}, (∀ w ∈ read, w.Distinct) →
    Yaml.blockItems fuel inMapping column read cur = .ok (v, next) → v.Distinct
  blockEntries : ∀ {column read key cur v next}, (∀ entry ∈ read, entry.2.Distinct) →
    Yaml.blockEntries fuel column read key cur = .ok (v, next) → v.Distinct

theorem readsDistinct_zero : ReadsDistinct 0 := by
  constructor
  · intro cur v next read
    cases read
  · intro cur v next read
    cases read
  · intro before cur v next _ read
    cases read
  · intro before cur v next _ read
    cases read
  · intro indent collections cur v next read
    unfold Yaml.blockNode at read
    cases read
  · intro collections column line cur v next read
    unfold Yaml.blockContent at read
    cases read
  · intro inMapping column before cur v next _ read
    unfold Yaml.blockItems at read
    cases read
  · intro column before key cur v next _ read
    unfold Yaml.blockEntries at read
    cases read

variable {fuel : Nat}

theorem distinct_of_flowNode (ih : ReadsDistinct fuel) {cur next : Cursor}
    (read : flowNode (fuel + 1) cur = .ok (v, next)) : v.Distinct := by
  unfold flowNode at read
  split at read
  · exact ih.flowItems (by simp) read
  · exact ih.flowEntries (by simp) read
  · rcases map_eq_ok_iff.1 read with ⟨⟨s, later⟩, -, same⟩
    obtain ⟨rfl, -⟩ := Prod.ext_iff.1 same
    exact .scalar s

theorem distinct_of_flowValue (ih : ReadsDistinct fuel) {cur next : Cursor}
    (read : flowValue (fuel + 1) cur = .ok (v, next)) : v.Distinct := by
  unfold flowValue at read
  dsimp only at read
  split at read
  · cases read
    exact .scalar _
  · cases read
    exact .scalar _
  · cases read
    exact .scalar _
  · exact ih.flowNode read

theorem distinct_of_flowItems (ih : ReadsDistinct fuel) {before : List Value} {cur next : Cursor}
    (distinct : ∀ w ∈ before, w.Distinct)
    (read : flowItems (fuel + 1) before cur = .ok (v, next)) : v.Distinct := by
  unfold flowItems at read
  dsimp only at read
  split at read
  · cases read
    exact Value.distinct_list_reverse distinct
  · split at read
    · cases read
    · rename_i item behind taken
      -- The item is what was read, or a table of one entry.
      split at read
      · cases read
      · rename_i entry later made
        have single : entry.Distinct := by
          split at made
          · cases made
            exact ih.flowNode taken
          · split at made
            · rename_i key w _ _ value
              cases made
              exact .table (by simp) (by simpa using ih.flowValue value)
            · cases made
            · cases made
        have longer := List.forall_mem_cons.2 ⟨single, distinct⟩
        split at read
        · exact ih.flowItems longer read
        · cases read
          exact Value.distinct_list_reverse longer
        · cases read

theorem distinct_of_flowEntries (ih : ReadsDistinct fuel) {before : List (Scalar × Value)}
    {cur next : Cursor} (distinct : ∀ entry ∈ before, entry.2.Distinct)
    (read : flowEntries (fuel + 1) before cur = .ok (v, next)) : v.Distinct := by
  unfold flowEntries at read
  dsimp only at read
  split at read
  · cases read
    exact Value.distinct_ofEntries_reverse distinct
  · split at read
    · cases read
    · split at read
      · cases read
      · rename_i entry later made
        have single : entry.2.Distinct := by
          split at made
          · cases made
          · cases made
            exact .scalar _
          · split at made
            · rename_i value
              cases made
              exact ih.flowValue value
            · cases made
        have longer : ∀ e ∈ entry :: before, e.2.Distinct :=
          List.forall_mem_cons.2 ⟨single, distinct⟩
        split at read
        · exact ih.flowEntries longer read
        · cases read
          exact Value.distinct_ofEntries_reverse longer
        · cases read

theorem distinct_of_blockNode (ih : ReadsDistinct fuel) {indent : Int} {collections : Bool}
    {cur next : Cursor} (read : blockNode (fuel + 1) indent collections cur = .ok (v, next)) :
    v.Distinct := by
  unfold blockNode at read
  split at read
  · split at read
    · exact ih.blockItems (by simp) read
    · cases read
  · split at read
    · exact ih.flowNode read
    · exact ih.flowNode read
    · split at read
      · cases read
      · split at read
        · cases read
          exact .scalar _
        · exact ih.blockEntries (by simp) read

theorem distinct_of_blockContent (ih : ReadsDistinct fuel) {collections : Bool}
    {column line : Nat} {cur next : Cursor}
    (read : blockContent (fuel + 1) collections column line cur = .ok (v, next)) : v.Distinct := by
  unfold blockContent at read
  dsimp only at read
  split at read
  · cases read
    exact .scalar _
  · split at read
    · exact ih.blockNode read
    · split at read
      · exact ih.blockNode read
      · cases read
        exact .scalar _

theorem distinct_of_blockItems (ih : ReadsDistinct fuel) {inMapping : Bool} {column : Nat}
    {before : List Value} {cur next : Cursor} (distinct : ∀ w ∈ before, w.Distinct)
    (read : blockItems (fuel + 1) inMapping column before cur = .ok (v, next)) : v.Distinct := by
  unfold blockItems at read
  dsimp only at read
  split at read
  · cases read
  · rename_i item ended taken
    have longer := List.forall_mem_cons.2 ⟨ih.blockContent taken, distinct⟩
    split at read
    · cases read
    · cases read
      exact Value.distinct_list_reverse longer
    · split at read
      · exact ih.blockItems longer read
      · split at read
        · cases read
          exact Value.distinct_list_reverse longer
        · cases read

theorem distinct_of_blockEntries (ih : ReadsDistinct fuel) {column : Nat}
    {before : List (Scalar × Value)} {key : Scalar} {cur next : Cursor}
    (distinct : ∀ entry ∈ before, entry.2.Distinct)
    (read : blockEntries (fuel + 1) column before key cur = .ok (v, next)) : v.Distinct := by
  unfold blockEntries at read
  dsimp only at read
  split at read
  · cases read
  · rename_i w ended taken
    -- The value is a sequence in the column of the key, or what stands further in.
    have value : w.Distinct := by
      split at taken
      · exact ih.blockItems (by simp) taken
      · exact ih.blockContent taken
    have longer : ∀ entry ∈ (key, w) :: before, entry.2.Distinct :=
      List.forall_mem_cons.2 ⟨value, distinct⟩
    split at read
    · cases read
    · cases read
      exact Value.distinct_ofEntries_reverse longer
    · split at read
      · cases read
      · split at read
        · cases read
        · split at read
          · cases read
          · exact ih.blockEntries longer read

theorem readsDistinct (fuel : Nat) : ReadsDistinct fuel := by
  induction fuel with
  | zero => exact readsDistinct_zero
  | succ fuel ih =>
    exact
      { flowNode := distinct_of_flowNode ih
        flowValue := distinct_of_flowValue ih
        flowItems := distinct_of_flowItems ih
        flowEntries := distinct_of_flowEntries ih
        blockNode := distinct_of_blockNode ih
        blockContent := distinct_of_blockContent ih
        blockItems := distinct_of_blockItems ih
        blockEntries := distinct_of_blockEntries ih }

theorem distinct_of_parse (read : parse cs = .ok v) : v.Distinct := by
  unfold parse at read
  extract_lets at read
  split at read
  · cases read
  · split at read
    · split at read
      · cases read
        exact .scalar _
      · cases read
    · split at read
      · cases read
      · rename_i taken
        split at read
        · cases read
          exact (readsDistinct _).blockNode taken
        · cases read

end Yaml

/-! ## Documents -/

namespace Document

theorem distinct_of_decode {format : Format} {text : List Char} {v : Value}
    (read : decode format text = .ok v) : v.Distinct := by
  cases format with
  | json =>
    simp only [decode] at read
    split at read
    · rename_i parsed
      cases read
      exact Json.distinct_of_parse parsed
    · split at read <;> cases read
  | yaml =>
    simp only [decode] at read
    split at read
    · rename_i parsed
      cases read
      exact Yaml.distinct_of_parse parsed
    · cases read
    · cases read

end Document
end AccountAudit
