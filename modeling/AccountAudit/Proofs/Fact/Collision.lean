import AccountAudit.Proofs.Assoc
import AccountAudit.Proofs.Fact.Extraction
import Mathlib.Data.List.Count

/-!
# Layouts of one size

The facts keep the sizes of layouts twice: under the name of each layout, where the last declaration
counts, and as groups of names under each size, where every declaration counts. A layout collides with
the names in the group of its size (`mem_collidingStructs_iff`), so with a name that any declaration
gives this size.

The two agree unless a name is declared again and an earlier declaration of it has the size of another
layout (`ProgramUnit.Sheds`). The main statement `collides_faithfully_iff` says that colliding is the
relation of layouts of one size, each named once, exactly if no layout has such a size.
-/

namespace AccountAudit

/-- The last item of a list is the only one that equals `a`, or none does, exactly if no item in front
of it equals `a`. -/
theorem not_mem_dropLast_iff {α : Type} [DecidableEq α] {a : α} {items : List α} :
    a ∉ items.dropLast ↔ (a ∈ items ↔ items.getLast? = some a) ∧ items.count a ≤ 1 := by
  rcases List.eq_nil_or_concat items with rfl | ⟨front, last, rfl⟩
  · simp
  · rw [List.concat_eq_append, List.dropLast_concat, List.getLast?_concat, List.mem_append,
      List.mem_singleton, List.count_append, Option.some_inj]
    constructor
    · intro absent
      have single : [last].count a ≤ 1 := List.count_le_length
      refine ⟨⟨fun inside => (inside.resolve_left absent).symm, fun same => .inr same.symm⟩, ?_⟩
      rwa [List.count_eq_zero.2 absent, Nat.zero_add]
    · rintro ⟨isLast, once⟩ inside
      obtain rfl := isLast.1 (.inl inside)
      have twice := List.count_pos_iff.2 inside
      rw [List.count_singleton_self] at once
      omega

/-! ## Declared sizes -/

namespace ProgramUnit

/-- The sizes of the declarations of a name, in their order. -/
def sizesOf (u : ProgramUnit) (name : String) : List (Except DigitExcess (Option Int)) :=
  (u.structs.filter (·.name = name)).map StructDecl.serializedSize?

/-- A declaration of the name has the size, and another declaration of the name follows it. -/
def Sheds (u : ProgramUnit) (name : String) (size : Int) : Prop :=
  .ok (some size) ∈ (u.sizesOf name).dropLast

instance (u : ProgramUnit) (name : String) (size : Int) : Decidable (u.Sheds name size) :=
  inferInstanceAs (Decidable (_ ∈ _))

end ProgramUnit

namespace StructFact

/-- The sizes of the layouts of a name, in their order. -/
def sizesOf (name : String) (structs : List StructFact) : List (Option Int) :=
  (structs.filter (·.name = name)).map StructFact.size

/-- The names of the layouts of a size, in their order. -/
def namesOf (size : Int) (structs : List StructFact) : List String :=
  (structs.filter (·.size = some size)).map StructFact.name

theorem count_namesOf (name : String) (size : Int) (structs : List StructFact) :
    (namesOf size structs).count name = (sizesOf name structs).count (some size) := by
  simp only [namesOf, sizesOf, List.count, List.countP_map, List.countP_filter]
  refine List.countP_congr fun struct _ => ?_
  simp [and_comm]

theorem mem_namesOf_iff {name : String} {size : Int} {structs : List StructFact} :
    name ∈ namesOf size structs ↔ some size ∈ sizesOf name structs := by
  rw [← List.count_pos_iff, count_namesOf, List.count_pos_iff]

theorem valuesOf_sized (size : Int) (structs : List StructFact) :
    Assoc.valuesOf size (structs.filterMap fun struct =>
      struct.size.map fun size => (size, struct.name)) = namesOf size structs := by
  induction structs with
  | nil => rfl
  | cons struct rest ih =>
    rw [namesOf, List.filter_cons, List.filterMap_cons]
    cases known : struct.size with
    | none => simpa [namesOf] using ih
    | some size' =>
      simp only [Option.map_some, Assoc.valuesOf_cons, Option.some_inj, decide_eq_true_iff]
      split
      · rw [List.map_cons, ih, namesOf]
      · rw [ih, namesOf]

end StructFact

theorem ProgramUnit.sizesOf_eq {u : ProgramUnit} {structs : List StructFact}
    (made : u.structs.mapM StructDecl.fact = .ok structs) (name : String) :
    u.sizesOf name = (StructFact.sizesOf name structs).map .ok := by
  rw [sizesOf, StructFact.sizesOf]
  generalize u.structs = decls at made
  have each := forall₂_of_mapM made
  clear made
  induction each with
  | nil => rfl
  | @cons decl struct decls structs found _ ih =>
    rcases map_eq_ok_iff.1 found with ⟨size, sized, rfl⟩
    rw [List.filter_cons, List.filter_cons]
    by_cases here : decl.name = name
    · simp [here, sized, ih]
    · simp [here, ih]

/-! ## Colliding layouts -/

namespace FactBase

/-- The size of a layout, if it is declared and has one. -/
def sizeOf? (base : FactBase) (name : String) : Option Int :=
  (base.struct? name).bind StructFact.size

/-- A layout collides with the others of its size, with each of them once. -/
structure CollidesFaithfully (base : FactBase) : Prop where
  symm : ∀ m n : String, m ∈ base.collidingStructs n ↔ n ∈ base.collidingStructs m
  mem_iff : ∀ m n : String, m ≠ n → (m ∈ base.collidingStructs n ↔
    ∃ size, base.sizeOf? m = some size ∧ base.sizeOf? n = some size)
  not_mem_self : ∀ n : String, n ∉ base.collidingStructs n
  nodup : ∀ n : String, (base.collidingStructs n).Nodup

variable {u : ProgramUnit} {base : FactBase} {structs : List StructFact}

/-- The size of a layout is that of its last declaration. -/
theorem sizeOf?_eq_some_iff (made : ofUnit u = .ok base)
    (found : u.structs.mapM StructDecl.fact = .ok structs) {name : String} {size : Int} :
    base.sizeOf? name = some size ↔
      (StructFact.sizesOf name structs).getLast? = some (some size) := by
  rcases ofUnit_eq_ok.1 made with ⟨handlers, structs', -, found', rfl⟩
  obtain rfl : structs' = structs := Except.ok.inj (found'.symm.trans found)
  have values : Assoc.valuesOf name (structs'.map fun struct => (struct.name, struct)) =
      structs'.filter (·.name = name) := by
    simp [Assoc.valuesOf, List.filter_map, Function.comp_def]
  rw [sizeOf?, struct?, Assoc.lookup_ofPairs, values, StructFact.sizesOf, List.getLast?_map]
  simp [Option.bind_eq_some_iff]

/-- A size that several layouts have leads to their names, and no other size leads anywhere. -/
theorem lookup_groupsOf (size : Int) (structs : List StructFact) :
    ((groupsOf structs).lookup size).getD [] =
      if 1 < (StructFact.namesOf size structs).length then StructFact.namesOf size structs
      else [] := by
  let sized := structs.filterMap fun struct => struct.size.map fun size => (size, struct.name)
  have gathered : ((Assoc.gather sized).lookup size).getD [] = StructFact.namesOf size structs :=
    (Assoc.lookup_foldl_push size sized []).trans (StructFact.valuesOf_sized size structs)
  have kept : (groupsOf structs).lookup size =
      ((Assoc.gather sized).lookup size).filter fun names => decide (1 < names.length) :=
    Assoc.lookup_filter (Assoc.nodup_keys_gather sized) _ size
  rw [kept, ← gathered]
  cases found : (Assoc.gather sized).lookup size with
  | none => rfl
  | some names => by_cases several : 1 < names.length <;> simp [Option.filter, several]

/-- A layout of known size collides with the others that have a declaration of this size. -/
theorem collidingStructs_eq (made : ofUnit u = .ok base)
    (found : u.structs.mapM StructDecl.fact = .ok structs) {name : String} {size : Int}
    (sized : base.sizeOf? name = some size) :
    base.collidingStructs name = (StructFact.namesOf size structs).filter (· != name) := by
  have itself : name ∈ StructFact.namesOf size structs := by
    have last := (sizeOf?_eq_some_iff made found).1 sized
    exact StructFact.mem_namesOf_iff.2 (List.mem_of_getLast? last)
  rcases ofUnit_eq_ok.1 made with ⟨handlers, structs', -, found', rfl⟩
  obtain rfl : structs' = structs := Except.ok.inj (found'.symm.trans found)
  rw [collidingStructs, ← sizeOf?, sized]
  dsimp only
  rw [lookup_groupsOf]
  split
  · rfl
  -- A group of one name holds the layout itself only, so it does not matter that it is left out.
  · rename_i single
    have one : (StructFact.namesOf size structs').length = 1 :=
      Nat.le_antisymm (Nat.le_of_not_lt single) (List.length_pos_of_mem itself)
    rcases List.length_eq_one_iff.1 one with ⟨only, is⟩
    obtain rfl : name = only := by simpa [is] using itself
    simp [is]

theorem collidingStructs_of_sizeOf? {name : String} (unsized : base.sizeOf? name = none) :
    base.collidingStructs name = [] := by
  rw [collidingStructs, ← sizeOf?, unsized]

theorem exists_structs (made : ofUnit u = .ok base) :
    ∃ structs, u.structs.mapM StructDecl.fact = .ok structs := by
  rcases ofUnit_eq_ok.1 made with ⟨-, structs, -, found, -⟩
  exact ⟨structs, found⟩

/-- No layout collides with itself. -/
theorem not_mem_collidingStructs_self (made : ofUnit u = .ok base) (name : String) :
    name ∉ base.collidingStructs name := by
  rcases exists_structs made with ⟨structs, found⟩
  cases sized : base.sizeOf? name with
  | none => simp [collidingStructs_of_sizeOf? sized]
  | some size => simp [collidingStructs_eq made found sized]

/-- A layout is named as often as it is declared with the size of the other one. -/
theorem count_collidingStructs (made : ofUnit u = .ok base) {m n : String} (ne : m ≠ n) {size : Int}
    (sized : base.sizeOf? n = some size) :
    (base.collidingStructs n).count m = (u.sizesOf m).count (.ok (some size)) := by
  rcases exists_structs made with ⟨structs, found⟩
  rw [collidingStructs_eq made found sized, List.count_filter (by simpa using ne),
    StructFact.count_namesOf, ProgramUnit.sizesOf_eq found,
    List.count_map_of_injective _ _ fun _ _ => Except.ok.inj]

theorem sizeOf?_iff (made : ofUnit u = .ok base) {name : String} {size : Int} :
    base.sizeOf? name = some size ↔ (u.sizesOf name).getLast? = some (.ok (some size)) := by
  rcases exists_structs made with ⟨structs, found⟩
  rw [sizeOf?_eq_some_iff made found, ProgramUnit.sizesOf_eq found, List.getLast?_map]
  simp

/-- A layout collides with the names that some declaration gives its size. -/
theorem mem_collidingStructs_iff (made : ofUnit u = .ok base) {m n : String} :
    m ∈ base.collidingStructs n ↔
      m ≠ n ∧ ∃ size, base.sizeOf? n = some size ∧ .ok (some size) ∈ u.sizesOf m := by
  by_cases same : m = n
  · subst same
    exact iff_of_false (not_mem_collidingStructs_self made m) fun other => other.1 rfl
  · rw [ne_eq, and_iff_right same]
    cases sized : base.sizeOf? n with
    | none => simp [collidingStructs_of_sizeOf? sized]
    | some size =>
      rw [← List.count_pos_iff, count_collidingStructs made same sized, List.count_pos_iff]
      simp

/-- Two layouts are related as their sizes are, and one is named once by the other, exactly if it sheds
no size that the other one has. -/
theorem not_sheds_iff (made : ofUnit u = .ok base) {m n : String} (ne : m ≠ n) {size : Int}
    (sized : base.sizeOf? n = some size) :
    ¬ u.Sheds m size ↔ (m ∈ base.collidingStructs n ↔ base.sizeOf? m = some size) ∧
      (base.collidingStructs n).count m ≤ 1 := by
  rw [ProgramUnit.Sheds, not_mem_dropLast_iff, sizeOf?_iff made, count_collidingStructs made ne sized,
    ← List.count_pos_iff, ← count_collidingStructs made ne sized, List.count_pos_iff]

/-- **Colliding layouts.** A layout collides with the other names that some declaration gives its size.
Colliding is the symmetric relation of different layouts of one known size, with no layout named twice,
exactly if no layout sheds a size that another one has. -/
theorem collides_faithfully_iff (made : ofUnit u = .ok base) :
    (∀ m n : String, m ∈ base.collidingStructs n ↔
      m ≠ n ∧ ∃ size, base.sizeOf? n = some size ∧ .ok (some size) ∈ u.sizesOf m) ∧
    (base.CollidesFaithfully ↔
      ∀ m n : String, m ≠ n → ∀ size, base.sizeOf? n = some size → ¬ u.Sheds m size) := by
  refine ⟨fun m n => mem_collidingStructs_iff made, ?_, ?_⟩
  · intro faithful m n ne size sized
    refine (not_sheds_iff made ne sized).2 ⟨?_, ?_⟩
    · rw [faithful.mem_iff m n ne, sized]
      simp
    · exact List.nodup_iff_count.1 (faithful.nodup n) m
  · intro keeps
    have related : ∀ m n : String, m ≠ n → (m ∈ base.collidingStructs n ↔
        ∃ size, base.sizeOf? m = some size ∧ base.sizeOf? n = some size) := by
      intro m n ne
      cases sized : base.sizeOf? n with
      | none => simp [collidingStructs_of_sizeOf? sized]
      | some size => simp [((not_sheds_iff made ne sized).1 (keeps m n ne size sized)).1]
    have apart := not_mem_collidingStructs_self made
    refine ⟨fun m n => ?_, related, apart, fun n => List.nodup_iff_count.2 fun m => ?_⟩
    · by_cases same : m = n
      · rw [same]
      · rw [related m n same, related n m (Ne.symm same)]
        simp only [and_comm]
    · by_cases same : m = n
      · rw [same, List.count_eq_zero.2 (apart n)]
        exact Nat.zero_le 1
      · cases sized : base.sizeOf? n with
        | none => simp [collidingStructs_of_sizeOf? sized]
        | some size => exact ((not_sheds_iff made same sized).1 (keeps m n same size sized)).2

/-! ### Layouts that are declared again -/

/-- A unit that declares layouts of given sizes. -/
def catalogue (sizes : List (String × Int)) : ProgramUnit :=
  { name := "catalogue", file := "catalogue.json", handlers := [], handlers_distinct := List.nodup_nil
    structs := sizes.map fun (name, size) => { name, size := some size } }

/-- The size that `User` sheds is that of no other layout, so nothing is wrong. -/
theorem collides_faithfully_iff_catalogue :
    ∃ base, ofUnit (catalogue [("User", 40), ("User", 24), ("Admin", 24)]) = .ok base ∧
      base.CollidesFaithfully ∧ "User" ∈ base.collidingStructs "Admin" := by
  have made : ∃ base, ofUnit (catalogue [("User", 40), ("User", 24), ("Admin", 24)]) = .ok base :=
    ⟨_, rfl⟩
  rcases made with ⟨base, made⟩
  have spec := collides_faithfully_iff made
  refine ⟨base, made, spec.2.2 ?_, (spec.1 _ _).2 ⟨by decide, 24, ?_, by decide⟩⟩
  · intro m n ne size sized shed
    rw [sizeOf?_iff made] at sized
    by_cases user : m = "User"
    -- The size that is shed is 40, and `Admin` has another one.
    · subst user
      obtain rfl : size = 40 := by
        simpa [ProgramUnit.Sheds, ProgramUnit.sizesOf, catalogue, StructDecl.serializedSize?]
          using shed
      by_cases admin : n = "Admin"
      · subst admin
        simp [ProgramUnit.sizesOf, catalogue, StructDecl.serializedSize?] at sized
      · simp [ProgramUnit.sizesOf, catalogue, ne, Ne.symm admin] at sized
    -- All other names are declared once at most.
    · by_cases admin : m = "Admin"
      · subst admin
        simp [ProgramUnit.Sheds, ProgramUnit.sizesOf, catalogue] at shed
      · simp [ProgramUnit.Sheds, ProgramUnit.sizesOf, catalogue, Ne.symm user, Ne.symm admin] at shed
  · exact (sizeOf?_iff made).2 rfl

/-- What a unit with such layouts says of the collisions of a layout. -/
def CollidesIn (sizes : List (String × Int)) (name : String) (others : List String) : Prop :=
  ∃ base, ofUnit (catalogue sizes) = .ok base ∧ base.collidingStructs name = others

/-- A size that was shed makes the relation one-sided, and a size that was declared twice names a
layout twice. -/
theorem catalogue_unfaithful :
    CollidesIn [("User", 8), ("User", 16), ("Admin", 8)] "Admin" ["User"] ∧
      CollidesIn [("User", 8), ("User", 16), ("Admin", 8)] "User" [] ∧
      CollidesIn [("User", 8), ("User", 8), ("Admin", 8)] "Admin" ["User", "User"] :=
  ⟨⟨_, rfl, by decide +kernel⟩, ⟨_, rfl, by decide +kernel⟩, ⟨_, rfl, by decide +kernel⟩⟩

end FactBase

end AccountAudit
