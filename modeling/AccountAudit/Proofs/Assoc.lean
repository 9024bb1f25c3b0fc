import AccountAudit.Assoc
import Mathlib.Data.List.Forall2

/-!
# Facts about association lists

What a look-up finds stands in the table, and an entry of another key does not change it. Gathering
values by key treats related values alike (`forall₂_gather`): it looks at keys only, and at each key by
itself (`without_gather`). The list of a key that was gathered holds all values of the key in their
order (`mem_gather`), while a table of single values holds the last one (`lookup_ofPairs`). The lists
stand in the order of their first values (`firsts_gather_sublist`).
-/

namespace AccountAudit
namespace Assoc

variable {κ α β : Type}

/-! ## Look-up -/

section Lookup

variable [BEq κ] [LawfulBEq κ]

theorem mem_of_lookup {table : List (κ × α)} {key : κ} {a : α} (h : table.lookup key = some a) :
    (key, a) ∈ table := by
  rcases List.lookup_eq_some_iff.1 h with ⟨front, back, rfl, -⟩
  simp

theorem lookup_insert {key other : κ} {a : α} {front back : List (κ × α)} (h : other ≠ key) :
    (front ++ (key, a) :: back).lookup other = (front ++ back).lookup other := by
  induction front with
  | nil => simp [List.lookup_cons, beq_eq_false_iff_ne.2 h]
  | cons entry front ih =>
    rcases entry with ⟨k, b⟩
    simp [List.lookup_cons, ih]

/-- The table without the entries of a key. -/
def without (key : κ) (table : List (κ × α)) : List (κ × α) :=
  table.filter (·.1 != key)

theorem mem_without {key : κ} {entry : κ × α} {table : List (κ × α)} :
    entry ∈ without key table ↔ entry ∈ table ∧ entry.1 ≠ key := by
  simp [without]

theorem without_cons_self (key : κ) (a : α) (table : List (κ × α)) :
    without key ((key, a) :: table) = without key table := by
  simp [without]

theorem without_cons {key other : κ} (ne : other ≠ key) (a : α) (table : List (κ × α)) :
    without key ((other, a) :: table) = (other, a) :: without key table := by
  simp [without, ne]

theorem lookup_without_self (key : κ) (table : List (κ × α)) :
    (without key table).lookup key = none := by
  rw [List.lookup_eq_none_iff]
  intro entry inside
  simpa using (mem_without.1 inside).2.symm

theorem lookup_without {key other : κ} (ne : other ≠ key) (table : List (κ × α)) :
    (without key table).lookup other = table.lookup other := by
  induction table with
  | nil => rfl
  | cons entry rest ih =>
    rcases entry with ⟨k, a⟩
    by_cases same : k = key
    -- The entry that is left out is not the one that is looked up.
    · subst same
      rw [without_cons_self, ih, List.lookup_cons, beq_eq_false_iff_ne.2 ne]
    · rw [without_cons same, List.lookup_cons, List.lookup_cons, ih]

end Lookup

/-- A table made entry by entry, with the same keys or fewer, has no key twice either. -/
theorem nodup_keys_filterMap {table : List (κ × α)} {f : κ × α → Option (κ × β)}
    (keeps : ∀ entry made, f entry = some made → made.1 = entry.1)
    (distinct : (table.map Prod.fst).Nodup) : ((table.filterMap f).map Prod.fst).Nodup := by
  rw [List.Nodup, List.pairwise_map] at distinct ⊢
  refine distinct.filterMap f fun entry entry' different made found made' found' => ?_
  rw [keeps entry made found, keeps entry' made' found']
  exact different

/-! ## Gathering -/

section Gather

variable [DecidableEq κ]

/-- Tables with the same keys in the same order and related values. -/
abbrev Alike (r : α → β → Prop) : List (κ × α) → List (κ × β) → Prop :=
  List.Forall₂ fun a b => a.1 = b.1 ∧ r a.2 b.2

theorem rel_lookup {r : α → β → Prop} {table : List (κ × α)} {table' : List (κ × β)}
    (h : Alike r table table') (key : κ) :
    Option.Rel r (table.lookup key) (table'.lookup key) := by
  induction h with
  | nil => exact .none
  | @cons entry entry' rest rest' head _ ih =>
    rcases entry with ⟨k, a⟩
    rcases entry' with ⟨k', b⟩
    obtain ⟨rfl, related⟩ : k = k' ∧ r a b := head
    rw [List.lookup_cons, List.lookup_cons]
    split
    · exact .some related
    · exact ih

theorem alike_push {r : α → β → Prop} {table : List (κ × List α)} {table' : List (κ × List β)}
    (h : Alike (List.Forall₂ r) table table') (key : κ) {a : α} {b : β} (related : r a b) :
    Alike (List.Forall₂ r) (push key a table) (push key b table') := by
  unfold push
  induction h with
  | nil => exact .cons ⟨rfl, by simpa using related⟩ .nil
  | @cons entry entry' rest rest' head tail ih =>
    rcases entry with ⟨k, as⟩
    rcases entry' with ⟨k', bs⟩
    rcases head with ⟨rfl, values⟩
    -- The keys agree, so the value is pushed at the same place of both tables.
    by_cases same : k = key
    · have longer : List.Forall₂ r (as ++ [a]) (bs ++ [b]) :=
        List.rel_append values (.cons related .nil)
      simpa [adjust, same] using And.intro longer tail
    · simpa [adjust, same] using And.intro values ih

/-- Related values are gathered alike. -/
theorem forall₂_gather {r : α → β → Prop} {pairs : List (κ × α)} {pairs' : List (κ × β)}
    (h : Alike r pairs pairs') : Alike (List.Forall₂ r) (gather pairs) (gather pairs') := by
  -- The tables grow together, so the induction is for any two that are alike.
  have fold : ∀ {table : List (κ × List α)} {table' : List (κ × List β)},
      Alike (List.Forall₂ r) table table' →
      Alike (List.Forall₂ r) (pairs.foldl (fun table pair => push pair.1 pair.2 table) table)
        (pairs'.foldl (fun table pair => push pair.1 pair.2 table) table') := by
    induction h with
    | nil => exact fun alike => alike
    | @cons entry entry' rest rest' head _ ih =>
      rcases entry with ⟨key, a⟩
      rcases entry' with ⟨key', b⟩
      rcases head with ⟨rfl, related⟩
      exact fun alike => ih (alike_push alike key related)
  exact fold .nil

/-! ### Keys that are renamed -/

section Rename

variable {ρ : κ → κ}

theorem adjust_map (injective : Function.Injective ρ) (key : κ) (f : Option α → α)
    (table : List (κ × α)) :
    adjust (ρ key) f (table.map (Prod.map ρ id)) = (adjust key f table).map (Prod.map ρ id) := by
  induction table with
  | nil => rfl
  | cons entry rest ih =>
    rcases entry with ⟨k, a⟩
    by_cases same : k = key
    · simp [adjust, same]
    · simp [adjust, same, injective.ne same, ih]

/-- Renamed keys are gathered like the keys themselves. -/
theorem gather_map (injective : Function.Injective ρ) (pairs : List (κ × α)) :
    gather (pairs.map (Prod.map ρ id)) = (gather pairs).map (Prod.map ρ id) := by
  have fold : ∀ table : List (κ × List α),
      (pairs.map (Prod.map ρ id)).foldl (fun table pair => push pair.1 pair.2 table)
          (table.map (Prod.map ρ id)) =
        (pairs.foldl (fun table pair => push pair.1 pair.2 table) table).map (Prod.map ρ id) := by
    induction pairs with
    | nil => exact fun _ => rfl
    | cons pair rest ih =>
      intro table
      rw [List.map_cons, List.foldl_cons, List.foldl_cons, ← ih, push, push, ← adjust_map injective]
      rfl
  exact fold []

end Rename

/-! ### What is gathered -/

/-- The values that pairs give to a key, in their order. -/
def valuesOf (key : κ) (pairs : List (κ × α)) : List α :=
  (pairs.filter (·.1 = key)).map Prod.snd

theorem valuesOf_cons (key : κ) (pair : κ × α) (pairs : List (κ × α)) :
    valuesOf key (pair :: pairs) =
      if pair.1 = key then pair.2 :: valuesOf key pairs else valuesOf key pairs := by
  rw [valuesOf, List.filter_cons]
  by_cases same : pair.1 = key <;> simp [same, valuesOf]

theorem lookup_cons_eq (key k : κ) (a : α) (table : List (κ × α)) :
    ((k, a) :: table).lookup key = if key = k then some a else table.lookup key := by
  rw [List.lookup_cons]
  by_cases same : key = k
  · simp [same]
  · simp [same, beq_eq_false_iff_ne.2 same]

theorem lookup_adjust (key other : κ) (f : Option α → α) (table : List (κ × α)) :
    (adjust key f table).lookup other =
      if other = key then some (f (table.lookup key)) else table.lookup other := by
  induction table with
  | nil => rw [adjust, lookup_cons_eq, List.lookup_nil, List.lookup_nil]
  | cons entry rest ih =>
    rcases entry with ⟨k, a⟩
    by_cases here : k = key
    · by_cases same : other = key <;> simp [adjust, lookup_cons_eq, here, same]
    · by_cases same : other = k
      · simp [adjust, here, same]
      · simp [adjust, lookup_cons_eq, here, Ne.symm here, same, ih]

theorem lookup_put (key other : κ) (a : α) (table : List (κ × α)) :
    (put key a table).lookup other = if other = key then some a else table.lookup other :=
  lookup_adjust key other _ table

theorem mem_keys_adjust {key other : κ} {f : Option α → α} {table : List (κ × α)} :
    other ∈ (adjust key f table).map Prod.fst ↔ other = key ∨ other ∈ table.map Prod.fst := by
  induction table with
  | nil => simp [adjust]
  | cons entry rest ih =>
    rcases entry with ⟨k, a⟩
    by_cases here : k = key
    · simp [adjust, here]
    · simp only [adjust, here, if_false, List.map_cons, List.mem_cons, ih]
      tauto

theorem nodup_keys_adjust {key : κ} {f : Option α → α} {table : List (κ × α)}
    (distinct : (table.map Prod.fst).Nodup) : ((adjust key f table).map Prod.fst).Nodup := by
  induction table with
  | nil => simp [adjust]
  | cons entry rest ih =>
    rcases entry with ⟨k, a⟩
    rw [List.map_cons, List.nodup_cons] at distinct
    by_cases here : k = key
    · simpa [adjust, here] using distinct
    · rw [adjust, if_neg here, List.map_cons, List.nodup_cons, mem_keys_adjust]
      exact ⟨not_or.2 ⟨here, distinct.1⟩, ih distinct.2⟩

/-- Values that are gathered into a table go behind those that it has. -/
theorem lookup_foldl_push (key : κ) (pairs : List (κ × α)) (table : List (κ × List α)) :
    ((pairs.foldl (fun table pair => push pair.1 pair.2 table) table).lookup key).getD [] =
      (table.lookup key).getD [] ++ valuesOf key pairs := by
  induction pairs generalizing table with
  | nil => simp [valuesOf]
  | cons pair rest ih =>
    rw [List.foldl_cons, ih, push, lookup_adjust, valuesOf_cons]
    by_cases same : pair.1 = key
    · simp [same]
    · simp [same, Ne.symm same]

/-- What a table had before is found only if nothing is put in under the key. -/
theorem lookup_foldl_put (key : κ) (pairs table : List (κ × α)) :
    (pairs.foldl (fun table pair => put pair.1 pair.2 table) table).lookup key =
      (valuesOf key pairs).getLast?.or (table.lookup key) := by
  induction pairs generalizing table with
  | nil => simp [valuesOf]
  | cons pair rest ih =>
    rw [List.foldl_cons, ih, lookup_put, valuesOf_cons]
    by_cases same : pair.1 = key
    · cases found : (valuesOf key rest).getLast? with
      | none => simp [same, List.getLast?_cons, found]
      | some a => simp [same, List.getLast?_cons, found]
    · simp [same, Ne.symm same]

/-- Of several values that are put in under one key, the last one stays. -/
theorem lookup_ofPairs (key : κ) (pairs : List (κ × α)) :
    (ofPairs pairs).lookup key = (valuesOf key pairs).getLast? := by
  simpa [ofPairs] using lookup_foldl_put key pairs []

theorem nodup_keys_gather (pairs : List (κ × α)) : ((gather pairs).map Prod.fst).Nodup := by
  have fold : ∀ table : List (κ × List α), (table.map Prod.fst).Nodup →
      ((pairs.foldl (fun table pair => push pair.1 pair.2 table) table).map Prod.fst).Nodup := by
    induction pairs with
    | nil => exact fun _ distinct => distinct
    | cons pair rest ih => exact fun _ distinct => ih _ (nodup_keys_adjust distinct)
  exact fold [] List.nodup_nil

theorem keys_adjust (key : κ) (f : Option α → α) (table : List (κ × α)) :
    (adjust key f table).map Prod.fst =
      if key ∈ table.map Prod.fst then table.map Prod.fst else table.map Prod.fst ++ [key] := by
  induction table with
  | nil => simp [adjust]
  | cons entry rest ih =>
    rcases entry with ⟨k, a⟩
    by_cases here : k = key
    · simp [adjust, here]
    · simp only [adjust, here, if_false, List.map_cons, ih, List.mem_cons, Ne.symm here, false_or]
      split <;> rfl

/-- The keys that are gathered stand in the order of the pairs. -/
theorem keys_gather_sublist (pairs : List (κ × α)) :
    ((gather pairs).map Prod.fst).Sublist (pairs.map Prod.fst) := by
  have fold : ∀ table : List (κ × List α),
      ((pairs.foldl (fun table pair => push pair.1 pair.2 table) table).map Prod.fst).Sublist
        (table.map Prod.fst ++ pairs.map Prod.fst) := by
    induction pairs with
    | nil => intro table; simp
    | cons pair rest ih =>
      intro table
      refine (ih (push pair.1 pair.2 table)).trans ?_
      rw [push, keys_adjust]
      -- A key that the table has stays where it is, and a new one goes in front of the rest.
      split
      · exact (List.sublist_cons_self _ _).append_left _
      · simp
  exact fold []

/-- Keys are gathered independently of each other. -/
theorem without_gather [BEq κ] [LawfulBEq κ] (key : κ) (pairs : List (κ × α)) :
    without key (gather pairs) = gather (without key pairs) := by
  have pushed : ∀ (k : κ) (a : α) (table : List (κ × List α)), k ≠ key →
      without key (push k a table) = push k a (without key table) := by
    intro k a table ne
    unfold push
    induction table with
    | nil => exact without_cons ne _ _
    | cons entry rest ih =>
      rcases entry with ⟨k', as⟩
      by_cases here : k' = k
      · subst here
        rw [adjust, if_pos rfl, without_cons ne, without_cons ne, adjust, if_pos rfl]
      · rw [adjust, if_neg here]
        by_cases dropped : k' = key
        · subst dropped
          rw [without_cons_self, without_cons_self, ih]
        · rw [without_cons dropped, without_cons dropped, adjust, if_neg here, ih]
  have hidden : ∀ (a : α) (table : List (κ × List α)),
      without key (push key a table) = without key table := by
    intro a table
    unfold push
    induction table with
    | nil => exact without_cons_self key _ _
    | cons entry rest ih =>
      rcases entry with ⟨k, as⟩
      by_cases here : k = key
      · subst here
        rw [adjust, if_pos rfl, without_cons_self, without_cons_self]
      · rw [adjust, if_neg here, without_cons here, without_cons here, ih]
  -- The tables grow together, apart from the key.
  have fold : ∀ table : List (κ × List α),
      without key (pairs.foldl (fun table pair => push pair.1 pair.2 table) table) =
        (without key pairs).foldl (fun table pair => push pair.1 pair.2 table) (without key table) := by
    induction pairs with
    | nil => exact fun _ => rfl
    | cons pair rest ih =>
      intro table
      rcases pair with ⟨k, a⟩
      rw [List.foldl_cons, ih]
      by_cases same : k = key
      · subst same
        rw [without_cons_self, hidden]
      · rw [without_cons same, List.foldl_cons, pushed k a table same]
  exact fold []

/-- The first key of a table takes all of its values, and what is left goes to the other keys. -/
theorem foldl_push_cons [BEq κ] [LawfulBEq κ] (key : κ) (as : List α) (pairs : List (κ × α))
    (table : List (κ × List α)) :
    pairs.foldl (fun table pair => push pair.1 pair.2 table) ((key, as) :: table) =
      (key, as ++ valuesOf key pairs) ::
        (without key pairs).foldl (fun table pair => push pair.1 pair.2 table) table := by
  induction pairs generalizing as table with
  | nil => simp [valuesOf, without]
  | cons pair rest ih =>
    rcases pair with ⟨k, a⟩
    rw [List.foldl_cons, valuesOf_cons]
    by_cases here : k = key
    · subst here
      rw [push, adjust, if_pos rfl, ih, if_pos rfl, without_cons_self]
      simp
    · rw [push, adjust, if_neg (Ne.symm here), ih, if_neg here, without_cons here, List.foldl_cons]
      rfl

theorem gather_cons [BEq κ] [LawfulBEq κ] (key : κ) (a : α) (pairs : List (κ × α)) :
    gather ((key, a) :: pairs) = (key, a :: valuesOf key pairs) :: gather (without key pairs) :=
  foldl_push_cons key [a] pairs []

/-- The first values that are gathered stand in the order of the pairs. -/
theorem firsts_gather_sublist (pairs : List (κ × α)) :
    ((gather pairs).filterMap fun entry => entry.2.head?).Sublist (pairs.map Prod.snd) := by
  -- By induction on the length: behind the first pair, the pairs of the other keys are left.
  induction length : pairs.length using Nat.strongRecOn generalizing pairs with
  | _ n ih =>
    cases pairs with
    | nil => exact .slnil
    | cons pair rest =>
      rcases pair with ⟨key, a⟩
      have others : (without key rest).Sublist rest := List.filter_sublist
      have shorter : (without key rest).length < n := by
        have le := others.length_le
        rw [List.length_cons] at length
        omega
      rw [gather_cons, List.filterMap_cons, List.map_cons]
      exact ((ih _ shorter _ rfl).trans (others.map _)).cons_cons a

theorem lookup_of_mem {table : List (κ × α)} {key : κ} {a : α}
    (distinct : (table.map Prod.fst).Nodup) (member : (key, a) ∈ table) :
    table.lookup key = some a := by
  rcases List.append_of_mem member with ⟨front, back, rfl⟩
  refine List.lookup_eq_some_iff.2 ⟨front, back, rfl, fun entry earlier => ?_⟩
  rw [List.map_append, List.nodup_append] at distinct
  have other := distinct.2.2 entry.1 (List.mem_map_of_mem earlier) key List.mem_cons_self
  simpa using other.symm

/-- Of a table without repeated keys, a look-up in a part finds what the whole table has. -/
theorem lookup_filter {table : List (κ × α)}
    (distinct : (table.map Prod.fst).Nodup) (p : κ × α → Bool) (key : κ) :
    (table.filter p).lookup key = (table.lookup key).filter fun a => p (key, a) := by
  induction table with
  | nil => rfl
  | cons entry rest ih =>
    rcases entry with ⟨k, a⟩
    rw [List.map_cons, List.nodup_cons] at distinct
    rw [lookup_cons_eq, List.filter_cons]
    by_cases here : key = k
    · subst here
      have absent : rest.lookup key = none :=
        List.lookup_eq_none_iff.2 fun entry inside => by
          have other : key ≠ entry.1 := fun same =>
            distinct.1 (List.mem_map.2 ⟨entry, inside, same.symm⟩)
          simpa using other
      cases keeps : p (key, a) <;> simp [ih distinct.2, absent, keeps, Option.filter]
    · cases p (k, a) <;> simp [here, ih distinct.2, lookup_cons_eq]

/-- The lists that are gathered are those of all values of a key. -/
theorem mem_gather {pairs : List (κ × α)} {key : κ} {values : List α} (nonempty : values ≠ []) :
    (key, values) ∈ gather pairs ↔ values = valuesOf key pairs := by
  have found : ((gather pairs).lookup key).getD [] = valuesOf key pairs :=
    lookup_foldl_push key pairs []
  constructor
  · intro member
    rw [← found, lookup_of_mem (nodup_keys_gather pairs) member]
    rfl
  · rintro rfl
    refine mem_of_lookup ?_
    rw [← found] at nonempty ⊢
    cases here : (gather pairs).lookup key with
    | none => simp [here] at nonempty
    | some values => rfl

/-- The first value that is gathered for a key is one of its values. -/
theorem mem_of_first_gathered {pairs : List (κ × α)} {key : κ} {a : α}
    (member : (key, a) ∈ (gather pairs).filterMap fun (key, values) =>
      values.head?.map fun value => (key, value)) : (key, a) ∈ pairs := by
  rcases List.mem_filterMap.1 member with ⟨⟨other, values⟩, gathered, taken⟩
  rcases Option.map_eq_some_iff.1 taken with ⟨first, head, same⟩
  obtain ⟨rfl, rfl⟩ := Prod.ext_iff.1 same
  have inside := List.mem_of_head? head
  rw [(mem_gather (List.ne_nil_of_mem inside)).1 gathered] at inside
  rcases List.mem_map.1 inside with ⟨pair, chosen, rfl⟩
  have ofKey : pair.1 = other := by simpa using (List.mem_filter.1 chosen).2
  exact ofKey ▸ (List.mem_filter.1 chosen).1

end Gather

end Assoc
end AccountAudit
