import AccountAudit.Finding.Basic

/-!
# Sorted findings

Sorting findings is determined by two facts: the result is in the order of the keys, and findings
with one key stand in it as they stood before (`Sorts`). From these everything else follows: the
result is a permutation, it is the only list with these properties (`Sorts.unique`), and sorting
commutes with leaving out all findings of some keys (`sort_filter`).
-/

namespace AccountAudit

/-! ## The order of keys -/

namespace FindingKey

theorem isLE_order_trans {a b c : FindingKey} (hab : (order a b).isLE = true)
    (hbc : (order b c).isLE = true) : (order a c).isLE = true := by
  unfold order at *
  exact Std.TransCmp.isLE_trans hab hbc

theorem isLE_order_total (a b : FindingKey) :
    (order a b).isLE = true ∨ (order b a).isLE = true := by
  have swapped : order a b = (order b a).swap := by
    unfold order
    exact Std.OrientedCmp.eq_swap
  cases h : order b a <;> simp [swapped, h]

/-- Two keys of which neither comes after the other are the same key. -/
theorem isLE_order_antisymm {a b : FindingKey} (hab : (order a b).isLE = true)
    (hba : (order b a).isLE = true) : a = b := by
  have same : order a b = .eq := by
    unfold order at *
    exact Std.OrientedCmp.isLE_antisymm hab hba
  rcases a with ⟨classId, file, start, stop⟩
  rcases b with ⟨classId', file', start', stop'⟩
  -- The order compares all fields of a key, so equal in the order is equal.
  simp only [order, compareLex_eq_eq, compareOn, Std.LawfulEqCmp.compare_eq_iff_eq] at same
  rcases same with ⟨rfl, rfl, rfl, rfl⟩
  rfl

end FindingKey

namespace Finding

theorem precedes_trans (f g h : Finding) (hfg : f.precedes g = true) (hgh : g.precedes h = true) :
    f.precedes h = true :=
  FindingKey.isLE_order_trans hfg hgh

theorem precedes_total (f g : Finding) : (f.precedes g || g.precedes f) = true := by
  simpa [precedes] using FindingKey.isLE_order_total f.key g.key

theorem precedes_of_key_eq {f g : Finding} (same : f.key = g.key) : f.precedes g = true := by
  have total := FindingKey.isLE_order_total f.key f.key
  rw [precedes, ← same]
  simpa using total

/-! ## What a sorted list is -/

/-- The findings with a key. -/
def atKey (key : FindingKey) (findings : List Finding) : List Finding :=
  findings.filter fun f => decide (f.key = key)

/-- The second list has the findings of the first one in the order of their keys; those with one key
keep their order. -/
structure Sorts (findings sorted : List Finding) : Prop where
  ordered : sorted.Pairwise fun f g => f.precedes g = true
  stable : ∀ key, atKey key sorted = atKey key findings

theorem sort_perm (findings : List Finding) : (sort findings).Perm findings :=
  List.mergeSort_perm findings precedes

/-- Findings with one key keep their order: as they are in order already, they stand in the sorted
list one after the other, and no others with that key do. -/
theorem atKey_sort (key : FindingKey) (findings : List Finding) :
    atKey key (sort findings) = atKey key findings := by
  -- Any two of them have the same key, and then each precedes the other.
  have ordered : (atKey key findings).Pairwise fun f g => f.precedes g = true := by
    refine List.Pairwise.imp_of_mem ?_ (List.pairwise_of_forall (R := fun _ _ => True) (by simp))
    intro f g hf hg _
    have hf : f.key = key := by simpa using (List.mem_filter.1 hf).2
    have hg : g.key = key := by simpa using (List.mem_filter.1 hg).2
    exact precedes_of_key_eq (hf.trans hg.symm)
  -- A stable sort keeps ordered sublists.
  have inside : (atKey key findings).Sublist (sort findings) :=
    List.sublist_mergeSort precedes_trans precedes_total ordered List.filter_sublist
  have kept : (atKey key findings).Sublist (atKey key (sort findings)) := by
    have again : atKey key (atKey key findings) = atKey key findings := by
      simp [atKey]
    rw [← again]
    exact inside.filter _
  -- A sublist of the same length is the whole list.
  have length : (atKey key findings).length = (atKey key (sort findings)).length :=
    ((sort_perm findings).filter _).length_eq.symm
  exact (kept.eq_of_length length).symm

theorem sorts_sort (findings : List Finding) : Sorts findings (sort findings) where
  ordered := List.pairwise_mergeSort precedes_trans precedes_total findings
  stable := fun key => atKey_sort key findings

/-! ## Uniqueness -/

theorem mem_atKey_self {f : Finding} {findings : List Finding} :
    f ∈ atKey f.key findings ↔ f ∈ findings := by
  simp [atKey]

/-- Of two ordered lists with the same findings at every key, the first ones are the same: each of
them comes before the other one, so they have one key. -/
theorem head_eq_of_ordered {f g : Finding} {fs gs : List Finding}
    (hf : (f :: fs).Pairwise fun f g => f.precedes g = true)
    (hg : (g :: gs).Pairwise fun f g => f.precedes g = true)
    (same : ∀ key, atKey key (f :: fs) = atKey key (g :: gs)) : f = g := by
  have first : ∀ {a b : Finding} {as : List Finding},
      (a :: as).Pairwise (fun f g => f.precedes g = true) → b ∈ a :: as → a.precedes b = true := by
    intro a b as ordered member
    rcases List.mem_cons.1 member with rfl | later
    · exact precedes_of_key_eq rfl
    · exact List.rel_of_pairwise_cons ordered later
  -- Both lists have the same members, since every finding is at its own key.
  have hfg : f ∈ g :: gs := mem_atKey_self.1 (same f.key ▸ mem_atKey_self.2 List.mem_cons_self)
  have hgf : g ∈ f :: fs := mem_atKey_self.1 (same g.key ▸ mem_atKey_self.2 List.mem_cons_self)
  have key : f.key = g.key := FindingKey.isLE_order_antisymm (first hf hgf) (first hg hfg)
  -- At this common key, `f` comes first in one list and `g` in the other.
  have heads := same f.key
  rw [atKey, atKey, List.filter_cons_of_pos (by simp), List.filter_cons_of_pos (by simp [key])]
    at heads
  exact (List.cons.inj heads).1

theorem eq_of_ordered {fs gs : List Finding} (hf : fs.Pairwise fun f g => f.precedes g = true)
    (hg : gs.Pairwise fun f g => f.precedes g = true)
    (same : ∀ key, atKey key fs = atKey key gs) : fs = gs := by
  induction fs generalizing gs with
  | nil =>
    cases gs with
    | nil => rfl
    | cons g gs =>
      have none := same g.key
      simp [atKey] at none
  -- The first findings are the same; without them the lists still agree at every key.
  | cons f fs ih =>
    cases gs with
    | nil =>
      have none := same f.key
      simp [atKey] at none
    | cons g gs =>
      obtain rfl := head_eq_of_ordered hf hg same
      have rest : ∀ key, atKey key fs = atKey key gs := by
        intro key
        have both := same key
        by_cases here : f.key = key
        · rw [atKey, atKey, List.filter_cons_of_pos (by simp [here]),
            List.filter_cons_of_pos (by simp [here])] at both
          exact (List.cons.inj both).2
        · rwa [atKey, atKey, List.filter_cons_of_neg (by simp [here]),
            List.filter_cons_of_neg (by simp [here])] at both
      rw [ih hf.of_cons hg.of_cons rest]

theorem Sorts.unique {findings sorted sorted' : List Finding} (h : Sorts findings sorted)
    (h' : Sorts findings sorted') : sorted = sorted' :=
  eq_of_ordered h.ordered h'.ordered fun key => (h.stable key).trans (h'.stable key).symm

theorem Sorts.eq_sort {findings sorted : List Finding} (h : Sorts findings sorted) :
    sorted = sort findings :=
  h.unique (sorts_sort findings)

/-! ## Leaving out keys -/

/-- Sorting commutes with any choice of findings. -/
theorem sort_filter (p : Finding → Bool) (findings : List Finding) :
    sort (findings.filter p) = (sort findings).filter p := by
  -- It is enough that the filtered list is sorted from the filtered findings.
  have sorts : Sorts (findings.filter p) ((sort findings).filter p) := by
    refine ⟨(sorts_sort findings).ordered.filter p, fun key => ?_⟩
    have swap : ∀ fs : List Finding, atKey key (fs.filter p) = (atKey key fs).filter p := by
      intro fs
      simp only [atKey, List.filter_filter, Bool.and_comm]
    rw [swap, swap, atKey_sort]
  exact sorts.eq_sort.symm

end Finding
end AccountAudit
