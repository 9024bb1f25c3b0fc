import AccountAudit.Proofs.Value.Distinct
import AccountAudit.Settings.Layer

/-!
# What is found in layers that are laid over each other

At each key, layers are laid over each other by themselves: what is found there is what the layers
have at the key, laid over each other (`lookup_flatten`). For all but tables this is what the
strongest of them has. A table is laid over those that come right behind it, again key by key
(`lookup_of_laid`), so that a weaker table is seen at each key that the stronger ones do not have.
-/

namespace AccountAudit
namespace Settings

/-- Values laid over each other, the strongest one first. -/
def laid : List Value → Option Value
  | [] => none
  | v :: weaker => some (overlay (laid weaker) v)

/-- The tables at the front of some values. -/
def leadingTables : List Value → List (List (Scalar × Value))
  | .table entries :: rest => entries :: leadingTables rest
  | _ => []

variable {v w : Value} {values : List Value} {key : Scalar} {base top : List (Scalar × Value)}

/-! ## A value over another one -/

theorem overlay_none (v : Value) : overlay none v = v := by
  cases v <;> simp [overlay]

theorem overlay_eq_self {old : Option Value} (plain : ∀ entries, v ≠ .table entries) :
    overlay old v = v := by
  cases v with
  | scalar s => simp [overlay]
  | list items => simp [overlay]
  | table entries => exact absurd rfl (plain entries)

/-- Whatever a table is laid over, the outcome is a table. -/
theorem exists_overlay_table (old : Option Value) (top : List (Scalar × Value)) :
    ∃ entries, overlay old (.table top) = .table entries := by
  unfold overlay
  split <;> exact ⟨_, rfl⟩

theorem overlay_table_of_not_table {old : Option Value} (top : List (Scalar × Value))
    (plain : ∀ entries, old ≠ some (.table entries)) : overlay old (.table top) = .table top := by
  unfold overlay
  split
  · rename_i entries
    exact absurd rfl (plain entries)
  · rfl

/-- A key of the upper table has its value laid over the one of the lower table. -/
theorem lookup_overlayEntries (distinct : (top.map Prod.fst).Nodup) :
    (overlayEntries base top).lookup key =
      ((top.lookup key).map (overlay (base.lookup key))).or (base.lookup key) := by
  induction top generalizing base with
  | nil => simp [overlayEntries]
  | cons entry rest ih =>
    rcases entry with ⟨k, v⟩
    rw [List.map_cons, List.nodup_cons] at distinct
    rw [overlayEntries, ih distinct.2, Assoc.lookup_adjust, Assoc.lookup_cons_eq]
    by_cases here : key = k
    -- The key does not come again.
    · subst here
      have absent : rest.lookup key = none := by
        rw [List.lookup_eq_none_iff]
        intro entry inside
        have other : entry.1 ≠ key := fun same => distinct.1 (List.mem_map.2 ⟨entry, inside, same⟩)
        simpa using other.symm
      simp [absent]
    · simp [here]

/-! ## Several layers -/

theorem lookup_flatten {layers : List Layer}
    (distinct : ∀ layer ∈ layers, (layer.map Prod.fst).Nodup) :
    (flatten layers).lookup key = laid (layers.filterMap (·.lookup key)) := by
  induction layers with
  | nil => rfl
  | cons layer weaker ih =>
    rw [List.forall_mem_cons] at distinct
    rw [flatten, lookup_overlayEntries distinct.1, ih distinct.2]
    cases found : layer.lookup key with
    | none => simp [found]
    | some v => simp [found, laid]

/-- The strongest value is what is found, unless it is a table. -/
theorem laid_cons_of_not_table (plain : ∀ entries, v ≠ .table entries) :
    laid (v :: values) = some v := by
  rw [laid, overlay_eq_self plain]

/-- Tables are laid over each other key by key, as far as one follows the other. -/
theorem lookup_of_laid (distinct : ∀ v ∈ values, v.Distinct) {entries : List (Scalar × Value)}
    (found : laid values = some (.table entries)) (key : Scalar) :
    entries.lookup key = laid ((leadingTables values).filterMap (·.lookup key)) := by
  induction values generalizing entries with
  | nil => cases found
  | cons v weaker ih =>
    rw [List.forall_mem_cons] at distinct
    rw [laid, Option.some.injEq] at found
    cases v with
    | scalar s => simp [overlay] at found
    | list items => simp [overlay] at found
    | table top =>
      rw [leadingTables]
      by_cases below : ∃ base, laid weaker = some (.table base)
      · rcases below with ⟨base, below⟩
        rw [below, overlay, Value.table.injEq] at found
        rw [← found, lookup_overlayEntries distinct.1.keys, ih distinct.2 below]
        cases here : top.lookup key with
        | none => simp [here]
        | some w => simp [here, laid]
      -- What is below is no table, so nothing of it is seen.
      · have plain : ∀ base, laid weaker ≠ some (.table base) := not_exists.1 below
        rw [overlay_table_of_not_table top plain, Value.table.injEq] at found
        have last : leadingTables weaker = [] := by
          cases weaker with
          | nil => rfl
          | cons w rest =>
            cases w with
            | scalar s => rfl
            | list items => rfl
            | table entries =>
              rcases exists_overlay_table (laid rest) entries with ⟨joined, same⟩
              exact absurd (congrArg some same) (plain joined)
        rw [last, ← found]
        cases here : top.lookup key with
        | none => simp [here, laid]
        | some w => simp [here, laid, overlay_none]

end Settings
end AccountAudit
