import AccountAudit.Fact.Resolve
import AccountAudit.Proofs.Related
import Mathlib.Logic.Equiv.Basic
import Mathlib.Data.List.Perm.Basic

/-!
# Positions in another order

Accounts are referred to by their positions. If a handler declares its accounts in another order, each
position has gone to another one: a permutation `σ` of the positions takes the old list to the new one
(`exists_moves`). Whatever is looked up by name is then found at the place to which it has moved, and
lists of positions are the old ones moved (`Moved`), up to their order.
-/

namespace AccountAudit

/-! ## Lists in another order -/

/-- The permutation behind a position that stays. -/
def shift (σ : Equiv.Perm Nat) : Equiv.Perm Nat where
  toFun
    | 0 => 0
    | i + 1 => σ i + 1
  invFun
    | 0 => 0
    | i + 1 => σ.symm i + 1
  left_inv := by rintro (- | i) <;> simp
  right_inv := by rintro (- | i) <;> simp

/-- A list in another order has its items at moved positions. -/
theorem exists_moves {α : Type} {as bs : List α} (h : as.Perm bs) :
    ∃ σ : Equiv.Perm Nat, ∀ i, bs[σ i]? = as[i]? := by
  induction h with
  | nil => exact ⟨.refl _, fun _ => rfl⟩
  | cons a _ ih =>
    rcases ih with ⟨σ, moves⟩
    refine ⟨shift σ, ?_⟩
    rintro (- | i)
    · rfl
    · exact moves i
  | swap a b rest =>
    -- Only the first two positions change.
    refine ⟨Equiv.swap 0 1, ?_⟩
    rintro (- | - | i)
    · rfl
    · rfl
    · rw [Equiv.swap_apply_of_ne_of_ne (by simp) (by simp)]
      rfl
  | trans _ _ ih ih' =>
    rcases ih with ⟨σ, moves⟩
    rcases ih' with ⟨τ, moves'⟩
    exact ⟨σ.trans τ, fun i => (moves' (σ i)).trans (moves i)⟩

/-! ## Positions that have moved -/

variable {σ : Equiv.Perm Nat} {refs refs' : List Nat}

/-- The positions of the second list are those of the first one, moved. -/
abbrev Moved (σ : Equiv.Perm Nat) : List Nat → List Nat → Prop :=
  Matched fun i j => j = σ i

namespace Moved

theorem mem_iff (h : Moved σ refs refs') (i : Nat) : σ i ∈ refs' ↔ i ∈ refs := by
  constructor
  · intro inside
    rcases h.left _ inside with ⟨j, inside', same⟩
    rwa [σ.injective same]
  · intro inside
    rcases h.right i inside with ⟨_, inside', rfl⟩
    exact inside'

theorem of_mem_iff (h : ∀ i, σ i ∈ refs' ↔ i ∈ refs) : Moved σ refs refs' := by
  refine ⟨fun i inside => ⟨σ i, (h i).2 inside, rfl⟩, fun j inside => ?_⟩
  rw [← σ.apply_symm_apply j] at inside
  exact ⟨σ.symm j, (h _).1 inside, (σ.apply_symm_apply j).symm⟩

theorem contains (h : Moved σ refs refs') (i : Nat) : refs'.contains (σ i) = refs.contains i := by
  rw [Bool.eq_iff_iff, List.contains_iff_mem, List.contains_iff_mem, h.mem_iff]

/-- Two lists of positions that meet still meet. -/
theorem any_contains {others others' : List Nat} (h : Moved σ refs refs')
    (h' : Moved σ others others') : refs'.any others'.contains = refs.any others.contains :=
  h.any_eq fun i _ same => same ▸ h'.contains i

end Moved

/-! ## Names -/

/-- The names of the second list are those of the first one, moved, and no name stands twice. -/
structure Moves (σ : Equiv.Perm Nat) (names names' : List String) : Prop where
  getElem? : ∀ i, names'[σ i]? = names[i]?
  distinct : names.Nodup
  distinct' : names'.Nodup

namespace Moves

variable {names names' : List String}

theorem symm (h : Moves σ names names') : Moves σ.symm names' names where
  getElem? i := by rw [← h.getElem?, σ.apply_symm_apply]
  distinct := h.distinct'
  distinct' := h.distinct

/-- A name is found where it has moved. -/
theorem idxOf? (h : Moves σ names names') (name : String) :
    names'.idxOf? name = (names.idxOf? name).map σ := by
  ext j
  rw [idxOf?_eq_some_iff h.distinct', Option.map_eq_some_iff]
  simp only [idxOf?_eq_some_iff h.distinct]
  constructor
  · intro here
    exact ⟨σ.symm j, by rw [← h.getElem?, σ.apply_symm_apply, here], σ.apply_symm_apply j⟩
  · rintro ⟨i, here, rfl⟩
    rw [h.getElem?, here]

/-- Words mention what they have mentioned before. -/
theorem mentioned (h : Moves σ names names') (words : List String) :
    Moved σ (mentioned names words) (AccountAudit.mentioned names' words) :=
  .of_mem_iff fun i => by rw [mem_mentioned, mem_mentioned, h.getElem?]

end Moves

end AccountAudit
