import AccountAudit.Text.Basic
import Mathlib.Data.List.Basic
import Mathlib.Data.String.Basic
import Mathlib.Order.Basic

/-!
# Sets of strings

A list in strictly ascending order is known by its members, and so is the list of the strings of
another one in ascending order (`distinctSorted_congr`). It is longer than one if two strings of the
other list differ (`two_le_length_distinctSorted_iff`).
-/

namespace AccountAudit
namespace Text

theorem pairwise_insertDistinct (s : String) {ss : List String} (sorted : ss.Pairwise (· < ·)) :
    (insertDistinct s ss).Pairwise (· < ·) := by
  induction sorted with
  | nil => simp [insertDistinct]
  | @cons t rest above sorted ih =>
    rw [insertDistinct]
    split
    · rename_i less
      refine .cons (fun u inside => ?_) (.cons above sorted)
      rcases List.mem_cons.1 inside with rfl | inside
      · exact less
      · exact less.trans (above u inside)
    · split
      · exact .cons above sorted
      · rename_i notLess different
        refine .cons (fun u inside => ?_) ih
        rcases mem_insertDistinct.1 inside with rfl | inside
        · exact lt_of_le_of_ne (not_lt.1 notLess) (Ne.symm different)
        · exact above u inside

theorem pairwise_distinctSorted (ss : List String) : (distinctSorted ss).Pairwise (· < ·) := by
  induction ss with
  | nil => exact .nil
  | cons s rest ih => exact pairwise_insertDistinct s ih

/-- The result depends on the members only, neither on their order nor on repetitions. -/
theorem distinctSorted_congr {ss ts : List String} (same : ∀ s, s ∈ ts ↔ s ∈ ss) :
    distinctSorted ts = distinctSorted ss := by
  have perm : (distinctSorted ts).Perm (distinctSorted ss) := by
    rw [List.perm_ext_iff_of_nodup ((pairwise_distinctSorted ts).imp ne_of_lt)
      ((pairwise_distinctSorted ss).imp ne_of_lt)]
    intro s
    rw [mem_distinctSorted, mem_distinctSorted, same]
  -- Two permutations of each other, both in order, are the same list.
  refine perm.eq_of_pairwise ?_ (pairwise_distinctSorted ts) (pairwise_distinctSorted ss)
  intro s t _ _ less greater
  exact absurd greater less.not_gt

/-- There are two strings at least if two of the list differ. -/
theorem two_le_length_distinctSorted_iff {ss : List String} :
    2 ≤ (distinctSorted ss).length ↔ ∃ s ∈ ss, ∃ t ∈ ss, s ≠ t := by
  have sorted := pairwise_distinctSorted ss
  have member : ∀ s, s ∈ distinctSorted ss ↔ s ∈ ss := fun s => mem_distinctSorted
  rcases whole : distinctSorted ss with - | ⟨s, - | ⟨t, rest⟩⟩
  · refine iff_of_false (by simp) ?_
    rintro ⟨s, inside, -⟩
    simpa [whole] using (member s).2 inside
  · refine iff_of_false (by simp) ?_
    rintro ⟨t, inside, t', inside', different⟩
    have same := (member t).2 inside
    have same' := (member t').2 inside'
    rw [whole, List.mem_singleton] at same same'
    exact different (same.trans same'.symm)
  · rw [whole] at sorted
    refine iff_of_true (by simp) ⟨s, (member s).1 (by simp [whole]), t, (member t).1 (by simp [whole]), ?_⟩
    exact ne_of_lt (List.rel_of_pairwise_cons sorted List.mem_cons_self)

end Text
end AccountAudit
