import AccountAudit.Analysis
import AccountAudit.Proofs.Finding.Sort

/-!
# Reducing findings

The reduction looks at findings key by key: which finding of a key stays, what its severity becomes
and whether it is suppressed does not depend on findings with other keys. So it commutes with any
choice of keys (`reduce_filter`). Findings whose keys are taken by earlier ones do not matter at all
(`reduce_append_filter`).
-/

namespace AccountAudit
namespace Analysis

/-! ## The first finding of every key -/

/-- Only the membership in `seen` matters, and only for the chosen keys. -/
theorem firstsFrom_filter (p : FindingKey → Bool) {seen seen' : List FindingKey}
    (same : ∀ key, p key = true → (key ∈ seen' ↔ key ∈ seen)) (findings : List Finding) :
    firstsFrom seen' (findings.filter fun f => p f.key) =
      (firstsFrom seen findings).filter fun f => p f.key := by
  induction findings generalizing seen seen' with
  | nil => rfl
  | cons f rest ih =>
    by_cases chosen : p f.key = true
    · rw [List.filter_cons_of_pos (by simpa using chosen), firstsFrom, firstsFrom]
      by_cases taken : f.key ∈ seen
      · rw [if_pos ((same _ chosen).2 taken), if_pos taken]
        exact ih same
      · rw [if_neg (mt (same _ chosen).1 taken), if_neg taken,
          List.filter_cons_of_pos (by simpa using chosen)]
        have longer : ∀ key, p key = true → (key ∈ f.key :: seen' ↔ key ∈ f.key :: seen) := by
          intro key h
          rw [List.mem_cons, List.mem_cons, same key h]
        rw [ih longer]
    · -- The key of `f` is not chosen, so it does not matter that it is taken from now on.
      rw [List.filter_cons_of_neg (by simpa using chosen), firstsFrom]
      by_cases taken : f.key ∈ seen
      · rw [if_pos taken]
        exact ih same
      · rw [if_neg taken, List.filter_cons_of_neg (by simpa using chosen)]
        have longer : ∀ key, p key = true → (key ∈ seen' ↔ key ∈ f.key :: seen) := by
          intro key h
          have other : key ≠ f.key := by
            rintro rfl
            exact chosen h
          simp [same key h, other]
        exact ih longer

theorem firstsFrom_append (seen : List FindingKey) (earlier : List Finding) :
    ∃ seen', (∀ key, key ∈ seen' ↔ key ∈ seen ∨ key ∈ earlier.map Finding.key) ∧
      ∀ later, firstsFrom seen (earlier ++ later) =
        firstsFrom seen earlier ++ firstsFrom seen' later := by
  -- The keys taken in the end depend on those taken at the start, so `seen` varies.
  induction earlier generalizing seen with
  | nil => exact ⟨seen, by simp, fun _ => rfl⟩
  | cons f rest ih =>
    by_cases taken : f.key ∈ seen
    · rcases ih seen with ⟨seen', keys, split⟩
      refine ⟨seen', fun key => ?_, fun later => ?_⟩
      · rw [keys, List.map_cons, List.mem_cons]
        constructor
        · rintro (old | inside)
          · exact .inl old
          · exact .inr (.inr inside)
        · rintro (old | rfl | inside)
          · exact .inl old
          · exact .inl taken
          · exact .inr inside
      · rw [List.cons_append, firstsFrom, if_pos taken, firstsFrom, if_pos taken, split]
    · rcases ih (f.key :: seen) with ⟨seen', keys, split⟩
      refine ⟨seen', fun key => ?_, fun later => ?_⟩
      · rw [keys, List.map_cons, List.mem_cons, List.mem_cons, or_assoc]
        exact or_left_comm
      · rw [List.cons_append, firstsFrom, if_neg taken, firstsFrom, if_neg taken, split,
          List.cons_append]

theorem firstsFrom_filter_cons_of_mem {seen : List FindingKey} {f : Finding} (taken : f.key ∈ seen)
    (p : Finding → Bool) (rest : List Finding) :
    firstsFrom seen ((f :: rest).filter p) = firstsFrom seen (rest.filter p) := by
  rw [List.filter_cons]
  split
  · rw [firstsFrom, if_pos taken]
  · rfl

/-- Two choices that differ in taken keys only choose the same firsts. -/
theorem firstsFrom_filter_congr {seen : List FindingKey} {p q : Finding → Bool}
    (same : ∀ f, f.key ∉ seen → p f = q f) (findings : List Finding) :
    firstsFrom seen (findings.filter p) = firstsFrom seen (findings.filter q) := by
  induction findings generalizing seen with
  | nil => rfl
  | cons f rest ih =>
    by_cases taken : f.key ∈ seen
    · rw [firstsFrom_filter_cons_of_mem taken, firstsFrom_filter_cons_of_mem taken]
      exact ih same
    -- The key of `f` is free, so both choices treat `f` alike.
    · rw [List.filter_cons, List.filter_cons, same f taken]
      split
      · rw [firstsFrom, firstsFrom, if_neg taken, if_neg taken]
        -- Fewer keys are free now, so the choices agree on them all the more.
        have longer : ∀ g : Finding, g.key ∉ f.key :: seen → p g = q g := by
          intro g fresh
          exact same g fun inside => fresh (List.mem_cons_of_mem _ inside)
        rw [ih longer]
      · exact ih same

/-! ## The other steps -/

@[simp]
theorem key_override (settings : Settings) (f : Finding) : (override settings f).key = f.key := by
  unfold override
  split <;> rfl

/-- What the reduction does after the choice of the first findings. -/
def polish (settings : Settings) (findings : List Finding) : List Finding :=
  (findings.map (override settings)).filter fun f => !settings.isSuppressed f

theorem polish_filter (settings : Settings) (p : FindingKey → Bool) (findings : List Finding) :
    polish settings (findings.filter fun f => p f.key) =
      (polish settings findings).filter fun f => p f.key := by
  simp only [polish, List.filter_map, List.filter_filter, Function.comp_def, key_override,
    Bool.and_comm]

/-- The reduction commutes with any choice of keys. -/
theorem reduce_filter (settings : Settings) (p : FindingKey → Bool) (findings : List Finding) :
    reduce settings (findings.filter fun f => p f.key) =
      (reduce settings findings).filter fun f => p f.key := by
  have firsts : firsts (findings.filter fun f => p f.key) =
      (firsts findings).filter fun f => p f.key :=
    firstsFrom_filter p (fun _ _ => Iff.rfl) findings
  calc reduce settings (findings.filter fun f => p f.key)
      = Finding.sort (polish settings (Analysis.firsts (findings.filter fun f => p f.key))) := rfl
    _ = Finding.sort ((polish settings (Analysis.firsts findings)).filter fun f => p f.key) := by
        rw [firsts, polish_filter]
    _ = (reduce settings findings).filter fun f => p f.key := Finding.sort_filter _ _

/-- To choose among later findings is to choose among all results, except that what is found at the
keys of the earlier ones stays. -/
theorem reduce_append_filter (settings : Settings) (q : FindingKey → Bool)
    (earlier later : List Finding) :
    reduce settings (earlier ++ later.filter fun f => q f.key) =
      (reduce settings (earlier ++ later)).filter fun f =>
        decide (f.key ∈ earlier.map Finding.key) || q f.key := by
  have all : (earlier.filter fun f => decide (f.key ∈ earlier.map Finding.key) || q f.key) =
      earlier := by
    refine List.filter_eq_self.2 fun f member => ?_
    have inside : f.key ∈ earlier.map Finding.key := List.mem_map_of_mem member
    simp only [inside, decide_true, Bool.true_or]
  rcases firstsFrom_append [] earlier with ⟨seen, keys, split⟩
  -- Behind the earlier findings their keys are taken, so it does not matter what is chosen there.
  have later : firstsFrom seen (later.filter fun f => q f.key) =
      firstsFrom seen (later.filter fun f =>
        decide (f.key ∈ earlier.map Finding.key) || q f.key) := by
    refine firstsFrom_filter_congr (fun f fresh => ?_) later
    have other : f.key ∉ earlier.map Finding.key := fun inside => fresh ((keys _).2 (.inr inside))
    simp only [other, decide_false, Bool.false_or]
  -- Read the right side as a choice made before the reduction.
  rw [← reduce_filter settings fun key => decide (key ∈ earlier.map Finding.key) || q key,
    List.filter_append, all]
  simp only [reduce, firsts, split, later]

end Analysis
end AccountAudit
