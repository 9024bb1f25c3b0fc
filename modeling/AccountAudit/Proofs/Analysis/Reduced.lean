import AccountAudit.Proofs.Analysis.Reduction

/-!
# What a reduction gives

The reduction is described without its steps (`Reduces`): the result is strictly ascending in the
keys, it has the keys of the collected findings that no suppression silences, and at each of its keys
it has the first collected finding of that key with the severity that the settings give to its class.
The reduction has these properties for every list of findings and all settings (`reduces_reduce`), and
nothing else has them (`Reduces.unique`), so they are a specification of it (`reduces_iff`).
-/

namespace AccountAudit

/-! ## Strict order -/

namespace FindingKey

theorem order_self_ne_lt (key : FindingKey) : order key key ≠ .lt := by
  have equal : order key key = .eq := by
    unfold order
    exact Std.ReflCmp.compare_self
  simp [equal]

theorem order_eq_lt {a b : FindingKey} (le : (order a b).isLE = true) (ne : a ≠ b) :
    order a b = .lt := by
  cases h : order a b with
  | lt => rfl
  | eq =>
    have swapped : order b a = .eq := by
      unfold order at *
      exact Std.OrientedCmp.eq_symm h
    exact absurd (isLE_order_antisymm le (by simp [swapped])) ne
  | gt => simp [h] at le

end FindingKey

namespace Finding

/-- The key of a finding comes strictly before that of another one. -/
def Before (f g : Finding) : Prop :=
  f.key.order g.key = .lt

theorem Before.asymm {f g : Finding} (before : f.Before g) : ¬ g.Before f := by
  intro (behind : g.key.order f.key = .lt)
  rw [Before] at before
  -- Keys of which neither comes after the other are the same, and no key comes before itself.
  have same : f.key = g.key :=
    FindingKey.isLE_order_antisymm (by simp [before]) (by simp [behind])
  exact FindingKey.order_self_ne_lt g.key (same ▸ before)

theorem Before.ne {f g : Finding} (before : f.Before g) : f ≠ g := by
  rintro rfl
  exact before.asymm before

/-- Sorting findings of different keys leaves no ties. -/
theorem pairwise_sort {findings : List Finding}
    (distinct : findings.Pairwise fun f g => f.key ≠ g.key) : (sort findings).Pairwise Before := by
  have apart : (sort findings).Pairwise fun f g => f.key ≠ g.key :=
    ((sort_perm findings).pairwise_iff fun ne => ne.symm).2 distinct
  have ordered := (sorts_sort findings).ordered
  exact (ordered.and apart).imp fun both => FindingKey.order_eq_lt both.1 both.2

/-- The first finding of a key. -/
def first? (key : FindingKey) (findings : List Finding) : Option Finding :=
  findings.find? fun f => decide (f.key = key)

theorem key_of_first? {key : FindingKey} {findings : List Finding} {f : Finding}
    (h : first? key findings = some f) : f.key = key := by
  simpa using List.find?_some h

theorem exists_first?_iff {key : FindingKey} {findings : List Finding} :
    (∃ f, first? key findings = some f) ↔ key ∈ findings.map Finding.key := by
  rw [← Option.isSome_iff_exists, first?, List.find?_isSome]
  simp

end Finding

namespace Analysis

/-! ## The first finding of every key -/

/-- What is kept is, of its key, the first one, provided that the key was free at the start. -/
theorem mem_firstsFrom {seen : List FindingKey} {findings : List Finding} {f : Finding} :
    f ∈ firstsFrom seen findings ↔ f.key ∉ seen ∧ Finding.first? f.key findings = some f := by
  induction findings generalizing seen with
  | nil => simp [firstsFrom, Finding.first?]
  | cons g rest ih =>
    have look : Finding.first? f.key (g :: rest) =
        if g.key = f.key then some g else Finding.first? f.key rest := by
      simp only [Finding.first?, List.find?_cons]
      by_cases same : g.key = f.key <;> simp [same]
    rw [firstsFrom, look]
    by_cases same : g.key = f.key
    -- Both findings have one key, so only `g` can be its first.
    · rw [if_pos same]
      by_cases taken : g.key ∈ seen
      · rw [if_pos taken, ih]
        simp [← same, taken]
      · rw [if_neg taken, List.mem_cons, ih]
        constructor
        · rintro (rfl | ⟨free, -⟩)
          · exact ⟨taken, rfl⟩
          · exact absurd (same ▸ List.mem_cons_self) free
        · rintro ⟨-, first⟩
          exact .inl (Option.some.inj first).symm
    -- Then the key of `g` does not matter for `f`, whether it is taken or not.
    · have other : f ≠ g := by
        rintro rfl
        exact same rfl
      rw [if_neg same]
      by_cases taken : g.key ∈ seen
      · rw [if_pos taken, ih]
      · rw [if_neg taken, List.mem_cons, ih]
        simp [other, Ne.symm same]

theorem mem_firsts {findings : List Finding} {f : Finding} :
    f ∈ firsts findings ↔ Finding.first? f.key findings = some f := by
  simp [firsts, mem_firstsFrom]

/-- No key is kept twice. -/
theorem pairwise_firstsFrom (seen : List FindingKey) (findings : List Finding) :
    (firstsFrom seen findings).Pairwise fun f g => f.key ≠ g.key := by
  induction findings generalizing seen with
  | nil => exact .nil
  | cons f rest ih =>
    rw [firstsFrom]
    split
    · exact ih seen
    · refine List.pairwise_cons.2 ⟨fun g later same => ?_, ih _⟩
      -- From here on the key of `f` is taken.
      have free := (mem_firstsFrom.1 later).1
      exact free (same ▸ List.mem_cons_self)

/-! ## The result -/

/-- The second list is what remains of the collected findings under the settings. -/
structure Reduces (settings : Settings) (findings reduced : List Finding) : Prop where
  ascending : reduced.Pairwise Finding.Before
  mem_keys_iff : ∀ key : FindingKey, key ∈ reduced.map Finding.key ↔
    key ∈ findings.map Finding.key ∧
      ¬ ∃ f : Finding, f.key = key ∧ settings.suppressions.any (·.applies f) = true
  agrees : ∀ f ∈ reduced, ∃ g, Finding.first? f.key findings = some g ∧
    f = { g with
      severity :=
        if isFailure g then g.severity
        else (settings.severityOverrides.lookup g.classId).getD g.severity }

/-- Whether a finding is suppressed depends on its key only. -/
theorem isSuppressed_congr (settings : Settings) {f g : Finding} (same : f.key = g.key) :
    settings.isSuppressed f = settings.isSuppressed g := by
  simp only [Finding.key, FindingKey.mk.injEq] at same
  rcases same with ⟨classId, file, start, stop⟩
  -- A suppression looks at the class and at the text of the location, which leaves out the line.
  simp only [Settings.isSuppressed, Suppression.applies, Suppression.silences, Location.text,
    classId, file, start, stop]

theorem override_eq (settings : Settings) (f : Finding) :
    override settings f = { f with
      severity :=
        if isFailure f then f.severity
        else (settings.severityOverrides.lookup f.classId).getD f.severity } := by
  unfold override
  split <;> rfl

theorem mem_polish {settings : Settings} {findings : List Finding} {f : Finding} :
    f ∈ polish settings findings ↔
      settings.isSuppressed f = false ∧ ∃ g ∈ findings, override settings g = f := by
  simp [polish, and_comm]

/-- An override changes no key and a suppression only takes findings out. -/
theorem pairwise_polish {settings : Settings} {findings : List Finding}
    (distinct : findings.Pairwise fun f g => f.key ≠ g.key) :
    (polish settings findings).Pairwise fun f g => f.key ≠ g.key := by
  refine List.Pairwise.filter _ (List.pairwise_map.2 ?_)
  simpa only [key_override] using distinct

/-- What the reduction keeps: the first finding of a key that is not suppressed, overridden. -/
theorem mem_reduce {settings : Settings} {findings : List Finding} {f : Finding} :
    f ∈ reduce settings findings ↔
      settings.isSuppressed f = false ∧
        ∃ g, Finding.first? f.key findings = some g ∧ override settings g = f := by
  have sorted : f ∈ reduce settings findings ↔ f ∈ polish settings (firsts findings) :=
    (Finding.sort_perm _).mem_iff
  rw [sorted, mem_polish]
  refine and_congr_right fun _ => exists_congr fun g => ?_
  rw [mem_firsts]
  refine and_congr_left fun overridden => ?_
  rw [← overridden, key_override]

theorem reduces_reduce (settings : Settings) (findings : List Finding) :
    Reduces settings findings (reduce settings findings) where
  ascending := Finding.pairwise_sort (pairwise_polish (pairwise_firstsFrom [] findings))
  mem_keys_iff := by
    intro key
    constructor
    · intro kept
      rcases List.mem_map.1 kept with ⟨f, member, rfl⟩
      rcases mem_reduce.1 member with ⟨shown, g, first, -⟩
      refine ⟨Finding.exists_first?_iff.1 ⟨g, first⟩, ?_⟩
      rintro ⟨other, same, silenced⟩
      have hidden : settings.isSuppressed f = true := isSuppressed_congr settings same ▸ silenced
      simp [shown] at hidden
    · rintro ⟨collected, shown⟩
      rcases Finding.exists_first?_iff.2 collected with ⟨g, first⟩
      have key_eq : (override settings g).key = key := by
        rw [key_override, Finding.key_of_first? first]
      refine List.mem_map.2 ⟨override settings g, mem_reduce.2 ⟨?_, g, ?_, rfl⟩, key_eq⟩
      · rw [Bool.eq_false_iff]
        exact fun silenced => shown ⟨_, key_eq, silenced⟩
      · rw [key_eq, first]
  agrees := by
    intro f member
    rcases mem_reduce.1 member with ⟨-, g, first, overridden⟩
    exact ⟨g, first, overridden ▸ override_eq settings g⟩

/-! ## Nothing else has these properties -/

theorem Reduces.mem_iff {settings : Settings} {findings reduced : List Finding}
    (h : Reduces settings findings reduced) {f : Finding} :
    f ∈ reduced ↔ f ∈ reduce settings findings := by
  have both := reduces_reduce settings findings
  -- The keys of both lists are the same, and so is what stands at each key.
  have one : ∀ {as bs : List Finding}, Reduces settings findings as → Reduces settings findings bs →
      f ∈ as → f ∈ bs := by
    intro as bs ha hb member
    have kept : f.key ∈ bs.map Finding.key :=
      (hb.mem_keys_iff _).2 ((ha.mem_keys_iff _).1 (List.mem_map_of_mem member))
    rcases List.mem_map.1 kept with ⟨g, inside, same⟩
    rcases ha.agrees f member with ⟨source, first, hf⟩
    rcases hb.agrees g inside with ⟨source', first', hg⟩
    obtain rfl : source = source' := Option.some.inj (first.symm.trans (same ▸ first'))
    rwa [hf, ← hg]
  exact ⟨one h both, one both h⟩

theorem Reduces.unique {settings : Settings} {findings reduced : List Finding}
    (h : Reduces settings findings reduced) : reduced = reduce settings findings := by
  have ascending := (reduces_reduce settings findings).ascending
  have same : reduced.Perm (reduce settings findings) :=
    (List.perm_ext_iff_of_nodup (h.ascending.imp Finding.Before.ne)
      (ascending.imp Finding.Before.ne)).2 fun _ => h.mem_iff
  exact same.eq_of_pairwise (fun _ _ _ _ before behind => absurd behind before.asymm)
    h.ascending ascending

end Analysis
end AccountAudit
