import AccountAudit.Registry

/-!
# Detectors report under their own class

A detector is faithful when all its findings are of its own class. Every finding that a detector
makes by its own description is (`DetectorInfo.finding_classId`), so all built-in detectors are
faithful, and so is every registry that the built-in detectors are discovered into if it was before.
-/

namespace AccountAudit

/-- A detector that reports under its own class only. -/
def Detector.Faithful (d : Detector) : Prop :=
  ∀ u facts findings, d.detect u facts = .ok findings → ∀ f ∈ findings, f.classId = d.info.classId

namespace Detector

/-- Handler by handler, the findings are of one class. -/
theorem faithful_ofHandlers {info : DetectorInfo} {scan : FactBase → HandlerFacts → List Finding}
    (scanned : ∀ facts handler, ∀ f ∈ scan facts handler, f.classId = info.classId) :
    (ofHandlers info scan).Faithful := by
  intro u facts findings detected f member
  obtain rfl := Except.ok.inj detected
  rcases List.mem_flatMap.1 member with ⟨handler, -, found⟩
  exact scanned facts handler f found

/-! ## Built-in detectors -/

theorem faithful_signerAuthorization : SignerAuthorization.detector.Faithful := by
  refine faithful_ofHandlers fun facts handler f member => ?_
  rcases List.mem_map.1 member with ⟨account, -, rfl⟩
  rfl

theorem faithful_ownerProgram : OwnerProgram.detector.Faithful := by
  refine faithful_ofHandlers fun facts handler f member => ?_
  rcases List.mem_map.1 member with ⟨account, -, rfl⟩
  rfl

theorem faithful_uncheckedArithmetic : UncheckedArithmetic.detector.Faithful := by
  refine faithful_ofHandlers fun facts handler f member => ?_
  rcases List.mem_map.1 member with ⟨site, -, rfl⟩
  rfl

theorem faithful_addressDerivation : AddressDerivation.detector.Faithful := by
  refine faithful_ofHandlers fun facts handler f member => ?_
  rcases List.mem_append.1 member with accounts | calls
  · rcases List.mem_filterMap.1 accounts with ⟨account, -, found⟩
    grind [AddressDerivation.accountFinding?, DetectorInfo.finding_classId]
  · rcases List.mem_filterMap.1 calls with ⟨call, -, found⟩
    grind [AddressDerivation.callFinding?, DetectorInfo.finding_classId]

theorem faithful_arbitraryInvocation : ArbitraryInvocation.detector.Faithful := by
  refine faithful_ofHandlers fun facts handler f member => ?_
  rcases List.mem_map.1 member with ⟨site, -, rfl⟩
  rfl

theorem faithful_reinitialization : Reinitialization.detector.Faithful := by
  refine faithful_ofHandlers fun facts handler f member => ?_
  rcases List.mem_append.1 member with creations | rewrites
  · rcases List.mem_filterMap.1 creations with ⟨account, -, found⟩
    grind [Reinitialization.creationFinding?, Reinitialization.ifNeededFinding?,
      Reinitialization.singletonFinding?, DetectorInfo.finding_classId]
  · rw [Reinitialization.rewriteFindings] at rewrites
    split at rewrites
    · rcases List.mem_filterMap.1 rewrites with ⟨⟨index, location⟩, -, found⟩
      rcases Option.bind_eq_some_iff.1 found with ⟨account, -, found⟩
      grind [Reinitialization.rewriteFinding?, DetectorInfo.finding_classId]
    · cases rewrites

theorem faithful_typeConfusion : TypeConfusion.detector.Faithful := by
  refine faithful_ofHandlers fun facts handler f member => ?_
  rcases List.mem_filterMap.1 member with ⟨call, -, found⟩
  grind [TypeConfusion.callFinding?, TypeConfusion.finding, DetectorInfo.finding_classId]

theorem faithful_duplicateAccounts : DuplicateAccounts.detector.Faithful := by
  refine faithful_ofHandlers fun facts handler f member => ?_
  rcases List.mem_filterMap.1 member with ⟨group, -, found⟩
  -- An empty group, or one without an uncovered pair, gives no finding.
  unfold DuplicateAccounts.groupFinding? at found
  split at found
  · cases found
  · cases found
  · obtain rfl := Option.some.inj found
    rfl

theorem faithful_accountClose : AccountClose.detector.Faithful := by
  refine faithful_ofHandlers fun facts handler f member => ?_
  rcases List.mem_filterMap.1 member with ⟨⟨index, location⟩, -, found⟩
  grind [AccountClose.finding, DetectorInfo.finding_classId]

theorem faithful_of_mem_builtin {d : Detector} (h : d ∈ builtin) : d.Faithful := by
  simp only [builtin, List.mem_cons, List.not_mem_nil, or_false] at h
  rcases h with rfl | rfl | rfl | rfl | rfl | rfl | rfl | rfl | rfl
  · exact faithful_signerAuthorization
  · exact faithful_ownerProgram
  · exact faithful_uncheckedArithmetic
  · exact faithful_addressDerivation
  · exact faithful_arbitraryInvocation
  · exact faithful_reinitialization
  · exact faithful_typeConfusion
  · exact faithful_duplicateAccounts
  · exact faithful_accountClose

end Detector

/-! ## Registries -/

namespace Registry

/-- All detectors report under their own classes. -/
def Faithful (r : Registry) : Prop :=
  ∀ d ∈ r.detectors, d.Faithful

theorem Faithful.registerNew {r : Registry} (faithful : r.Faithful) {d : Detector}
    (fits : d.Faithful) : (r.registerNew d).Faithful := by
  unfold Registry.registerNew register
  -- A detector without a class, or of a class that is taken, is turned away.
  by_cases unnamed : d.info.classId = ""
  · simpa [unnamed] using faithful
  · by_cases taken : d.info.classId ∈ r.detectors.map (·.info.classId)
    · rw [dif_neg unnamed, dif_pos taken]
      exact faithful
    · rw [dif_neg unnamed, dif_neg taken]
      intro e member
      rcases List.mem_append.1 member with old | new
      · exact faithful e old
      · exact List.mem_singleton.1 new ▸ fits

theorem Faithful.discover {r : Registry} (faithful : r.Faithful) : r.discover.Faithful := by
  -- Registering keeps faithfulness, one detector after the other.
  have all : ∀ {ds : List Detector} {r : Registry}, (∀ d ∈ ds, d.Faithful) → r.Faithful →
      (ds.foldl Registry.registerNew r).Faithful := by
    intro ds
    induction ds with
    | nil => exact fun _ faithful => faithful
    | cons d ds ih =>
      intro r fits faithful
      exact ih (fun e member => fits e (List.mem_cons_of_mem _ member))
        (faithful.registerNew (fits d List.mem_cons_self))
  unfold Registry.discover
  split
  · exact faithful
  · have found : (Detector.builtin.foldl Registry.registerNew r).Faithful :=
      all (fun _ => Detector.faithful_of_mem_builtin) faithful
    -- Only the detectors matter from here on, not how they came into the registry.
    generalize Detector.builtin.foldl Registry.registerNew r = after at found ⊢
    intro d member
    exact found d member

theorem faithful_withBuiltin : withBuiltin.Faithful := by
  have none : empty.Faithful := by
    intro d member
    cases member
  exact none.discover

end Registry
end AccountAudit
