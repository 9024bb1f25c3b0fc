import AccountAudit.Detector.Builtin
import AccountAudit.Proofs.Flag.Query

/-!
# Detectors that do not see flags that are not set

Six built-in detectors report the same about an account whether it denies a flag or leaves it open: they
ask for attributes that are no flags, and for what extraction makes of the flags. So it is of no
consequence to them whether an account is said not to sign, not to be mutable, or not to be created.
-/

namespace AccountAudit

variable {handler handler' : HandlerFacts} {kind : String}

theorem OwnerProgram.scan_of_loses (h : handler.Loses kind handler') :
    scan handler' = scan handler := by
  have named : ∀ {account account' : AccountFact}, account.Loses kind account' → ∀ other,
      other ∉ Resolved.flagKinds → OwnerProgram.named account' other =
        OwnerProgram.named account other := by
    intro account account' related other noFlag
    rw [OwnerProgram.named, related.attr?_eq other noFlag, OwnerProgram.named]
  have exempted : exempt handler' = exempt handler := by
    have lists : handler'.accounts.map (fun account =>
          OwnerProgram.named account "close" ++ OwnerProgram.named account "payer") =
        handler.accounts.map fun account =>
          OwnerProgram.named account "close" ++ OwnerProgram.named account "payer" := by
      refine map_eq_of_forall₂ h.accounts fun account account' related => ?_
      rw [named related "close" (by decide), named related "payer" (by decide)]
    rw [exempt, h.invokes, List.flatMap_def, lists, ← List.flatMap_def, exempt]
  have reported : ∀ account account', account.Loses kind account' →
      reports handler' account' = reports handler account := by
    intro account account' related
    have validated : validatingKinds.any account'.has = validatingKinds.any account.has := by
      simp [validatingKinds, related.has_eq "owner" (by decide),
        related.has_eq "address" (by decide), related.has_eq "seeds" (by decide)]
    simp only [reports, exempted, validated, h.evidence, related.typeKind, related.isSigner,
      related.index, related.touches, h.possiblyGuarded related]
  refine map_eq_of_forall₂ (forall₂_filter h.accounts reported) fun account account' related => ?_
  simp only [finding, h.name, related.name, related.typeKind, related.location]

theorem UncheckedArithmetic.scan_of_loses (h : handler.Loses kind handler') :
    scan handler' = scan handler := by
  have same : finding handler' = finding handler := by
    funext site
    simp only [finding, h.name]
  rw [scan, h.arithmetic, same, scan]

theorem AddressDerivation.scan_of_loses (h : handler.Loses kind handler') :
    scan handler' = scan handler := by
  have supplied : suppliedAmong handler' = suppliedAmong handler := by
    funext names
    rw [suppliedAmong, h.args, suppliedAmong]
  have accounts : handler'.accounts.filterMap (accountFinding? handler') =
      handler.accounts.filterMap (accountFinding? handler) := by
    refine filterMap_eq_of_forall₂ h.accounts fun account account' related => ?_
    simp only [accountFinding?, related.attr?_eq "seeds" (by decide),
      related.attr?_eq "bump" (by decide), supplied, h.calls, h.checks, h.name,
      related.name, related.location]
  have calls : callFinding? handler' = callFinding? handler := by
    funext call
    simp only [callFinding?, supplied, h.calls, h.checksBefore, h.name]
  rw [scan, accounts, calls, h.callsNamed, scan]

theorem ArbitraryInvocation.scan_of_loses (h : handler.Loses kind handler') :
    scan handler' = scan handler := by
  have pinned : isPinned handler' = isPinned handler := by
    funext site
    have declared : (site.targetRef.bind handler'.account?).any isDeclaredProgram =
        (site.targetRef.bind handler.account?).any isDeclaredProgram := by
      cases site.targetRef with
      | none => rfl
      | some index =>
        refine any_eq_of_rel (h.account? index) fun account account' related => ?_
        rw [isDeclaredProgram, related.typeKind, related.attr?_eq "address" (by decide),
          isDeclaredProgram]
    rw [isPinned, declared, h.evidenceBefore, isPinned]
  have same : finding handler' = finding handler := by
    funext site
    simp only [finding, h.name]
  rw [scan, h.invokes, pinned, same, scan]

theorem TypeConfusion.scan_of_loses (facts : FactBase) (h : handler.Loses kind handler') :
    scan facts handler' = scan facts handler := by
  have accounts : ∀ call, List.Forall₂ (AccountFact.Loses kind) (accountsOf handler call)
      (accountsOf handler' call) :=
    fun call => forall₂_filterMap_of_rel h.account?
  have names : ∀ call, (accountsOf handler' call).map AccountFact.name =
      (accountsOf handler call).map AccountFact.name :=
    fun call => map_eq_of_forall₂ (accounts call) fun _ _ related => related.name
  have guarded : ∀ call, (accountsOf handler' call).any handler'.possiblyGuarded =
      (accountsOf handler call).any handler.possiblyGuarded :=
    fun call => any_eq_of_forall₂ (accounts call) fun _ _ related => h.possiblyGuarded related
  have checked : isDiscriminatorChecked handler' = isDiscriminatorChecked handler := by
    funext call
    rw [isDiscriminatorChecked, h.checksBefore, h.callsNamed, isDiscriminatorChecked]
  have found : callFinding? facts handler' = callFinding? facts handler := by
    funext call
    simp only [callFinding?, finding, checked, guarded, names, h.name]
  rw [scan, h.callsNamed, found, scan]

theorem AccountClose.scan_of_loses (h : handler.Loses kind handler') :
    scan handler' = scan handler := by
  have sites : drains handler' = drains handler := by
    have named : ∀ call : CallFact, ((handler'.accountNamed? (receiver call)).map fun account =>
          (call.seq, account.index, call.location)) =
        (handler.accountNamed? (receiver call)).map fun account =>
          (call.seq, account.index, call.location) := by
      intro call
      rcases rel_cases (h.accountNamed? (receiver call)) with
        ⟨absent, none⟩ | ⟨account, account', found, found', related⟩
      · rw [absent, none]
      · rw [found, found', Option.map_some, Option.map_some, related.index]
    simp only [drains, h.assignments, h.callsNamed, named]
  have targets : drained handler' = drained handler := by
    rw [drained, sites, drained]
  have reported : ∀ account account', account.Loses kind account' →
      reports handler' account' = reports handler account := by
    intro account account' related
    simp only [reports, clears, h.assignments, h.callsNamed, related.isSigner, related.index,
      related.name, related.has_eq "close" (by decide)]
  rw [scan, targets, scan]
  refine List.filterMap_congr fun ⟨index, location⟩ _ => ?_
  rcases rel_cases (h.account? index) with
    ⟨absent, none⟩ | ⟨account, account', found, found', related⟩
  · simp only [absent, none]
  · simp only [found, found', reported _ _ related, finding, related.name, h.name]

end AccountAudit
