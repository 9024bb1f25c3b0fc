import AccountAudit.Detector.Builtin
import AccountAudit.Proofs.Guard.Monotone

/-!
# Guards never create findings

A built-in detector asks for guards only in order to stay silent. So whatever it reports after a
unit has gained a guard it has reported before: all detectors but one report the very same finding,
and the one about duplicate accounts reports the same group with no new uncovered pair.

There is one lemma for each detector about a single handler (`…_of_gainsGuards`), and the main
statement `exists_finding_before_guard` puts them together for units.
-/

namespace AccountAudit

variable {place : Nat → Nat} {handler handler' : HandlerFacts} {account account' : AccountFact}
  {facts facts' : FactBase}

open HandlerFacts (GainsGuards)

/-! ## Earlier findings -/

namespace Finding

/-- The pairs of accounts that a finding about duplicate accounts lists as uncovered. -/
def uncoveredPairs (f : Finding) : List Value :=
  match f.metadata.lookup "uncovered_pairs" with
  | some (.list pairs) => pairs
  | _ => []

/-- The finding is an earlier one again: of the same class, about the same place of the same
handler, with no uncovered pair that the earlier one does not list. -/
structure Follows (f g : Finding) : Prop where
  classId : f.classId = g.classId
  location : f.location = g.location
  handler : f.handler = g.handler
  title : f.title = g.title
  pairs : f.uncoveredPairs ⊆ g.uncoveredPairs

theorem Follows.refl (f : Finding) : f.Follows f :=
  ⟨rfl, rfl, rfl, rfl, fun _ listed => listed⟩

end Finding

theorem AccountFact.GainsGuards.isCreated (related : account.GainsGuards account') :
    AccountKind.isCreated account' = AccountKind.isCreated account := by
  simp [AccountKind.isCreated, AccountKind.creation, related.has]

/-! ## Missing signer authorization -/

/-- What implies something that does not hold does not hold either. -/
theorem eq_false_of_imp {a b : Bool} (implies : a = true → b = true) (h : b = false) : a = false := by
  cases a with
  | false => rfl
  | true => simp [implies rfl] at h

namespace SignerAuthorization

theorem isCandidate_eq (structs : facts'.structs = facts.structs)
    (related : account.GainsGuards account') :
    isCandidate facts' account' = isCandidate facts account := by
  simp only [isCandidate, dataNamesAuthority, FactBase.struct?, structs, related.isSigner,
    related.isMut, related.typeKind, related.isCreated, related.name, related.innerType]

theorem isGuarded_of_gainsGuards (gains : handler.GainsGuards place handler')
    (related : account.GainsGuards account') (h : isGuarded handler account = true) :
    isGuarded handler' account' = true := by
  have signers : handler'.signers.map AccountFact.index = handler.signers.map AccountFact.index :=
    map_eq_of_forall₂ gains.signers fun _ _ related => related.index
  simp only [isGuarded, namesSigner, signers, related.attr_eq "has_one" (by decide), related.index,
    related.touches, Bool.or_eq_true, Bool.and_eq_true] at *
  rcases h with (named | touched) | ⟨some, linked⟩
  · exact .inl (.inl named)
  · exact .inl (.inr (gains.any_evidence (fun _ holds => holds) touched))
  · exact .inr ⟨some, gains.links linked⟩

theorem mem_scan_of_gainsGuards (structs : facts'.structs = facts.structs)
    (gains : handler.GainsGuards place handler') {f : Finding} (member : f ∈ scan facts' handler') :
    f ∈ scan facts handler := by
  have signers : handler'.signers.map AccountFact.name = handler.signers.map AccountFact.name :=
    map_eq_of_forall₂ gains.signers fun _ _ related => related.name
  apply mem_map_filter_of_forall₂ gains.accounts _ member
  intro account account' related reported
  simp only [reports, isCandidate_eq structs related, Bool.and_eq_true,
    Bool.not_eq_true'] at reported ⊢
  rcases reported with ⟨⟨candidate, unguarded⟩, unmentioned⟩
  -- What guards the account now or may do so would have silenced the detector before as well.
  have unguardedBefore := eq_false_of_imp (isGuarded_of_gainsGuards gains related) unguarded
  have unmentionedBefore := eq_false_of_imp (gains.possiblyGuarded related) unmentioned
  refine ⟨⟨⟨candidate, unguardedBefore⟩, unmentionedBefore⟩, ?_⟩
  simp only [finding, gains.name, related.name, related.typeTag, related.location, signers]

end SignerAuthorization

/-! ## Missing owner checks -/

namespace OwnerProgram

theorem exempt_eq (gains : handler.GainsGuards place handler') :
    exempt handler' = exempt handler := by
  -- The exempt names come from invocations and from attributes other than `constraint`.
  have targets : handler'.invokes.filterMap InvokeSite.targetRef =
      handler.invokes.filterMap InvokeSite.targetRef := by
    rw [gains.invokes, List.filterMap_map]
    rfl
  have named : handler'.accounts.map (fun account => named account "close" ++ named account "payer") =
      handler.accounts.map fun account => named account "close" ++ named account "payer" := by
    refine map_eq_of_forall₂ gains.accounts fun account account' related => ?_
    simp only [OwnerProgram.named, related.attr_eq "close" (by decide),
      related.attr_eq "payer" (by decide)]
  rw [exempt, targets, List.flatMap_def, named, ← List.flatMap_def, exempt]

theorem mem_scan_of_gainsGuards (gains : handler.GainsGuards place handler') {f : Finding}
    (member : f ∈ scan handler') : f ∈ scan handler := by
  apply mem_map_filter_of_forall₂ gains.accounts _ member
  intro account account' related reported
  have validated : validatingKinds.any account'.has = validatingKinds.any account.has := by
    simp [validatingKinds, related.has]
  simp only [reports, exempt_eq gains, validated, related.typeKind, related.isSigner, related.index,
    related.touches, Bool.and_eq_true, Bool.not_eq_true'] at reported ⊢
  rcases reported with ⟨⟨declared, unowned⟩, unmentioned⟩
  have unownedBefore := eq_false_of_imp (gains.any_evidence fun _ holds => holds) unowned
  have unmentionedBefore := eq_false_of_imp (gains.possiblyGuarded related) unmentioned
  refine ⟨⟨⟨declared, unownedBefore⟩, unmentionedBefore⟩, ?_⟩
  simp only [finding, gains.name, related.name, related.typeKind, related.location]

end OwnerProgram

/-! ## Unchecked arithmetic -/

namespace UncheckedArithmetic

theorem mem_scan_of_gainsGuards (gains : handler.GainsGuards place handler') {f : Finding}
    (member : f ∈ scan handler') : f ∈ scan handler := by
  apply mem_map_filter_of_forall₂ gains.arithmetic _ member
  intro site site' related reported
  rw [related.same] at reported
  simp only [reports, Bool.and_eq_true, Bool.not_eq_true'] at reported ⊢
  rcases reported with ⟨dangerous, unguarded⟩
  refine ⟨⟨dangerous, eq_false_of_imp related.guarded unguarded⟩, ?_⟩
  rw [related.same, finding, finding, gains.name]
  rfl

end UncheckedArithmetic

/-! ## Non-canonical address derivation -/

namespace AddressDerivation

theorem isEnforced_mono {calls calls' : List CallFact} {checks checks' : List CheckFact}
    {supplied : List String} {seeds : List Expr}
    (callsKept : ∀ call ∈ calls, { call with seq := place call.seq } ∈ calls')
    (checksKept : ∀ check ∈ checks, { check with seq := place check.seq } ∈ checks')
    (h : isEnforced calls checks supplied seeds = true) :
    isEnforced calls' checks' supplied seeds = true := by
  simp only [isEnforced, Bool.or_eq_true, List.any_eq_true] at *
  rcases h with ⟨call, member, recomputes⟩ | ⟨check, member, compares⟩
  · exact .inl ⟨_, callsKept call member, recomputes⟩
  · exact .inr ⟨_, checksKept check member, compares⟩

theorem suppliedAmong_eq (gains : handler.GainsGuards place handler') (names : List String) :
    suppliedAmong handler' names = suppliedAmong handler names := by
  rw [suppliedAmong, gains.args, suppliedAmong]

theorem accountFinding?_of_gainsGuards (gains : handler.GainsGuards place handler')
    (related : account.GainsGuards account') {f : Finding}
    (h : accountFinding? handler' account' = some f) : accountFinding? handler account = some f := by
  unfold accountFinding? at *
  rw [related.attr_eq "seeds" (by decide), related.attr_eq "bump" (by decide)] at h
  split at h
  case h_2 => cases h
  case h_1 seeds bump _ hasSeeds hasBump =>
    simp only [suppliedAmong_eq gains] at h
    split at h
    case h_1 => cases h
    case h_2 first others supplied =>
      split at h
      · cases h
      · rename_i trusted
        -- What enforces the address before still does, so the derivation was not trusted before.
        have callsKept : ∀ call ∈ handler.calls,
            { call with seq := place call.seq } ∈ handler'.calls := by
          intro call member
          rw [gains.calls]
          exact List.mem_map_of_mem member
        have before := mt (isEnforced_mono callsKept gains.checks) trusted
        rw [supplied] at before h
        simp only [supplied, if_neg before]
        rw [← h, gains.name, related.name, related.location]

theorem callFinding?_of_gainsGuards (gains : handler.GainsGuards place handler') {call : CallFact}
    {f : Finding} (h : callFinding? handler' { call with seq := place call.seq } = some f) :
    callFinding? handler call = some f := by
  unfold callFinding? at *
  simp only [suppliedAmong_eq gains] at h
  split at h
  · cases h
  · rename_i trusted
    have earlier : ∀ other ∈ handler.calls.filter (·.seq < call.seq),
        { other with seq := place other.seq } ∈
          handler'.calls.filter (·.seq < place call.seq) := by
      intro other member
      rcases List.mem_filter.1 member with ⟨inside, before⟩
      rw [gains.calls]
      refine List.mem_filter.2 ⟨List.mem_map_of_mem inside, ?_⟩
      simpa using gains.order (by simpa using before)
    rw [Bool.or_eq_true, not_or] at trusted
    have before : ¬ ((suppliedAmong handler call.argRoots).isEmpty ||
        isEnforced (handler.calls.filter (·.seq < call.seq)) (handler.checksBefore call.seq)
          (suppliedAmong handler call.argRoots) (call.args.take 1)) = true := by
      rw [Bool.or_eq_true, not_or]
      exact ⟨trusted.1,
        mt (isEnforced_mono earlier fun _ member => gains.mem_checksBefore member) trusted.2⟩
    rw [if_neg before, ← h, gains.name]

theorem mem_scan_of_gainsGuards (gains : handler.GainsGuards place handler') {f : Finding}
    (member : f ∈ scan handler') : f ∈ scan handler := by
  rcases List.mem_append.1 member with accounts | calls
  · apply List.mem_append_left
    apply mem_filterMap_of_forall₂ gains.accounts _ accounts
    intro account account' f related found
    exact accountFinding?_of_gainsGuards gains related found
  · rcases List.mem_filterMap.1 calls with ⟨call', inside', found⟩
    rw [gains.callsNamed] at inside'
    rcases List.mem_map.1 inside' with ⟨call, inside, rfl⟩
    exact List.mem_append_right _ (List.mem_filterMap.2
      ⟨call, inside, callFinding?_of_gainsGuards gains found⟩)

end AddressDerivation

/-! ## Arbitrary invocations -/

namespace ArbitraryInvocation

theorem isPinned_of_gainsGuards (gains : handler.GainsGuards place handler') {site : InvokeSite}
    (h : isPinned handler site = true) :
    isPinned handler' { site with seq := place site.seq } = true := by
  simp only [isPinned, Bool.or_eq_true, Bool.and_eq_true] at *
  -- A program is pinned by a constant, by the account's type, or by a comparison.
  rcases h with constant | ⟨path, declared | compared⟩
  · exact .inl constant
  · refine .inr ⟨path, .inl ?_⟩
    rw [Option.any_eq_true] at *
    rcases declared with ⟨account, target, isProgram⟩
    rcases Option.bind_eq_some_iff.1 target with ⟨index, named, found⟩
    rcases exists_right_of_rel (gains.account? index) found with ⟨account', found', related⟩
    refine ⟨account', Option.bind_eq_some_iff.2 ⟨index, named, found'⟩, ?_⟩
    simpa only [isDeclaredProgram, related.typeKind, related.attr_eq "address" (by decide)] using
      isProgram
  · refine .inr ⟨path, .inr ?_⟩
    rw [List.any_eq_true] at *
    rcases compared with ⟨ev, member, compares⟩
    exact ⟨_, gains.mem_evidenceBefore member, compares⟩

theorem mem_scan_of_gainsGuards (gains : handler.GainsGuards place handler') {f : Finding}
    (member : f ∈ scan handler') : f ∈ scan handler := by
  rcases List.mem_map.1 member with ⟨site', filtered, rfl⟩
  rcases List.mem_filter.1 filtered with ⟨inside', unpinned⟩
  rw [gains.invokes] at inside'
  rcases List.mem_map.1 inside' with ⟨site, inside, rfl⟩
  refine List.mem_map.2 ⟨site, List.mem_filter.2 ⟨inside, ?_⟩, ?_⟩
  · rw [Bool.not_eq_true'] at *
    exact eq_false_of_imp (isPinned_of_gainsGuards gains) unpinned
  · rw [finding, finding, gains.name]

end ArbitraryInvocation

/-! ## Repeated and front-run initialization -/

namespace Reinitialization

theorem flagMayBeChecked_of_gainsGuards (gains : handler.GainsGuards place handler')
    (related : account.GainsGuards account') (h : flagMayBeChecked handler account = true) :
    flagMayBeChecked handler' account' = true := by
  simp only [flagMayBeChecked, related.touches, Bool.or_eq_true] at *
  rcases h with touched | mentioned
  · exact .inl (gains.any_evidence (fun _ holds => holds) touched)
  · exact .inr (gains.possiblyGuarded related mentioned)

theorem hasAuthority_of_gainsGuards (gains : handler.GainsGuards place handler')
    (h : hasAuthority handler = true) : hasAuthority handler' = true := by
  have signers : handler'.signers.map AccountFact.index = handler.signers.map AccountFact.index :=
    map_eq_of_forall₂ gains.signers fun _ _ related => related.index
  simp only [hasAuthority, signers, Bool.or_eq_true] at *
  rcases h with addressed | evidence
  · refine .inl ?_
    rw [List.any_eq_true] at *
    rcases addressed with ⟨signer, member, fixed⟩
    rcases exists_right_of_forall₂ gains.signers member with ⟨signer', member', related⟩
    exact ⟨signer', member', by rwa [related.attr_eq "address" (by decide)]⟩
  · exact .inr (gains.any_evidence (fun _ holds => holds) evidence)

theorem written_eq (gains : handler.GainsGuards place handler') :
    written handler' = written handler := by
  rw [written, gains.assignments, List.filterMap_map, written]
  rfl

theorem ifNeededFinding?_of_gainsGuards (gains : handler.GainsGuards place handler')
    (related : account.GainsGuards account') {f : Finding}
    (h : ifNeededFinding? handler' account' = some f) :
    ifNeededFinding? handler account = some f := by
  unfold ifNeededFinding? at *
  split at h
  · cases h
  · rename_i unchecked
    have before := mt (flagMayBeChecked_of_gainsGuards gains related) unchecked
    rw [if_neg before, ← h, gains.name, related.name, related.location]

theorem singletonFinding?_of_gainsGuards (gains : handler.GainsGuards place handler')
    (related : account.GainsGuards account') {f : Finding}
    (h : singletonFinding? handler' account' = some f) :
    singletonFinding? handler account = some f := by
  unfold singletonFinding? at *
  split at h
  · rename_i exposed
    simp only [Bool.and_eq_true, Bool.not_eq_true'] at exposed
    rcases exposed with ⟨⟨constant, unmentioned⟩, unsettled⟩
    have before : (hasConstantSeeds account && !handler.possiblyGuarded account &&
        !hasAuthority handler) = true := by
      simp only [Bool.and_eq_true, Bool.not_eq_true']
      refine ⟨⟨?_, eq_false_of_imp (gains.possiblyGuarded related) unmentioned⟩,
        eq_false_of_imp (hasAuthority_of_gainsGuards gains) unsettled⟩
      rwa [hasConstantSeeds, related.attr_eq "seeds" (by decide)] at constant
    rw [if_pos before, ← h, gains.name, related.name, related.location]
  · cases h

theorem creationFinding?_of_gainsGuards (gains : handler.GainsGuards place handler')
    (related : account.GainsGuards account') {f : Finding}
    (h : creationFinding? handler' account' = some f) :
    creationFinding? handler account = some f := by
  unfold creationFinding? at *
  rw [related.has (by decide), related.has (by decide)] at h
  by_cases needed : account.has "init_if_needed" = true
  · rw [if_pos needed] at h ⊢
    exact ifNeededFinding?_of_gainsGuards gains related h
  · rw [if_neg needed] at h ⊢
    by_cases created : account.has "init" = true
    · rw [if_pos created] at h ⊢
      exact singletonFinding?_of_gainsGuards gains related h
    · rw [if_neg created] at h
      cases h

theorem rewriteFinding?_of_gainsGuards (gains : handler.GainsGuards place handler')
    (related : account.GainsGuards account') {location : Location} {f : Finding}
    (h : rewriteFinding? handler' account' location = some f) :
    rewriteFinding? handler account location = some f := by
  unfold rewriteFinding? at *
  split at h
  · rename_i exposed
    simp only [isExisting, related.isMut, related.typeKind, related.isCreated, Bool.and_eq_true,
      Bool.not_eq_true'] at exposed
    rcases exposed with ⟨existing, unchecked⟩
    have before : (isExisting account && !flagMayBeChecked handler account) = true := by
      simp only [isExisting, Bool.and_eq_true, Bool.not_eq_true']
      exact ⟨existing, eq_false_of_imp (flagMayBeChecked_of_gainsGuards gains related) unchecked⟩
    rw [if_pos before, ← h, gains.name, related.name]
  · cases h

theorem mem_scan_of_gainsGuards (gains : handler.GainsGuards place handler') {f : Finding}
    (member : f ∈ scan handler') : f ∈ scan handler := by
  rcases List.mem_append.1 member with creations | rewrites
  · apply List.mem_append_left
    apply mem_filterMap_of_forall₂ gains.accounts _ creations
    intro account account' f related found
    exact creationFinding?_of_gainsGuards gains related found
  · apply List.mem_append_right
    rw [rewriteFindings, isInitializer, gains.name, written_eq gains] at rewrites
    rw [rewriteFindings, isInitializer]
    split at rewrites
    · rename_i initializer
      rw [if_pos initializer]
      rcases List.mem_filterMap.1 rewrites with ⟨⟨index, location⟩, inside, found⟩
      rcases Option.bind_eq_some_iff.1 found with ⟨account', at', found⟩
      rcases exists_left_of_rel (gains.account? index) at' with ⟨account, here, related⟩
      refine List.mem_filterMap.2 ⟨(index, location), inside, ?_⟩
      exact Option.bind_eq_some_iff.2
        ⟨account, here, rewriteFinding?_of_gainsGuards gains related found⟩
    · cases rewrites

end Reinitialization

/-! ## Type confusion -/

namespace TypeConfusion

theorem accountsOf_related (gains : handler.GainsGuards place handler') (call : CallFact)
    (seq : Nat) :
    List.Forall₂ AccountFact.GainsGuards (accountsOf handler call)
      (accountsOf handler' { call with seq }) :=
  List.rel_filterMap (R := Eq) (fun index _ same => same ▸ gains.account? index)
    (List.forall₂_eq_eq_eq ▸ rfl)

theorem isDiscriminatorChecked_of_gainsGuards (gains : handler.GainsGuards place handler')
    {call : CallFact} (h : isDiscriminatorChecked handler call = true) :
    isDiscriminatorChecked handler' { call with seq := place call.seq } = true := by
  simp only [isDiscriminatorChecked, Bool.or_eq_true, List.any_eq_true] at *
  rcases h with ⟨check, member, looks⟩ | ⟨other, member, before⟩
  · exact .inl ⟨_, gains.mem_checksBefore member, looks⟩
  · refine .inr ⟨{ other with seq := place other.seq }, ?_, ?_⟩
    · rw [gains.callsNamed]
      exact List.mem_map_of_mem member
    · simpa using gains.order (by simpa using before)

theorem callFinding?_of_gainsGuards (structs : facts'.structs = facts.structs)
    (groups : facts'.sizeGroups = facts.sizeGroups) (gains : handler.GainsGuards place handler')
    {call : CallFact} {f : Finding}
    (h : callFinding? facts' handler' { call with seq := place call.seq } = some f) :
    callFinding? facts handler call = some f := by
  have accounts := accountsOf_related gains call (place call.seq)
  have names : (accountsOf handler' { call with seq := place call.seq }).map AccountFact.name =
      (accountsOf handler call).map AccountFact.name :=
    map_eq_of_forall₂ accounts fun _ _ related => related.name
  have collisions : ∀ struct, facts'.collidingStructs struct = facts.collidingStructs struct := by
    intro struct
    simp only [FactBase.collidingStructs, FactBase.struct?, structs, groups]
  have target : targetStruct { call with seq := place call.seq } = targetStruct call := rfl
  unfold callFinding? at *
  simp only [target, collisions] at h
  split at h
  · cases h
  · rename_i exposed
    simp only [Bool.or_eq_true, not_or] at exposed
    rcases exposed with ⟨⟨some, unchecked⟩, unmentioned⟩
    -- Each reason to stay silent that held before holds again.
    have before : ¬ (call.refs.isEmpty || (facts.collidingStructs (targetStruct call)).isEmpty ||
        isDiscriminatorChecked handler call ||
        (accountsOf handler call).any handler.possiblyGuarded) = true := by
      simp only [Bool.or_eq_true, not_or]
      refine ⟨⟨some, mt (isDiscriminatorChecked_of_gainsGuards gains) unchecked⟩, ?_⟩
      rw [List.any_eq_true] at *
      rintro ⟨account, member, mentioned⟩
      rcases exists_right_of_forall₂ accounts member with ⟨account', member', related⟩
      exact unmentioned ⟨account', member', gains.possiblyGuarded related mentioned⟩
    rw [if_neg before, ← h]
    simp only [finding, names, gains.name]

theorem mem_scan_of_gainsGuards (structs : facts'.structs = facts.structs)
    (groups : facts'.sizeGroups = facts.sizeGroups) (gains : handler.GainsGuards place handler')
    {f : Finding} (member : f ∈ scan facts' handler') : f ∈ scan facts handler := by
  rcases List.mem_filterMap.1 member with ⟨call', inside', found⟩
  rw [gains.callsNamed] at inside'
  rcases List.mem_map.1 inside' with ⟨call, inside, rfl⟩
  exact List.mem_filterMap.2
    ⟨call, inside, callFinding?_of_gainsGuards structs groups gains found⟩

end TypeConfusion

/-! ## Insecure account close -/

namespace AccountClose

/-- The places where lamports are taken out move, and keep their order. -/
theorem drains_eq (gains : handler.GainsGuards place handler') :
    drains handler' = (drains handler).map fun drain => (place drain.1, drain.2) := by
  have named : ∀ call : CallFact, ((handler'.accountNamed? (receiver call)).map fun account =>
      (place call.seq, account.index, call.location)) =
      ((handler.accountNamed? (receiver call)).map fun account =>
        (call.seq, account.index, call.location)).map fun drain => (place drain.1, drain.2) := by
    intro call
    have accounts := gains.accountNamed? (receiver call)
    generalize handler.accountNamed? (receiver call) = found at accounts
    generalize handler'.accountNamed? (receiver call) = found' at accounts
    cases accounts with
    | none => rfl
    | some related => simp [related.index]
  have writes : (handler'.assignments.filterMap fun assign =>
        if assign.target.segments.contains "lamports" && isDrainValue assign.value then
          assign.targetRef.map fun index => (assign.seq, index, assign.location)
        else none) =
      (handler.assignments.filterMap fun assign =>
        if assign.target.segments.contains "lamports" && isDrainValue assign.value then
          assign.targetRef.map fun index => (assign.seq, index, assign.location)
        else none).map fun drain => (place drain.1, drain.2) := by
    rw [gains.assignments, List.filterMap_map, List.map_filterMap]
    congr 1
    funext assign
    dsimp only [Function.comp]
    split
    · simp [Function.comp_def]
    · rfl
  have calls : ((handler'.callsNamed drainCalls).filterMap fun call =>
        (handler'.accountNamed? (receiver call)).map fun account =>
          (call.seq, account.index, call.location)) =
      ((handler.callsNamed drainCalls).filterMap fun call =>
        (handler.accountNamed? (receiver call)).map fun account =>
          (call.seq, account.index, call.location)).map fun drain => (place drain.1, drain.2) := by
    rw [gains.callsNamed, List.filterMap_map, List.map_filterMap]
    congr 1
    funext call
    exact named call
  rw [drains, drains, List.map_mergeSort (s := fun a b : Nat × Nat × Location =>
    decide (a.1 ≤ b.1)), List.map_append, ← writes, ← calls]
  -- The new positions are ordered as the old ones are.
  rintro ⟨i, _⟩ - ⟨j, _⟩ -
  simp [gains.order.le_iff_le]

theorem drained_eq (gains : handler.GainsGuards place handler') :
    drained handler' = drained handler := by
  have targets : (drains handler').map Prod.snd = (drains handler).map Prod.snd := by
    rw [drains_eq gains, List.map_map]
    rfl
  rw [drained, targets, drained]

theorem reports_eq (gains : handler.GainsGuards place handler')
    (related : account.GainsGuards account') : reports handler' account' = reports handler account := by
  have cleared : clears handler' account' = clears handler account := by
    simp only [clears, gains.assignments, gains.callsNamed, List.any_map, related.index,
      related.name]
    rfl
  rw [reports, cleared, related.isSigner, related.has (by decide), reports]

theorem mem_scan_of_gainsGuards (gains : handler.GainsGuards place handler') {f : Finding}
    (member : f ∈ scan handler') : f ∈ scan handler := by
  rcases List.mem_filterMap.1 member with ⟨⟨index, location⟩, inside, found⟩
  rw [drained_eq gains] at inside
  refine List.mem_filterMap.2 ⟨(index, location), inside, ?_⟩
  dsimp only at *
  split at found
  · rename_i account' at'
    rcases exists_left_of_rel (gains.account? index) at' with ⟨account, here, related⟩
    rw [reports_eq gains related, finding, related.name, gains.name] at found
    rw [here]
    exact found
  · cases found

end AccountClose

/-! ## Duplicate mutable accounts -/

namespace DuplicateAccounts

/-- Related accounts are gathered into related groups, if they are alike in what decides about it. -/
theorem forall₂_groups {r : AccountFact → AccountFact → Prop}
    (accounts : List.Forall₂ r handler.accounts handler'.accounts)
    (eligible : ∀ account account', r account account' → isEligible account' = isEligible account)
    (typed : ∀ account account', r account account' →
      account'.typeKind = account.typeKind ∧ account'.innerType = account.innerType) :
    List.Forall₂ (List.Forall₂ r) (groups handler) (groups handler') := by
  have chosen := forall₂_filter accounts eligible
  -- Related accounts have the same type, so they are gathered into the same groups.
  have keyed : Assoc.Alike r
      ((handler.accounts.filter isEligible).map fun account =>
        ((account.typeKind, account.innerType), account))
      ((handler'.accounts.filter isEligible).map fun account =>
        ((account.typeKind, account.innerType), account)) := by
    rw [Assoc.Alike, List.forall₂_map_left_iff, List.forall₂_map_right_iff]
    refine chosen.imp fun account account' related => ⟨?_, related⟩
    rw [(typed _ _ related).1, (typed _ _ related).2]
  have gathered := Assoc.forall₂_gather keyed
  refine forall₂_filter ?_ fun group group' related => by rw [related.length_eq]
  rw [List.forall₂_map_left_iff, List.forall₂_map_right_iff]
  exact gathered.imp fun _ _ related => related.2

theorem groups_related (gains : handler.GainsGuards place handler') :
    List.Forall₂ (List.Forall₂ AccountFact.GainsGuards) (groups handler) (groups handler') := by
  refine forall₂_groups gains.accounts (fun account account' related => ?_)
    fun account account' related => ⟨related.typeKind, related.innerType⟩
  simp only [isEligible, related.isMut, related.isSigner, related.typeKind, related.isCreated]

/-- The pairs of related lists are related. -/
theorem pairs_related {α β : Type} {r : α → β → Prop} {as : List α} {bs : List β}
    (h : List.Forall₂ r as bs) :
    List.Forall₂ (fun p q => r p.1 q.1 ∧ r p.2 q.2) (pairs as) (pairs bs) := by
  induction h with
  | nil => exact .nil
  | cons head tail ih =>
    refine List.rel_append ?_ ih
    rw [List.forall₂_map_left_iff, List.forall₂_map_right_iff]
    exact tail.imp fun _ _ related => ⟨head, related⟩

theorem areDistinct_of_gainsGuards (gains : handler.GainsGuards place handler')
    {a b a' b' : AccountFact} (first : a.GainsGuards a') (second : b.GainsGuards b')
    (h : areDistinct handler a b = true) : areDistinct handler' a' b' = true := by
  simp only [areDistinct, Bool.or_eq_true] at *
  rcases h with (mentioned | mentioned) | required
  · exact .inl (.inl (gains.possiblyGuarded first mentioned))
  · exact .inl (.inr (gains.possiblyGuarded second mentioned))
  · refine .inr (gains.any_evidence (fun ev holds => ?_) required)
    simp only [requiresDistinct, first.index, second.index] at *
    exact holds

/-- A pair that is still uncovered was uncovered before. -/
theorem exists_mem_uncovered (gains : handler.GainsGuards place handler')
    {group group' : List AccountFact} (related : List.Forall₂ AccountFact.GainsGuards group group')
    {pair' : AccountFact × AccountFact} (member : pair' ∈ uncovered handler' group') :
    ∃ pair ∈ uncovered handler group, pair.1.GainsGuards pair'.1 ∧ pair.2.GainsGuards pair'.2 := by
  rcases List.mem_filter.1 member with ⟨inside', bare⟩
  rcases exists_left_of_forall₂ (pairs_related related) inside' with ⟨pair, inside, first, second⟩
  refine ⟨pair, List.mem_filter.2 ⟨inside, ?_⟩, first, second⟩
  rw [Bool.not_eq_true'] at *
  exact eq_false_of_imp (areDistinct_of_gainsGuards gains first second) bare

theorem uncoveredPairs_finding (handler : HandlerFacts) (first : AccountFact) (names : List String)
    (bare : List (AccountFact × AccountFact)) :
    (finding handler first names bare).uncoveredPairs =
      bare.map fun (a, b) => .texts [a.name, b.name] := rfl

theorem groupFinding?_cons (handler : HandlerFacts) (first : AccountFact) (rest : List AccountFact)
    (bare : uncovered handler (first :: rest) ≠ []) :
    groupFinding? handler (first :: rest) =
      some (finding handler first ((first :: rest).map AccountFact.name)
        (uncovered handler (first :: rest))) := by
  unfold groupFinding?
  split
  · contradiction
  · contradiction
  · rename_i opened _
    rcases List.cons.inj opened with ⟨rfl, -⟩
    rfl

theorem groupFinding?_eq_none (handler : HandlerFacts) (group : List AccountFact)
    (covered : uncovered handler group = []) : groupFinding? handler group = none := by
  unfold groupFinding?
  cases group with
  | nil => rfl
  | cons first rest => rw [covered]

/-- The finding about a group that is still reported was reported before, with all its pairs. -/
theorem groupFinding?_of_gainsGuards (gains : handler.GainsGuards place handler')
    {group group' : List AccountFact} (related : List.Forall₂ AccountFact.GainsGuards group group')
    {f : Finding} (h : groupFinding? handler' group' = some f) :
    ∃ g, groupFinding? handler group = some g ∧ f.Follows g := by
  have names : group'.map AccountFact.name = group.map AccountFact.name :=
    map_eq_of_forall₂ related fun _ _ related => related.name
  have earlier : ∀ pair' ∈ uncovered handler' group', ∃ pair ∈ uncovered handler group,
      pair.1.GainsGuards pair'.1 ∧ pair.2.GainsGuards pair'.2 :=
    fun _ member => exists_mem_uncovered gains related member
  -- A group is reported for its uncovered pairs, and each of these was uncovered before.
  have some' : uncovered handler' group' ≠ [] := by
    intro covered
    rw [groupFinding?_eq_none handler' group' covered] at h
    cases h
  have some : uncovered handler group ≠ [] := by
    rcases List.exists_mem_of_ne_nil _ some' with ⟨pair', member'⟩
    rcases earlier pair' member' with ⟨pair, member, -⟩
    exact List.ne_nil_of_mem member
  cases related with
  | nil => exact absurd rfl some
  | @cons first first' rest rest' head tail =>
    rw [groupFinding?_cons handler' first' rest' some'] at h
    obtain rfl := Option.some.inj h
    refine ⟨_, groupFinding?_cons handler first rest some, rfl, head.location, gains.name, ?_, ?_⟩
    · rw [names]
      rfl
    · rw [uncoveredPairs_finding, uncoveredPairs_finding]
      intro value listed
      rcases List.mem_map.1 listed with ⟨⟨a', b'⟩, member', rfl⟩
      rcases earlier _ member' with ⟨⟨a, b⟩, member, first, second⟩
      refine List.mem_map.2 ⟨(a, b), member, ?_⟩
      dsimp only at first second ⊢
      rw [first.name, second.name]

theorem exists_mem_scan_of_gainsGuards (gains : handler.GainsGuards place handler') {f : Finding}
    (member : f ∈ scan handler') : ∃ g ∈ scan handler, f.Follows g := by
  rcases List.mem_filterMap.1 member with ⟨group', inside', found⟩
  rcases exists_left_of_forall₂ (groups_related gains) inside' with ⟨group, inside, related⟩
  rcases groupFinding?_of_gainsGuards gains related found with ⟨g, found, follows⟩
  exact ⟨g, List.mem_filterMap.2 ⟨group, inside, found⟩, follows⟩

end DuplicateAccounts

/-! ## All built-in detectors -/

namespace Detector

/-- A detector reports nothing about a handler with more guards that it has not reported before. -/
def Guarded (scan : FactBase → HandlerFacts → List Finding) : Prop :=
  ∀ {facts facts' : FactBase} {place : Nat → Nat} {handler handler' : HandlerFacts},
    facts'.structs = facts.structs → facts'.sizeGroups = facts.sizeGroups →
    handler.GainsGuards place handler' →
    ∀ f ∈ scan facts' handler', ∃ g ∈ scan facts handler, f.Follows g

theorem exists_scan_of_mem_builtin {d : Detector} (builtin : d ∈ Detector.builtin) :
    ∃ scan, d = .ofHandlers d.info scan ∧ Guarded scan := by
  simp only [Detector.builtin, List.mem_cons, List.not_mem_nil, or_false] at builtin
  -- One case for each built-in detector, in the order of the registry.
  rcases builtin with rfl | rfl | rfl | rfl | rfl | rfl | rfl | rfl | rfl
  · exact ⟨_, rfl, fun structs _ gains f member =>
      ⟨f, SignerAuthorization.mem_scan_of_gainsGuards structs gains member, .refl f⟩⟩
  · exact ⟨_, rfl, fun _ _ gains f member =>
      ⟨f, OwnerProgram.mem_scan_of_gainsGuards gains member, .refl f⟩⟩
  · exact ⟨_, rfl, fun _ _ gains f member =>
      ⟨f, UncheckedArithmetic.mem_scan_of_gainsGuards gains member, .refl f⟩⟩
  · exact ⟨_, rfl, fun _ _ gains f member =>
      ⟨f, AddressDerivation.mem_scan_of_gainsGuards gains member, .refl f⟩⟩
  · exact ⟨_, rfl, fun _ _ gains f member =>
      ⟨f, ArbitraryInvocation.mem_scan_of_gainsGuards gains member, .refl f⟩⟩
  · exact ⟨_, rfl, fun _ _ gains f member =>
      ⟨f, Reinitialization.mem_scan_of_gainsGuards gains member, .refl f⟩⟩
  · exact ⟨_, rfl, fun structs groups gains f member =>
      ⟨f, TypeConfusion.mem_scan_of_gainsGuards structs groups gains member, .refl f⟩⟩
  · exact ⟨_, rfl, fun _ _ gains f member =>
      DuplicateAccounts.exists_mem_scan_of_gainsGuards gains member⟩
  · exact ⟨_, rfl, fun _ _ gains f member =>
      ⟨f, AccountClose.mem_scan_of_gainsGuards gains member, .refl f⟩⟩

def vault (name : String) : Account :=
  { name, typeTag := "Account<'info, Vault>", isMut := true, span := ⟨0, 1, "", by decide⟩ }

/-- A handler that takes three accounts which may be the same. -/
def merging (body : List BodyNode) : ProgramUnit :=
  { name := "merger"
    file := "merger.json"
    handlers := [{ name := "merge", span := ⟨0, 9, "", by decide⟩, body,
                   params := [vault "a", vault "b", vault "c"] }]
    handlers_distinct := by simp }

def differ : BodyNode :=
  ⟨⟨2, 3, "", by decide⟩, .check (.ofBinary "!=" (.ofPath "a") (.ofPath "b"))⟩

theorem merging_gainsGuard : (merging []).GainsGuard (merging [differ]) where
  handlers := ⟨[], [], _, _, .check [] [] _ _ rfl rfl, rfl, rfl⟩
  name := rfl
  file := rfl
  programId := rfl
  source := rfl
  sources := rfl
  structs := rfl

end Detector

end AccountAudit
