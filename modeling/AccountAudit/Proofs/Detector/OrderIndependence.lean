import AccountAudit.Proofs.Detector.Pair
import AccountAudit.Proofs.Order.Query
import Mathlib.Data.List.Nodup

/-!
# The order of accounts does not matter

A built-in detector reports the same findings about a handler whose accounts stand in another order.
One detector names the accounts of a group in their order, and of this one it is shown that the same
pairs of accounts are uncovered. There is one lemma for each detector about a single handler
(`matched_scan`).
-/

namespace AccountAudit

variable {σ : Equiv.Perm Nat} {handler handler' : HandlerFacts} {account account' : AccountFact}
  {facts facts' : FactBase}

/-! ## Missing signer authorization -/

namespace SignerAuthorization

theorem isCandidate_of_reorders (structs : facts'.structs = facts.structs)
    (related : account.Reorders σ account') :
    isCandidate facts' account' = isCandidate facts account := by
  simp only [isCandidate, dataNamesAuthority, FactBase.struct?, structs, related.isSigner,
    related.isMut, related.typeKind, related.isCreated, related.name, related.innerType]

theorem namesSigner_eq (related : account.Reorders σ account') {signers signers' : List Nat}
    (moved : Moved σ signers signers') : namesSigner account' signers' = namesSigner account signers := by
  rw [namesSigner, namesSigner]
  rcases rel_cases (related.attr? "has_one") with ⟨none, none'⟩ | ⟨value, value', said, said', same⟩
  · rw [none, none']
  · rw [said, said']
    cases same with
    | reference targets => exact targets.any_contains moved
    | _ => rfl

theorem isGuarded_eq (h : handler.Reorders σ handler') (related : account.Reorders σ account') :
    isGuarded handler' account' = isGuarded handler account := by
  have signs : (handler'.evidence.any fun ev => !ev.unknown && ev.touches account' ["is_signer"]) =
      handler.evidence.any fun ev => !ev.unknown && ev.touches account ["is_signer"] := by
    simp only [related.touches]
    exact h.any_evidence fun _ _ => rfl
  simp only [isGuarded, namesSigner_eq related h.signerIndices, signs, h.signerIndices.isEmpty_eq,
    related.index, h.links h.signerIndices]

theorem matched_scan (structs : facts'.structs = facts.structs) (h : handler.Reorders σ handler') :
    Matched Eq (scan facts handler) (scan facts' handler') := by
  refine h.matched_accounts.map_filter_eq ?_ ?_ <;> intro account account' related
  · simp only [reports, isCandidate_of_reorders structs related, isGuarded_eq h related,
      h.possiblyGuarded related]
  · simp only [finding, related.name, related.typeTag, related.location, h.name,
      HandlerFacts.Reorders.distinctSorted_names h.signers]

end SignerAuthorization

/-! ## Missing owner checks -/

namespace OwnerProgram

theorem named_moved (related : account.Reorders σ account') (kind : String) :
    Moved σ (named account kind) (named account' kind) := by
  rw [named, named]
  rcases rel_cases (related.attr? kind) with ⟨none, none'⟩ | ⟨value, value', said, said', same⟩
  · rw [none, none']
    exact matched_of_forall₂ .nil
  · rw [said, said']
    cases same with
    | reference targets => exact targets
    | _ => exact matched_of_forall₂ .nil

theorem exempt_moved (h : handler.Reorders σ handler') : Moved σ (exempt handler) (exempt handler') := by
  refine Matched.append ?_ (h.matched_accounts.flatMap fun account account' related =>
    (named_moved related "close").append (named_moved related "payer"))
  have targets : handler'.invokes.filterMap InvokeSite.targetRef =
      (handler.invokes.filterMap InvokeSite.targetRef).map σ := by
    rw [h.invokes, List.filterMap_map, List.map_filterMap]
    rfl
  rw [targets]
  exact matched_map σ _

theorem matched_scan (h : handler.Reorders σ handler') : Matched Eq (scan handler) (scan handler') := by
  refine h.matched_accounts.map_filter_eq ?_ ?_ <;> intro account account' related
  · have owned : (handler'.evidence.any fun ev => ev.touches account' ["owner"]) =
        handler.evidence.any fun ev => ev.touches account ["owner"] := by
      simp only [related.touches]
      exact h.any_evidence fun _ _ => rfl
    simp only [reports, related.typeKind, related.isSigner, related.index, (exempt_moved h).contains,
      funext related.has, owned, h.possiblyGuarded related]
  · simp only [finding, related.name, related.typeKind, related.location, h.name]

end OwnerProgram

/-! ## Unchecked arithmetic -/

namespace UncheckedArithmetic

theorem reports_move (σ : Equiv.Perm Nat) (site : ArithmeticSite) :
    reports (site.move σ) = reports site := by
  simp only [reports, ArithmeticSite.hasNonLiteral, ArithmeticSite.move, List.any_map]
  rfl

theorem finding_move (h : handler.Reorders σ handler') (site : ArithmeticSite) :
    finding handler' (site.move σ) = finding handler site := by
  simp only [finding, origins, ArithmeticSite.move, List.filter_map, List.map_map, h.name]
  rfl

theorem matched_scan (h : handler.Reorders σ handler') : Matched Eq (scan handler) (scan handler') := by
  rw [scan, scan, h.arithmetic]
  refine (matched_map _ handler.arithmetic).map_filter_eq ?_ ?_
  · rintro site _ rfl
    exact reports_move σ site
  · rintro site _ rfl
    exact finding_move h site

end UncheckedArithmetic

/-! ## Non-canonical address derivation -/

namespace AddressDerivation

theorem isEnforced_eq {calls calls' : List CallFact} {checks checks' : List CheckFact}
    (h : List.Forall₂ (CallFact.Reorders σ) calls calls')
    (h' : List.Forall₂ (CheckFact.Reorders σ) checks checks') (supplied : List String)
    (seeds : List Expr) :
    isEnforced calls' checks' supplied seeds = isEnforced calls checks supplied seeds := by
  unfold isEnforced
  dsimp only
  congr 1
  · refine any_eq_of_forall₂ h fun call call' related => ?_
    rw [related.same]
    rfl
  · refine any_eq_of_forall₂ h' fun check check' related => ?_
    rw [related.same]
    rfl

theorem suppliedAmong_of_reorders (h : handler.Reorders σ handler') (names : List String) :
    suppliedAmong handler' names = suppliedAmong handler names := by
  rw [suppliedAmong, h.args, suppliedAmong]

theorem accountFinding?_eq (h : handler.Reorders σ handler') (related : account.Reorders σ account') :
    accountFinding? handler' account' = accountFinding? handler account := by
  rw [accountFinding?, accountFinding?]
  rcases rel_cases (related.attr? "seeds") with ⟨none, none'⟩ | ⟨seeds, seeds', given, given', seeded⟩
  · rw [none, none']
  · rw [given, given']
    rcases rel_cases (related.attr? "bump") with ⟨none, none'⟩ | ⟨bump, bump', given, given', bumped⟩
    · rw [none, none']
    · rw [given, given']
      cases bumped with
      | expression moved =>
        simp only [suppliedAmong_of_reorders h, isEnforced_eq h.calls h.checks, seeded.exprs, h.name,
          related.name, related.location]
      | _ => rfl

theorem callFinding?_eq (h : handler.Reorders σ handler') {call call' : CallFact}
    (related : call.Reorders σ call') : callFinding? handler' call' = callFinding? handler call := by
  have earlier : List.Forall₂ (CallFact.Reorders σ) (handler.calls.filter (·.seq < call.seq))
      (handler'.calls.filter (·.seq < call.seq)) :=
    forall₂_filter h.calls fun _ _ related => by rw [related.same]
  rw [related.same]
  simp only [callFinding?, suppliedAmong_of_reorders h, isEnforced_eq earlier (h.checksBefore _),
    h.name]

theorem matched_scan (h : handler.Reorders σ handler') : Matched Eq (scan handler) (scan handler') :=
  (h.matched_accounts.filterMap_eq fun _ _ => accountFinding?_eq h).append
    ((matched_of_forall₂ (h.callsNamed _)).filterMap_eq fun _ _ => callFinding?_eq h)

end AddressDerivation

/-! ## Arbitrary invocations -/

namespace ArbitraryInvocation

theorem isDeclaredProgram_eq (related : account.Reorders σ account') :
    isDeclaredProgram account' = isDeclaredProgram account := by
  have addressed := any_eq_of_rel (related.attr? "address") (p := (!·.isUnknown))
    (q := (!·.isUnknown)) fun _ _ related => by rw [related.isUnknown]
  rw [isDeclaredProgram, related.typeKind, addressed, isDeclaredProgram]

/-- The account at a position that has moved. -/
theorem rel_bind_account? (h : handler.Reorders σ handler') (index : Option Nat) :
    Option.Rel (AccountFact.Reorders σ) (index.bind handler.account?)
      ((index.map σ).bind handler'.account?) := by
  cases index with
  | none => exact .none
  | some i => exact h.accounts i

theorem comparesTarget_move (site : InvokeSite) {ev ev' : Evidence} (related : ev.Reorders σ ev') :
    comparesTarget (site.move σ) ev' = comparesTarget site ev := by
  have mentions : (site.targetRef.map σ).any ev'.refs.contains =
      site.targetRef.any ev.refs.contains := by
    cases site.targetRef with
    | none => rfl
    | some i => exact related.refs.contains i
  simp only [comparesTarget, InvokeSite.move, mentions]
  rw [related.same]
  rfl

theorem isPinned_move (h : handler.Reorders σ handler') (site : InvokeSite) :
    isPinned handler' (site.move σ) = isPinned handler site := by
  have declared : ((site.targetRef.map σ).bind handler'.account?).any isDeclaredProgram =
      (site.targetRef.bind handler.account?).any isDeclaredProgram :=
    any_eq_of_rel (rel_bind_account? h _) fun _ _ => isDeclaredProgram_eq
  have compared : (handler'.evidenceBefore site.seq).any (comparesTarget (site.move σ)) =
      (handler.evidenceBefore site.seq).any (comparesTarget site) :=
    (h.evidenceBefore site.seq).any_eq fun _ _ => comparesTarget_move site
  rw [isPinned, isPinned, ← declared, ← compared]
  rfl

theorem matched_scan (h : handler.Reorders σ handler') : Matched Eq (scan handler) (scan handler') := by
  rw [scan, scan, h.invokes]
  refine (matched_map _ handler.invokes).map_filter_eq ?_ ?_
  · rintro site _ rfl
    rw [isPinned_move h]
  · rintro site _ rfl
    rw [finding, h.name]
    rfl

end ArbitraryInvocation

/-! ## The first place for each account -/

/-- Places that are gathered by account, of which the first one counts. -/
theorem filterMap_gather_moves {α : Type} (σ : Equiv.Perm Nat) {places places' : List (Nat × α)}
    (moved : places' = places.map (Prod.map σ id)) :
    ((Assoc.gather places').filterMap fun (index, as) => as.head?.map fun a => (index, a)) =
      ((Assoc.gather places).filterMap fun (index, as) => as.head?.map fun a => (index, a)).map
        (Prod.map σ id) := by
  rw [moved, Assoc.gather_map σ.injective, List.filterMap_map, List.map_filterMap]
  refine List.filterMap_congr fun entry _ => ?_
  rw [Option.map_map]
  rfl

/-! ## Repeated and front-run initialization -/

namespace Reinitialization

theorem flagMayBeChecked_eq (h : handler.Reorders σ handler') (related : account.Reorders σ account') :
    flagMayBeChecked handler' account' = flagMayBeChecked handler account := by
  have flagged : (handler'.evidence.any fun ev => ev.touches account' flagSegments) =
      handler.evidence.any fun ev => ev.touches account flagSegments := by
    simp only [related.touches]
    exact h.any_evidence fun _ _ => rfl
  rw [flagMayBeChecked, flagged, h.possiblyGuarded related, flagMayBeChecked]

theorem hasConstantSeeds_eq (related : account.Reorders σ account') :
    hasConstantSeeds account' = hasConstantSeeds account := by
  rw [hasConstantSeeds, hasConstantSeeds]
  rcases rel_cases (related.attr? "seeds") with ⟨none, none'⟩ | ⟨seeds, seeds', given, given', seeded⟩
  · rw [none, none']
  · rw [given, given']
    cases seeded <;> rfl

theorem hasAuthority_eq (h : handler.Reorders σ handler') :
    hasAuthority handler' = hasAuthority handler := by
  unfold hasAuthority
  dsimp only
  congr 1
  · refine h.signers.any_eq fun signer signer' related => ?_
    exact any_eq_of_rel (related.attr? "address") fun _ _ related => by rw [related.isUnknown]
  · refine h.evidence.any_eq fun ev ev' related => ?_
    rw [related.refs.any_contains h.signerIndices, related.same]
    rfl

theorem creationFinding?_eq (h : handler.Reorders σ handler') (related : account.Reorders σ account') :
    creationFinding? handler' account' = creationFinding? handler account := by
  simp only [creationFinding?, ifNeededFinding?, singletonFinding?, related.has,
    flagMayBeChecked_eq h related, hasConstantSeeds_eq related, h.possiblyGuarded related,
    hasAuthority_eq h, h.name, related.name, related.location]

theorem rewriteFinding?_eq (h : handler.Reorders σ handler') (related : account.Reorders σ account')
    (location : Location) :
    rewriteFinding? handler' account' location = rewriteFinding? handler account location := by
  have existing : isExisting account' = isExisting account := by
    rw [isExisting, related.isMut, related.typeKind, related.isCreated, isExisting]
  simp only [rewriteFinding?, existing, flagMayBeChecked_eq h related, h.name, related.name]

theorem written_moves (h : handler.Reorders σ handler') :
    written handler' = (written handler).map (Prod.map σ id) := by
  refine filterMap_gather_moves σ ?_
  rw [h.assignments, List.filterMap_map, List.map_filterMap]
  refine List.filterMap_congr fun assign _ => ?_
  rw [Function.comp, AssignFact.move]
  dsimp only
  split
  · rfl
  · rw [Option.map_map, Option.map_map]
    rfl

theorem matched_rewriteFindings (h : handler.Reorders σ handler') :
    Matched Eq (rewriteFindings handler) (rewriteFindings handler') := by
  have initializes : isInitializer handler' = isInitializer handler := by
    rw [isInitializer, h.name, isInitializer]
  rw [rewriteFindings, rewriteFindings, initializes, written_moves h]
  split
  · refine (matched_map _ (written handler)).filterMap_eq ?_
    rintro ⟨index, location⟩ _ rfl
    dsimp only [Prod.map, HandlerFacts.account?]
    rcases rel_cases (h.accounts index) with
      ⟨none, none'⟩ | ⟨account, account', found, found', related⟩
    · rw [none, none']
      rfl
    · rw [found, found']
      exact rewriteFinding?_eq h related location
  · exact matched_of_forall₂ .nil

theorem matched_scan (h : handler.Reorders σ handler') : Matched Eq (scan handler) (scan handler') :=
  (h.matched_accounts.filterMap_eq fun _ _ => creationFinding?_eq h).append (matched_rewriteFindings h)

end Reinitialization

/-! ## Type confusion -/

namespace TypeConfusion

theorem matched_accountsOf (h : handler.Reorders σ handler') {call call' : CallFact}
    (related : call.Reorders σ call') :
    Matched (AccountFact.Reorders σ) (accountsOf handler call) (accountsOf handler' call') := by
  refine related.refs.filterMap ?_
  rintro i _ rfl
  exact h.accounts i

theorem isDiscriminatorChecked_eq (h : handler.Reorders σ handler') {call call' : CallFact}
    (related : call.Reorders σ call') :
    isDiscriminatorChecked handler' call' = isDiscriminatorChecked handler call := by
  have seq : call'.seq = call.seq := by rw [related.same]
  have checks := any_eq_of_forall₂ (h.checksBefore call.seq)
    (p := fun check => check.paths.any isDiscriminatorPath)
    (q := fun check => check.paths.any isDiscriminatorPath) fun _ _ related => by rw [related.same]
  have calls := any_eq_of_forall₂ (h.callsNamed discriminatorCalls)
    (p := fun other => decide (other.seq < call.seq))
    (q := fun other => decide (other.seq < call.seq)) fun _ _ related => by rw [related.same]
  rw [isDiscriminatorChecked, seq, checks, calls, isDiscriminatorChecked]

theorem callFinding?_eq (structs : facts'.structs = facts.structs)
    (groups : facts'.sizeGroups = facts.sizeGroups) (h : handler.Reorders σ handler')
    {call call' : CallFact} (related : call.Reorders σ call') :
    callFinding? facts' handler' call' = callFinding? facts handler call := by
  have target : targetStruct call' = targetStruct call := by
    rw [related.same]
    rfl
  have location : call'.location = call.location := by rw [related.same]
  have guarded := (matched_accountsOf h related).any_eq fun _ _ => h.possiblyGuarded
  have collisions : facts'.collidingStructs = facts.collidingStructs := by
    funext name
    rw [FactBase.collidingStructs, FactBase.struct?, structs, groups, FactBase.collidingStructs,
      FactBase.struct?]
  simp only [callFinding?, finding, target, location, guarded, collisions, h.name,
    related.refs.isEmpty_eq, isDiscriminatorChecked_eq h related,
    HandlerFacts.Reorders.distinctSorted_names (matched_accountsOf h related)]

theorem matched_scan (structs : facts'.structs = facts.structs)
    (groups : facts'.sizeGroups = facts.sizeGroups) (h : handler.Reorders σ handler') :
    Matched Eq (scan facts handler) (scan facts' handler') :=
  (matched_of_forall₂ (h.callsNamed _)).filterMap_eq fun _ _ => callFinding?_eq structs groups h

end TypeConfusion

/-! ## Insecure account close -/

namespace AccountClose

theorem receiver_of_reorders {call call' : CallFact} (related : call.Reorders σ call') :
    receiver call' = receiver call := by
  rw [related.same]
  rfl

/-- Lamports are taken out at the same places, of accounts that have moved. -/
theorem drains_moves (h : handler.Reorders σ handler') :
    drains handler' = (drains handler).map fun drain => (drain.1, Prod.map σ id drain.2) := by
  have writes : (handler'.assignments.filterMap fun assign =>
        if assign.target.segments.contains "lamports" && isDrainValue assign.value then
          assign.targetRef.map fun index => (assign.seq, index, assign.location)
        else none) =
      (handler.assignments.filterMap fun assign =>
        if assign.target.segments.contains "lamports" && isDrainValue assign.value then
          assign.targetRef.map fun index => (assign.seq, index, assign.location)
        else none).map fun drain => (drain.1, Prod.map σ id drain.2) := by
    rw [h.assignments, List.filterMap_map, List.map_filterMap]
    refine List.filterMap_congr fun assign _ => ?_
    rw [Function.comp, AssignFact.move]
    dsimp only
    split
    · rw [Option.map_map, Option.map_map]
      rfl
    · rfl
  have calls : ((handler'.callsNamed drainCalls).filterMap fun call =>
        (handler'.accountNamed? (receiver call)).map fun account =>
          (call.seq, account.index, call.location)) =
      ((handler.callsNamed drainCalls).filterMap fun call =>
        (handler.accountNamed? (receiver call)).map fun account =>
          (call.seq, account.index, call.location)).map fun drain =>
            (drain.1, Prod.map σ id drain.2) := by
    rw [List.map_filterMap]
    refine filterMap_eq_of_forall₂ (h.callsNamed drainCalls) fun call call' related => ?_
    rw [receiver_of_reorders related, related.same]
    rcases rel_cases (h.accountNamed? (receiver call)) with
      ⟨none, none'⟩ | ⟨account, account', found, found', moved⟩
    · rw [none, none']
      rfl
    · rw [found, found']
      simp [moved.index]
  -- All of them are sorted by their steps, which do not move.
  rw [drains, drains, List.map_mergeSort (s := fun a b : Nat × Nat × Location =>
    decide (a.1 ≤ b.1)), List.map_append, ← writes, ← calls]
  rintro ⟨i, _⟩ - ⟨j, _⟩ -
  rfl

theorem drained_moves (h : handler.Reorders σ handler') :
    drained handler' = (drained handler).map (Prod.map σ id) := by
  refine filterMap_gather_moves σ ?_
  rw [drains_moves h, List.map_map, List.map_map]
  rfl

theorem clears_eq (h : handler.Reorders σ handler') (related : account.Reorders σ account') :
    clears handler' account' = clears handler account := by
  have writes : (handler'.assignments.any fun assign =>
        assign.targetRef == some account'.index &&
          assign.target.segments.any clearedSegments.contains) =
      handler.assignments.any fun assign => assign.targetRef == some account.index &&
        assign.target.segments.any clearedSegments.contains := by
    rw [h.assignments, related.index]
    refine (matched_map _ handler.assignments).any_eq ?_
    rintro assign _ rfl
    have same : (assign.targetRef.map σ == some (σ account.index)) =
        (assign.targetRef == some account.index) := by
      cases assign.targetRef with
      | none => rfl
      | some i => exact σ.injective.beq_eq
    rw [AssignFact.move, same]
  have calls : ((handler'.callsNamed clearingCalls).any fun call =>
        receiver call == account'.name || call.refs.contains account'.index) =
      (handler.callsNamed clearingCalls).any fun call =>
        receiver call == account.name || call.refs.contains account.index := by
    refine any_eq_of_forall₂ (h.callsNamed clearingCalls) fun call call' moved => ?_
    rw [receiver_of_reorders moved, related.name, related.index, moved.refs.contains]
  rw [clears, writes, calls, clears]

theorem reports_of_reorders (h : handler.Reorders σ handler') (related : account.Reorders σ account') :
    reports handler' account' = reports handler account := by
  rw [reports, related.isSigner, related.has, clears_eq h related, reports]

theorem matched_scan (h : handler.Reorders σ handler') : Matched Eq (scan handler) (scan handler') := by
  rw [scan, scan, drained_moves h]
  refine (matched_map _ (drained handler)).filterMap_eq ?_
  rintro ⟨index, location⟩ _ rfl
  dsimp only [Prod.map, HandlerFacts.account?, id]
  rcases rel_cases (h.accounts index) with
    ⟨none, none'⟩ | ⟨account, account', found, found', related⟩
  · rw [none, none']
  · rw [found, found']
    dsimp only
    rw [reports_of_reorders h related, finding, related.name, h.name, ← finding]

end AccountClose

/-! ## Duplicate mutable accounts -/

/-- The finding lists two accounts as an uncovered pair, in one order or the other. -/
def Finding.ListsPair (f : Finding) (x y : String) : Prop :=
  .texts [x, y] ∈ f.uncoveredPairs ∨ .texts [y, x] ∈ f.uncoveredPairs

namespace DuplicateAccounts

theorem isEligible_eq (related : account.Reorders σ account') :
    isEligible account' = isEligible account := by
  rw [isEligible, related.isMut, related.isSigner, related.typeKind, related.isCreated, isEligible]

theorem areDistinct_eq (h : handler.Reorders σ handler') {a b a' b' : AccountFact}
    (first : a.Reorders σ a') (second : b.Reorders σ b') :
    areDistinct handler' a' b' = areDistinct handler a b := by
  have required : handler'.evidence.any (requiresDistinct · a' b') =
      handler.evidence.any (requiresDistinct · a b) := by
    refine h.evidence.any_eq fun ev ev' related => ?_
    rw [requiresDistinct, first.index, second.index, related.refs.contains, related.refs.contains,
      related.same]
    rfl
  rw [areDistinct, h.possiblyGuarded first, h.possiblyGuarded second, required, areDistinct]

theorem confusable_iff (h : handler.Reorders σ handler') {a b a' b' : AccountFact}
    (first : a.Reorders σ a') (second : b.Reorders σ b') (inside : a ∈ handler.accounts)
    (inside' : a' ∈ handler'.accounts) (within : b ∈ handler.accounts)
    (within' : b' ∈ handler'.accounts) : Confusable handler' a' b' ↔ Confusable handler a b := by
  have types : typeOf a' = typeOf b' ↔ typeOf a = typeOf b := by
    rw [typeOf, first.typeKind, first.innerType, typeOf, second.typeKind, second.innerType, typeOf,
      typeOf]
  constructor
  · rintro ⟨-, -, eligible, eligible', type, bare⟩
    exact ⟨inside, within, isEligible_eq first ▸ eligible, isEligible_eq second ▸ eligible',
      types.1 type, areDistinct_eq h first second ▸ bare⟩
  · rintro ⟨-, -, eligible, eligible', type, bare⟩
    exact ⟨inside', within', (isEligible_eq first).trans eligible,
      (isEligible_eq second).trans eligible', types.2 type,
      (areDistinct_eq h first second).trans bare⟩

theorem texts_pair_injective {x y x' y' : String} (same : Value.texts [x, y] = Value.texts [x', y']) :
    x = x' ∧ y = y' := by
  simpa [Value.texts] using same

theorem exists_listsPair {x y : String} :
    (∃ f ∈ scan handler, f.ListsPair x y) ↔
      ∃ a b, a.name = x ∧ b.name = y ∧ ((∃ group ∈ groups handler, (a, b) ∈ uncovered handler group) ∨
        ∃ group ∈ groups handler, (b, a) ∈ uncovered handler group) := by
  have listed : (∃ f ∈ scan handler, f.ListsPair x y) ↔
      (∃ f ∈ scan handler, .texts [x, y] ∈ f.uncoveredPairs) ∨
        ∃ f ∈ scan handler, .texts [y, x] ∈ f.uncoveredPairs := by
    simp only [Finding.ListsPair, and_or_left, exists_or]
  rw [listed, exists_listed_iff, exists_listed_iff]
  constructor
  · rintro (⟨a, b, bare, same⟩ | ⟨b, a, bare, same⟩)
    · obtain ⟨rfl, rfl⟩ := texts_pair_injective same
      exact ⟨a, b, rfl, rfl, .inl bare⟩
    · obtain ⟨rfl, rfl⟩ := texts_pair_injective same
      exact ⟨a, b, rfl, rfl, .inr bare⟩
  · rintro ⟨a, b, rfl, rfl, bare | bare⟩
    · exact .inl ⟨a, b, bare, rfl⟩
    · exact .inr ⟨b, a, bare, rfl⟩

/-- Two names are listed as a pair if nothing tells that the accounts differ. -/
theorem exists_listsPair_iff (names : (handler.accounts.map AccountFact.name).Nodup) {x y : String} :
    (∃ f ∈ scan handler, f.ListsPair x y) ↔
      x ≠ y ∧ ∃ a b, a.name = x ∧ b.name = y ∧ Confusable handler a b := by
  simp only [exists_listsPair, exists_uncovered_iff names.of_map]
  constructor
  · rintro ⟨a, b, rfl, rfl, different, confusable⟩
    have apart : a.name ≠ b.name := fun same =>
      different (List.inj_on_of_nodup_map names confusable.first confusable.second same)
    exact ⟨apart, a, b, rfl, rfl, confusable⟩
  · rintro ⟨apart, a, b, rfl, rfl, confusable⟩
    exact ⟨a, b, rfl, rfl, fun same => apart (congrArg AccountFact.name same), confusable⟩

theorem exists_listsPair_of_reorders (h : handler.Reorders σ handler') (x y : String) :
    (∃ f ∈ scan handler', f.ListsPair x y) ↔ ∃ f ∈ scan handler, f.ListsPair x y := by
  rw [exists_listsPair_iff h.names.distinct', exists_listsPair_iff h.names.distinct]
  refine and_congr_right fun _ => ?_
  constructor
  · rintro ⟨a', b', rfl, rfl, confusable⟩
    rcases h.matched_accounts.left a' confusable.first with ⟨a, inside, first⟩
    rcases h.matched_accounts.left b' confusable.second with ⟨b, within, second⟩
    exact ⟨a, b, first.name.symm, second.name.symm,
      (confusable_iff h first second inside confusable.first within confusable.second).1 confusable⟩
  · rintro ⟨a, b, rfl, rfl, confusable⟩
    rcases h.matched_accounts.right a confusable.first with ⟨a', inside, first⟩
    rcases h.matched_accounts.right b confusable.second with ⟨b', within, second⟩
    exact ⟨a', b', first.name, second.name,
      (confusable_iff h first second confusable.first inside confusable.second within).2 confusable⟩

end DuplicateAccounts

/-! ## All built-in detectors -/

namespace Detector

/-- A detector reports the same about a handler whose accounts stand in another order. -/
def OrderBlind (scan : FactBase → HandlerFacts → List Finding) : Prop :=
  ∀ {facts facts' : FactBase} {σ : Equiv.Perm Nat} {handler handler' : HandlerFacts},
    facts'.structs = facts.structs → facts'.sizeGroups = facts.sizeGroups →
    handler.Reorders σ handler' → Matched Eq (scan facts handler) (scan facts' handler')

theorem exists_orderBlind_of_mem_builtin {d : Detector} (builtin : d ∈ Detector.builtin)
    (other : d.info.classId ≠ DuplicateAccounts.info.classId) :
    ∃ scan, d = .ofHandlers d.info scan ∧ OrderBlind scan := by
  simp only [Detector.builtin, List.mem_cons, List.not_mem_nil, or_false] at builtin
  -- One case for each built-in detector, in the order of the registry.
  rcases builtin with rfl | rfl | rfl | rfl | rfl | rfl | rfl | rfl | rfl
  · exact ⟨_, rfl, fun structs _ h => SignerAuthorization.matched_scan structs h⟩
  · exact ⟨_, rfl, fun _ _ h => OwnerProgram.matched_scan h⟩
  · exact ⟨_, rfl, fun _ _ h => UncheckedArithmetic.matched_scan h⟩
  · exact ⟨_, rfl, fun _ _ h => AddressDerivation.matched_scan h⟩
  · exact ⟨_, rfl, fun _ _ h => ArbitraryInvocation.matched_scan h⟩
  · exact ⟨_, rfl, fun _ _ h => Reinitialization.matched_scan h⟩
  · exact ⟨_, rfl, fun structs groups h => TypeConfusion.matched_scan structs groups h⟩
  · exact absurd rfl other
  · exact ⟨_, rfl, fun _ _ h => AccountClose.matched_scan h⟩

end Detector

namespace FactBase

/-- The same is reported about two units: the same findings, except that one detector may list the
accounts of a group in another order; of this one, the same uncovered pairs of accounts; and the same
diagnostics, each equally often. -/
structure ReportedAlike (u u' : ProgramUnit) (facts facts' : FactBase) : Prop where
  findings : ∀ d ∈ Detector.builtin, d.info.classId ≠ DuplicateAccounts.info.classId →
    ∃ findings findings', d.detect u facts = .ok findings ∧ d.detect u' facts' = .ok findings' ∧
      ∀ f, f ∈ findings' ↔ f ∈ findings
  pairs : ∃ findings findings', DuplicateAccounts.detector.detect u facts = .ok findings ∧
    DuplicateAccounts.detector.detect u' facts' = .ok findings' ∧
    ∀ handler x y, (∃ f ∈ findings', f.handler = handler ∧ f.ListsPair x y) ↔
      ∃ f ∈ findings, f.handler = handler ∧ f.ListsPair x y
  diagnostics : facts'.diagnostics.Perm facts.diagnostics

variable {u u' : ProgramUnit} {facts facts' : FactBase}

theorem matched_detect (h : facts.Reorders facts') {d : Detector} (builtin : d ∈ Detector.builtin)
    (other : d.info.classId ≠ DuplicateAccounts.info.classId) :
    ∃ findings findings', d.detect u facts = .ok findings ∧ d.detect u' facts' = .ok findings' ∧
      ∀ f, f ∈ findings' ↔ f ∈ findings := by
  rcases Detector.exists_orderBlind_of_mem_builtin builtin other with ⟨scan, built, blind⟩
  rw [built]
  refine ⟨_, _, rfl, rfl, Matched.mem_iff ?_⟩
  refine (matched_of_forall₂ h.handlers).flatMap ?_
  rintro handler handler' ⟨σ, related⟩
  exact blind h.structs h.sizeGroups related

/-- The pairs that are listed for a handler of a name. -/
theorem exists_detected_pair_iff {handler x y : String} :
    (∃ f ∈ facts.handlers.flatMap DuplicateAccounts.scan, f.handler = handler ∧ f.ListsPair x y) ↔
      ∃ found ∈ facts.handlers, found.name = handler ∧
        ∃ f ∈ DuplicateAccounts.scan found, f.ListsPair x y := by
  constructor
  · rintro ⟨f, member, rfl, listed⟩
    rcases List.mem_flatMap.1 member with ⟨found, inside, reported⟩
    rcases DuplicateAccounts.mem_scan_iff.1 reported with ⟨first, rest, -, -, rfl⟩
    exact ⟨found, inside, rfl, _, reported, listed⟩
  · rintro ⟨found, inside, rfl, f, reported, listed⟩
    refine ⟨f, List.mem_flatMap.2 ⟨found, inside, reported⟩, ?_, listed⟩
    rcases DuplicateAccounts.mem_scan_iff.1 reported with ⟨first, rest, -, -, rfl⟩
    rfl

theorem pairs_of_reorders (h : facts.Reorders facts') (handler x y : String) :
    (∃ f ∈ facts'.handlers.flatMap DuplicateAccounts.scan, f.handler = handler ∧ f.ListsPair x y) ↔
      ∃ f ∈ facts.handlers.flatMap DuplicateAccounts.scan, f.handler = handler ∧ f.ListsPair x y := by
  rw [exists_detected_pair_iff, exists_detected_pair_iff]
  constructor
  · rintro ⟨found', inside', rfl, listed⟩
    rcases exists_left_of_forall₂ h.handlers inside' with ⟨found, inside, σ, related⟩
    exact ⟨found, inside, related.name.symm,
      (DuplicateAccounts.exists_listsPair_of_reorders related x y).1 listed⟩
  · rintro ⟨found, inside, rfl, listed⟩
    rcases exists_right_of_forall₂ h.handlers inside with ⟨found', inside', σ, related⟩
    exact ⟨found', inside', related.name,
      (DuplicateAccounts.exists_listsPair_of_reorders related x y).2 listed⟩

/-- **Order of accounts.** A unit has facts whatever the order in which its handlers declare their
accounts, and the same is reported about it. -/
theorem reportedAlike_of_reorders (h : u.Reorders u') (made : ofUnit u = .ok facts) :
    ∃ facts', ofUnit u' = .ok facts' ∧ ReportedAlike u u' facts facts' := by
  rcases exists_reordered h made with ⟨facts', made', related⟩
  exact ⟨facts', made',
    { findings := fun d builtin other => matched_detect related builtin other
      pairs := ⟨_, _, rfl, rfl, pairs_of_reorders related⟩
      diagnostics := related.diagnostics }⟩

/-! ### Two accounts that change places -/

def purse (name : String) (place : Nat) : Account :=
  { name, typeTag := "Account<'info, Purse>", isMut := true, span := .ofLength place 1 }

/-- A unit with a handler that takes two accounts and adds up their totals. -/
def pooling (params : List Account) (distinct : (params.map Account.name).Nodup) : ProgramUnit :=
  { name := "pooling"
    file := "pooling.json"
    handlers := [{ name := "pool", span := .ofLength 0 9, params, params_distinct := distinct,
                   body := [⟨.ofLength 4 1, .arith "+" (.ofPath "source.total") (.ofPath "target.total")
                     none⟩] }]
    handlers_distinct := by simp }

def pool : ProgramUnit :=
  pooling [purse "source" 0, purse "target" 1] (by decide)

def swappedPool : ProgramUnit :=
  pooling [purse "target" 1, purse "source" 0] (by decide)

theorem reorders_pool : pool.Reorders swappedPool where
  handlers := .cons ⟨.swap _ _ _, rfl, rfl, rfl, rfl⟩ .nil
  name := rfl
  file := rfl
  programId := rfl
  source := rfl
  sources := rfl
  structs := rfl

/-- The two accounts are listed as a pair, and the sum is reported, in either order. -/
theorem reportedAlike_of_reorders_pool :
    ∃ facts, ofUnit pool = .ok facts ∧ pool.Reorders swappedPool ∧
      (∃ findings, DuplicateAccounts.detector.detect pool facts = .ok findings ∧
        findings.map Finding.uncoveredPairs = [[.texts ["source", "target"]]]) ∧
      (∃ findings, UncheckedArithmetic.detector.detect pool facts = .ok findings ∧
        findings.map (·.location) = [⟨"pooling.json", 4, 5, none⟩]) ∧
      ∃ facts', ofUnit swappedPool = .ok facts' ∧ ReportedAlike pool swappedPool facts facts' :=
  ⟨_, rfl, reorders_pool, ⟨_, rfl, by decide⟩, ⟨_, rfl, by decide⟩,
    reportedAlike_of_reorders reorders_pool rfl⟩

end FactBase

end AccountAudit
