import AccountAudit.Proofs.Detector.GuardMonotone
import AccountAudit.Proofs.Fact.Consistency
import AccountAudit.Proofs.Fact.Diagnostic
import AccountAudit.Proofs.Spelling.Document
import AccountAudit.Proofs.Spelling.Query

/-!
# Findings do not depend on how paths are written

An account is the same whether it is named by itself or through the instruction context, also where one
handler mixes both ways. Every position and flag in the facts is the same, and each built-in detector
reports the same classes at the same places of the same handlers (`FactBase.speltAlike_of_respells`).

It is enough to compare facts with their form in full, and there is one lemma for each detector about a
single handler. Seven detectors report the very same findings (`scan_inFull`); the other two show paths
in the texts of their findings as they are written (`subjects_inFull`).
-/

namespace AccountAudit

/-! ## Signers -/

namespace SignerAuthorization

variable {facts facts' : FactBase} (handler : HandlerFacts) (account : AccountFact)

theorem isCandidate_inFull (structs : facts'.structs = facts.structs) :
    isCandidate facts' account.inFull = isCandidate facts account := by
  simp [isCandidate, dataNamesAuthority, FactBase.struct?, structs]

theorem namesSigner_inFull (signers : List Nat) :
    namesSigner account.inFull signers = namesSigner account signers := by
  unfold namesSigner
  rw [AccountFact.attr?_inFull]
  cases account.attr? "has_one" with
  | none => rfl
  | some value => cases value <;> rfl

theorem isGuarded_inFull : isGuarded handler.inFull account.inFull = isGuarded handler account := by
  have touched := handler.any_evidence_inFull
    (p := fun ev => !ev.unknown && ev.touches account ["is_signer"])
    (q := fun ev => !ev.unknown && ev.touches account.inFull ["is_signer"]) fun ev => by simp
  simp only [isGuarded, HandlerFacts.signerIndices_inFull, namesSigner_inFull, touched,
    AccountFact.index_inFull, HandlerFacts.links_inFull]

theorem finding_inFull : finding handler.inFull account.inFull = finding handler account := by
  simp [finding]

theorem scan_inFull (structs : facts'.structs = facts.structs) :
    scan facts' handler.inFull = scan facts handler := by
  refine map_filter_map_eq (fun account => ?_) (fun account => finding_inFull handler account) _
  rw [reports, isCandidate_inFull account structs, isGuarded_inFull,
    HandlerFacts.possiblyGuarded_inFull, reports]

end SignerAuthorization

/-! ## Owners -/

namespace OwnerProgram

variable (handler : HandlerFacts) (account : AccountFact)

theorem named_inFull (kind : String) : named account.inFull kind = named account kind := by
  unfold named
  rw [AccountFact.attr?_inFull]
  cases account.attr? kind with
  | none => rfl
  | some value => cases value <;> rfl

theorem exempt_inFull : exempt handler.inFull = exempt handler := by
  simp only [exempt, HandlerFacts.inFull, List.flatMap_map, named_inFull]
  exact congrArg (· ++ _) (filterMap_map_eq (fun _ => rfl) _)

theorem reports_inFull : reports handler.inFull account.inFull = reports handler account := by
  have touched := handler.any_evidence_inFull (p := fun ev => ev.touches account ["owner"])
    (q := fun ev => ev.touches account.inFull ["owner"]) fun ev => by simp
  simp only [reports, exempt_inFull, touched, HandlerFacts.possiblyGuarded_inFull,
    AccountFact.typeKind_inFull, AccountFact.isSigner_inFull, AccountFact.index_inFull,
    funext account.has_inFull]

theorem scan_inFull : scan handler.inFull = scan handler :=
  map_filter_map_eq (fun account => reports_inFull handler account) (fun _ => rfl) _

end OwnerProgram

/-! ## Arithmetic -/

namespace UncheckedArithmetic

theorem reports_inFull (site : ArithmeticSite) : reports site.inFull = reports site := by
  have live : site.inFull.hasNonLiteral = site.hasNonLiteral := List.any_map ..
  rw [reports, live]
  rfl

/-- The findings show their operands as they are written, and are the same otherwise. -/
theorem subjects_inFull (handler : HandlerFacts) :
    (scan handler.inFull).map Finding.subject = (scan handler).map Finding.subject := by
  have subject : ∀ site : ArithmeticSite,
      (finding handler.inFull site.inFull).subject = (finding handler site).subject :=
    fun _ => rfl
  rw [scan, scan, List.map_map, List.map_map]
  exact map_filter_map_eq reports_inFull subject handler.arithmetic

end UncheckedArithmetic

/-! ## Derived addresses -/

namespace AddressDerivation

variable (handler : HandlerFacts) (account : AccountFact) (call : CallFact)

/-- Seeds are compared by their literals and roots. -/
theorem seedTokens_inFull (seeds : List Expr) (supplied : List String) :
    seedTokens (seeds.map Expr.inFull) supplied = seedTokens seeds supplied := by
  rw [seedTokens, Expr.flatMap_walk_inFull]
  exact filterMap_map_eq (fun node => by simp) _

theorem isEnforced_inFull (calls : List CallFact) (checks : List CheckFact)
    (supplied : List String) (seeds : List Expr) :
    isEnforced (calls.map CallFact.inFull) (checks.map CheckFact.inFull) supplied
        (seeds.map Expr.inFull) = isEnforced calls checks supplied seeds := by
  have tokens : ∀ call : CallFact, seedTokens (call.inFull.args.take 1) supplied =
      seedTokens (call.args.take 1) supplied := by
    intro call
    rw [CallFact.inFull, ← List.map_take, seedTokens_inFull]
  simp only [isEnforced, seedTokens_inFull, List.any_map, Function.comp_def, tokens,
    CallFact.shortName_inFull]
  rfl

theorem suppliedAmong_inFull (names : List String) :
    suppliedAmong handler.inFull names = suppliedAmong handler names := rfl

theorem accountFinding?_inFull :
    accountFinding? handler.inFull account.inFull = accountFinding? handler account := by
  unfold accountFinding?
  rw [AccountFact.attr?_inFull, AccountFact.attr?_inFull]
  cases account.attr? "seeds" with
  | none => rfl
  | some seeds =>
    cases account.attr? "bump" with
    | none => rfl
    | some bump =>
      cases bump with
      | expression exprs refs =>
        have roots : ((exprs.map Expr.inFull).flatMap fun e => e.paths.map Expr.root) =
            exprs.flatMap fun e => e.paths.map Expr.root := by
          simp [List.flatMap_map]
        have enforced : ∀ supplied : List String, isEnforced handler.inFull.calls
            handler.inFull.checks supplied (seeds.exprs.map Expr.inFull) =
              isEnforced handler.calls handler.checks supplied seeds.exprs :=
          fun supplied => isEnforced_inFull handler.calls handler.checks supplied seeds.exprs
        have inFull : (Resolved.expression exprs refs).inFull =
            .expression (exprs.map Expr.inFull) refs := rfl
        simp only [Option.map_some, inFull, Resolved.exprs_inFull, roots, enforced,
          suppliedAmong_inFull]
        rfl
      | _ => rfl

theorem callFinding?_inFull : callFinding? handler.inFull call.inFull = callFinding? handler call := by
  have earlier : handler.inFull.calls.filter (·.seq < call.inFull.seq) =
      (handler.calls.filter (·.seq < call.seq)).map CallFact.inFull :=
    List.filter_map ..
  have seeds : call.inFull.args.take 1 = (call.args.take 1).map Expr.inFull :=
    List.map_take.symm
  unfold callFinding?
  rw [earlier, seeds, HandlerFacts.checksBefore_inFull]
  simp only [isEnforced_inFull, suppliedAmong_inFull]
  rfl

theorem scan_inFull : scan handler.inFull = scan handler := by
  rw [scan, scan, HandlerFacts.callsNamed_inFull]
  exact congrArg₂ (· ++ ·) (filterMap_map_eq (accountFinding?_inFull handler) _)
    (filterMap_map_eq (callFinding?_inFull handler) _)

end AddressDerivation

/-! ## Invocations -/

namespace ArbitraryInvocation

variable (handler : HandlerFacts) (site : InvokeSite)

theorem isDeclaredProgram_inFull (account : AccountFact) :
    isDeclaredProgram account.inFull = isDeclaredProgram account := by
  simp [isDeclaredProgram, Option.any_map]

theorem comparesTarget_inFull (ev : Evidence) :
    comparesTarget site.inFull ev.inFull = comparesTarget site ev := by
  simp [comparesTarget, InvokeSite.inFull]

theorem isPinned_inFull : isPinned handler.inFull site.inFull = isPinned handler site := by
  have declared : (site.inFull.targetRef.bind handler.inFull.account?).any isDeclaredProgram =
      (site.targetRef.bind handler.account?).any isDeclaredProgram := by
    rw [show site.inFull.targetRef = site.targetRef from rfl]
    cases site.targetRef with
    | none => rfl
    | some index =>
      simp only [Option.bind_some, HandlerFacts.account?_inFull, Option.any_map,
        isDeclaredProgram_inFull]
  have compared : (handler.inFull.evidenceBefore site.inFull.seq).any (comparesTarget site.inFull) =
      (handler.evidenceBefore site.seq).any (comparesTarget site) := by
    rw [HandlerFacts.evidenceBefore_inFull, List.any_map, Function.comp_def,
      funext (comparesTarget_inFull site)]
    rfl
  have kind : site.inFull.target.kind = site.target.kind := Expr.kind_inFull _
  rw [isPinned, declared, compared, kind]
  rfl

/-- The findings show their targets as they are written, and are the same otherwise. -/
theorem subjects_inFull :
    (scan handler.inFull).map Finding.subject = (scan handler).map Finding.subject := by
  have subject : ∀ site : InvokeSite,
      (finding handler.inFull site.inFull).subject = (finding handler site).subject := by
    intro site
    simp only [finding, Finding.subject, DetectorInfo.finding, HandlerFacts.name_inFull]
    rfl
  rw [scan, scan, List.map_map, List.map_map]
  exact map_filter_map_eq (p := fun site => !isPinned handler site)
    (q := fun site => !isPinned handler.inFull site) (fun site => by rw [isPinned_inFull]) subject
    handler.invokes

end ArbitraryInvocation

/-! ## Initialization -/

namespace Reinitialization

variable (handler : HandlerFacts) (account : AccountFact)

theorem flagMayBeChecked_inFull :
    flagMayBeChecked handler.inFull account.inFull = flagMayBeChecked handler account := by
  have touched := handler.any_evidence_inFull (p := fun ev => ev.touches account flagSegments)
    (q := fun ev => ev.touches account.inFull flagSegments) fun ev => by simp
  rw [flagMayBeChecked, touched, HandlerFacts.possiblyGuarded_inFull, flagMayBeChecked]

theorem hasConstantSeeds_inFull : hasConstantSeeds account.inFull = hasConstantSeeds account := by
  unfold hasConstantSeeds
  rw [AccountFact.attr?_inFull]
  cases account.attr? "seeds" with
  | none => rfl
  | some seeds =>
    cases seeds with
    | expression exprs refs =>
      simp [Resolved.inFull, Expr.flatMap_walk_inFull, List.all_map, Function.comp_def]
    | _ => rfl

theorem hasAuthority_inFull : hasAuthority handler.inFull = hasAuthority handler := by
  have fixed : (handler.inFull.signers.any fun signer =>
      (signer.attr? "address").any (!·.isUnknown)) =
      handler.signers.any fun signer => (signer.attr? "address").any (!·.isUnknown) := by
    simp [HandlerFacts.signers_inFull, List.any_map, Option.any_map, Function.comp_def]
  have settled := fun signers : List Nat => handler.any_evidence_inFull
    (p := fun ev => ev.unknown || ev.paths.any (·.contains upgradeAuthority) ||
      (ev.refs.any signers.contains && ev.hasConstant))
    (q := fun ev => ev.unknown || ev.paths.any (·.contains upgradeAuthority) ||
      (ev.refs.any signers.contains && ev.hasConstant)) fun ev => by simp
  simp only [hasAuthority, fixed, HandlerFacts.signerIndices_inFull, settled]

theorem creationFinding?_inFull :
    creationFinding? handler.inFull account.inFull = creationFinding? handler account := by
  have ifNeeded : ifNeededFinding? handler.inFull account.inFull =
      ifNeededFinding? handler account := by
    rw [ifNeededFinding?, flagMayBeChecked_inFull]
    rfl
  have singleton : singletonFinding? handler.inFull account.inFull =
      singletonFinding? handler account := by
    rw [singletonFinding?, hasConstantSeeds_inFull, hasAuthority_inFull,
      HandlerFacts.possiblyGuarded_inFull]
    rfl
  rw [creationFinding?, AccountFact.has_inFull, AccountFact.has_inFull, ifNeeded, singleton,
    creationFinding?]

theorem written_inFull : written handler.inFull = written handler := by
  have writes : ∀ assign : AssignFact, assign.inFull.target.segments = assign.target.segments :=
    fun assign => Expr.segments_inFull _
  unfold written
  refine congrArg (List.filterMap _) (congrArg Assoc.gather (filterMap_map_eq (fun assign => ?_) _))
  rw [writes]
  rfl

theorem rewriteFinding?_inFull (location : Location) :
    rewriteFinding? handler.inFull account.inFull location =
      rewriteFinding? handler account location := by
  have existing : isExisting account.inFull = isExisting account := by simp [isExisting]
  rw [rewriteFinding?, existing, flagMayBeChecked_inFull]
  rfl

theorem scan_inFull : scan handler.inFull = scan handler := by
  have rewrites : rewriteFindings handler.inFull = rewriteFindings handler := by
    have named : isInitializer handler.inFull = isInitializer handler := rfl
    simp only [rewriteFindings, written_inFull, named, HandlerFacts.account?_inFull,
      Option.bind_map, Function.comp_def, rewriteFinding?_inFull]
  rw [scan, scan, rewrites]
  exact congrArg (· ++ _) (filterMap_map_eq (creationFinding?_inFull handler) _)

end Reinitialization

/-! ## Layouts -/

namespace TypeConfusion

variable {facts facts' : FactBase} (handler : HandlerFacts) (call : CallFact)

theorem accountsOf_inFull :
    accountsOf handler.inFull call.inFull = (accountsOf handler call).map AccountFact.inFull := by
  rw [accountsOf, accountsOf, List.map_filterMap]
  exact List.filterMap_congr fun index _ => handler.account?_inFull index

theorem isDiscriminatorChecked_inFull :
    isDiscriminatorChecked handler.inFull call.inFull = isDiscriminatorChecked handler call := by
  rw [isDiscriminatorChecked, HandlerFacts.checksBefore_inFull, HandlerFacts.callsNamed_inFull,
    List.any_map, List.any_map]
  rfl

theorem finding_inFull (struct : String) (collisions : List String) :
    finding handler.inFull call.inFull struct collisions =
      finding handler call struct collisions := by
  have names : (accountsOf handler.inFull call.inFull).map AccountFact.name =
      (accountsOf handler call).map AccountFact.name := by
    rw [accountsOf_inFull, List.map_map]
    rfl
  rw [finding, names]
  rfl

theorem callFinding?_inFull (structs : facts'.structs = facts.structs)
    (sized : facts'.sizeGroups = facts.sizeGroups) :
    callFinding? facts' handler.inFull call.inFull = callFinding? facts handler call := by
  have collisions : facts'.collidingStructs = facts.collidingStructs := by
    funext struct
    simp [FactBase.collidingStructs, FactBase.struct?, structs, sized]
  have struct : targetStruct call.inFull = targetStruct call := rfl
  have unresolved : ((accountsOf handler call).map AccountFact.inFull).any
      handler.inFull.possiblyGuarded = (accountsOf handler call).any handler.possiblyGuarded := by
    rw [List.any_map, Function.comp_def, funext handler.possiblyGuarded_inFull]
  rw [callFinding?, collisions, struct, isDiscriminatorChecked_inFull, accountsOf_inFull,
    unresolved, finding_inFull, callFinding?]
  rfl

theorem scan_inFull (structs : facts'.structs = facts.structs)
    (sized : facts'.sizeGroups = facts.sizeGroups) :
    scan facts' handler.inFull = scan facts handler := by
  rw [scan, scan, HandlerFacts.callsNamed_inFull]
  exact filterMap_map_eq (fun call => callFinding?_inFull handler call structs sized) _

end TypeConfusion

/-! ## Duplicates -/

namespace DuplicateAccounts

variable (handler : HandlerFacts)

theorem areDistinct_inFull (a b : AccountFact) :
    areDistinct handler.inFull a.inFull b.inFull = areDistinct handler a b := by
  have required := handler.any_evidence_inFull (p := (requiresDistinct · a b))
    (q := (requiresDistinct · a.inFull b.inFull)) fun ev => by simp [requiresDistinct]
  simp only [areDistinct, HandlerFacts.possiblyGuarded_inFull, required]

theorem pairs_map {α β : Type} (f : α → β) (items : List α) :
    pairs (items.map f) = (pairs items).map (Prod.map f f) := by
  induction items with
  | nil => rfl
  | cons a rest ih =>
    rw [List.map_cons, pairs, pairs, ih, List.map_append, List.map_map, List.map_map]
    rfl

theorem uncovered_inFull (group : List AccountFact) :
    uncovered handler.inFull (group.map AccountFact.inFull) =
      (uncovered handler group).map (Prod.map AccountFact.inFull AccountFact.inFull) := by
  rw [uncovered, pairs_map, List.filter_map, uncovered]
  exact congrArg _ (List.filter_congr fun pair _ =>
    congrArg not (areDistinct_inFull handler pair.1 pair.2))

theorem groupFinding?_inFull (group : List AccountFact) :
    groupFinding? handler.inFull (group.map AccountFact.inFull) = groupFinding? handler group := by
  have names : (group.map AccountFact.inFull).map AccountFact.name = group.map AccountFact.name := by
    rw [List.map_map]
    rfl
  -- Only names of accounts are shown, so the uncovered pairs need not be the same, but in full.
  unfold groupFinding?
  rw [uncovered_inFull, names]
  cases group with
  | nil => rfl
  | cons first rest =>
    cases uncovered handler (first :: rest) with
    | nil => rfl
    | cons pair bare => simp [finding, Function.comp_def]

theorem groups_inFull :
    groups handler.inFull = (groups handler).map (List.map AccountFact.inFull) := by
  have accounts : List.Forall₂ (fun account account' => account' = account.inFull)
      handler.accounts handler.inFull.accounts :=
    List.forall₂_map_right_iff.2 (List.forall₂_same.2 fun _ _ => rfl)
  -- Neither eligibility nor the type of an account depends on the paths of its attributes.
  have groups := forall₂_groups accounts
    (fun account _ same => by simp [same, isEligible])
    (fun account _ same => by simp [same])
  refine (List.map_id _).symm.trans (map_eq_of_forall₂ groups fun group group' related => ?_)
  exact (List.map_id _).symm.trans (map_eq_of_forall₂ related fun _ _ same => same)

theorem scan_inFull : scan handler.inFull = scan handler := by
  rw [scan, groups_inFull]
  exact filterMap_map_eq (groupFinding?_inFull handler) _

end DuplicateAccounts

/-! ## Closing -/

namespace AccountClose

variable (handler : HandlerFacts) (account : AccountFact)

theorem isDrainValue_inFull (e : Expr) : isDrainValue e.inFull = isDrainValue e := by
  simp [isDrainValue]

theorem drains_inFull : drains handler.inFull = drains handler := by
  unfold drains
  refine congrArg (List.mergeSort · _) (congrArg₂ (· ++ ·) ?writes ?calls)
  case writes =>
    exact filterMap_map_eq (fun assign => by
      simp only [AssignFact.inFull, Expr.segments_inFull, isDrainValue_inFull]) _
  case calls =>
    rw [HandlerFacts.callsNamed_inFull]
    exact filterMap_map_eq (fun call => by
      rw [HandlerFacts.accountNamed?_inFull, Option.map_map]
      rfl) _

theorem drained_inFull : drained handler.inFull = drained handler := by
  rw [drained, drains_inFull, drained]

theorem clears_inFull : clears handler.inFull account.inFull = clears handler account := by
  have overwritten : (handler.inFull.assignments.any fun assign =>
      assign.targetRef == some account.index &&
        assign.target.segments.any clearedSegments.contains) =
      handler.assignments.any fun assign =>
        assign.targetRef == some account.index &&
          assign.target.segments.any clearedSegments.contains := by
    simp [HandlerFacts.inFull, AssignFact.inFull, List.any_map, Function.comp_def]
  rw [clears, HandlerFacts.callsNamed_inFull, List.any_map, AccountFact.index_inFull, overwritten]
  rfl

theorem scan_inFull : scan handler.inFull = scan handler := by
  have reported : ∀ account, reports handler.inFull account.inFull = reports handler account := by
    intro account
    rw [reports, AccountFact.has_inFull, clears_inFull]
    rfl
  rw [scan, drained_inFull, scan]
  refine List.filterMap_congr fun entry _ => ?_
  dsimp only
  rw [HandlerFacts.account?_inFull]
  cases handler.account? entry.1 with
  | none => rfl
  | some account =>
    dsimp only [Option.map_some]
    rw [reported]
    rfl

end AccountClose

/-! ## All built-in detectors -/

/-- What the facts of a handler say in numbers and flags, of each account, event, operation and
invocation. -/
structure HandlerFacts.Marks where
  accounts : List (Nat × List (String × List Nat))
  events : List (Nat × List Nat)
  operands : List (List (Provenance × Option Nat))
  guarded : List Bool
  constant : List Bool
  deriving DecidableEq, Repr

namespace HandlerFacts

def marks (handler : HandlerFacts) : Marks :=
  { accounts := handler.accounts.map fun account =>
      (account.index, account.attributes.map fun said => (said.1, said.2.refs))
    events := handler.events.map fun event => (event.seq, event.indices)
    operands := handler.arithmetic.map fun site =>
      site.operands.map fun operand => (operand.provenance, operand.ref)
    guarded := handler.arithmetic.map ArithmeticSite.guarded
    constant := handler.invokes.map InvokeSite.isConstant }

theorem marks_inFull (handler : HandlerFacts) : handler.inFull.marks = handler.marks := by
  have accounts : ∀ account : AccountFact,
      (account.inFull.attributes.map fun said => (said.1, said.2.refs)) =
        account.attributes.map fun said => (said.1, said.2.refs) := by
    intro account
    simp [AccountFact.inFull, Function.comp_def]
  have refs : ∀ site : ArithmeticSite,
      site.inFull.operands.filterMap Operand.ref = site.operands.filterMap Operand.ref :=
    fun site => filterMap_map_eq (fun _ => rfl) site.operands
  have operands : ∀ site : ArithmeticSite,
      (site.inFull.operands.map fun operand => (operand.provenance, operand.ref)) =
        site.operands.map fun operand => (operand.provenance, operand.ref) := by
    intro site
    simp [ArithmeticSite.inFull, Operand.inFull, Function.comp_def]
  have events : (handler.inFull.events.map fun event => (event.seq, event.indices)) =
      handler.events.map fun event => (event.seq, event.indices) := by
    simp only [HandlerFacts.events, eventLists, inFull, List.map_map, List.map_flatten,
      List.map_cons, List.map_nil, Function.comp_def, BodyFact.indices, refs]
    rfl
  rw [marks, events]
  simp only [inFull, List.map_map, Function.comp_def, accounts, operands]
  rfl

end HandlerFacts

namespace Detector

/-- A detector reports about the same subjects of a handler with every path in full. -/
def SpellingBlind (scan : FactBase → HandlerFacts → List Finding) : Prop :=
  ∀ {facts facts' : FactBase}, facts'.structs = facts.structs →
    facts'.sizeGroups = facts.sizeGroups → ∀ handler : HandlerFacts,
    (scan facts' handler.inFull).map Finding.subject = (scan facts handler).map Finding.subject

theorem exists_spellingBlind_of_mem_builtin {d : Detector} (builtin : d ∈ Detector.builtin) :
    ∃ scan, d = .ofHandlers d.info scan ∧ SpellingBlind scan := by
  simp only [Detector.builtin, List.mem_cons, List.not_mem_nil, or_false] at builtin
  -- One case for each built-in detector, in the order of the registry.
  rcases builtin with rfl | rfl | rfl | rfl | rfl | rfl | rfl | rfl | rfl
  · exact ⟨_, rfl, fun structs _ h => congrArg _ (SignerAuthorization.scan_inFull h structs)⟩
  · exact ⟨_, rfl, fun _ _ h => congrArg _ (OwnerProgram.scan_inFull h)⟩
  · exact ⟨_, rfl, fun _ _ h => UncheckedArithmetic.subjects_inFull h⟩
  · exact ⟨_, rfl, fun _ _ h => congrArg _ (AddressDerivation.scan_inFull h)⟩
  · exact ⟨_, rfl, fun _ _ h => ArbitraryInvocation.subjects_inFull h⟩
  · exact ⟨_, rfl, fun _ _ h => congrArg _ (Reinitialization.scan_inFull h)⟩
  · exact ⟨_, rfl, fun structs sized h => congrArg _ (TypeConfusion.scan_inFull h structs sized)⟩
  · exact ⟨_, rfl, fun _ _ h => congrArg _ (DuplicateAccounts.scan_inFull h)⟩
  · exact ⟨_, rfl, fun _ _ h => congrArg _ (AccountClose.scan_inFull h)⟩

end Detector

namespace FactBase

/-- The same is known of two units and reported about them, apart from how paths are written. -/
structure SpeltAlike (u u' : ProgramUnit) (facts facts' : FactBase) : Prop where
  alike : facts.AlikeInFull facts'
  marks : facts'.handlers.map HandlerFacts.marks = facts.handlers.map HandlerFacts.marks
  subjects : ∀ d ∈ Detector.builtin, ∃ findings findings', d.detect u facts = .ok findings ∧
    d.detect u' facts' = .ok findings' ∧
    findings'.map Finding.subject = findings.map Finding.subject

variable {u u' : ProgramUnit} {facts facts' : FactBase}

/-- What has one value on facts and their form in full has one value on facts that are alike. -/
theorem AlikeInFull.map_eq {α : Type} (alike : facts.AlikeInFull facts')
    {f g : HandlerFacts → α} (inFull : ∀ handler, g handler.inFull = f handler)
    (inFull' : ∀ handler, g handler.inFull = g handler) :
    facts'.handlers.map g = facts.handlers.map f := by
  calc facts'.handlers.map g
      = (facts'.handlers.map HandlerFacts.inFull).map g := by
        rw [List.map_map, show g ∘ HandlerFacts.inFull = g from funext inFull']
    _ = (facts.handlers.map HandlerFacts.inFull).map g := by rw [alike.handlers]
    _ = facts.handlers.map f := by
        rw [List.map_map, show g ∘ HandlerFacts.inFull = f from funext inFull]

theorem AlikeInFull.subjects (alike : facts.AlikeInFull facts') {d : Detector}
    (builtin : d ∈ Detector.builtin) :
    ∃ findings findings', d.detect u facts = .ok findings ∧ d.detect u' facts' = .ok findings' ∧
      findings'.map Finding.subject = findings.map Finding.subject := by
  rcases Detector.exists_spellingBlind_of_mem_builtin builtin with ⟨scan, built, blind⟩
  rw [built]
  refine ⟨_, _, rfl, rfl, ?_⟩
  -- Handler by handler, each of the two lists is that of the facts in full.
  rw [List.map_flatMap, List.map_flatMap, List.flatMap_def, List.flatMap_def]
  exact congrArg List.flatten
    (alike.map_eq (blind alike.structs alike.sizeGroups) (blind rfl rfl))

/-- **Paths in full.** A unit whose attributes are all understood has facts whichever of its paths are
written in full, and the same is known of it and reported about it. -/
theorem speltAlike_of_respells (edit : u.Respells u') (extracted : ofUnit u = .ok facts)
    (resolved : ∀ handler ∈ facts.handlers, handler.Resolves) :
    ∃ facts', ofUnit u' = .ok facts' ∧ SpeltAlike u u' facts facts' := by
  rcases exists_respelled edit extracted resolved with ⟨facts', extracted', alike⟩
  exact ⟨facts', extracted',
    { alike
      marks := alike.map_eq HandlerFacts.marks_inFull HandlerFacts.marks_inFull
      subjects := fun _ builtin => alike.subjects builtin }⟩

/-! ### Both ways of writing in one handler -/

def pathNode (path : String) : Value :=
  .table [(.text "kind", .text "path"), (.text "path", .text path)]

def comparison (lhs rhs : Value) : Value :=
  .table [(.text "kind", .text "binary"), (.text "op", .text "=="), (.text "lhs", lhs),
    (.text "rhs", rhs)]

/-- An account whose constraint compares two paths. -/
def chest (owner : String) : Account :=
  { name := "vault"
    typeTag := "Account<'info, Vault>"
    isMut := true
    attributes := [("constraint", comparison (pathNode owner) (pathNode "owner"))]
    span := .ofLength 0 1 }

/-- A handler that takes an amount from the account after a check, and invokes a program. -/
def forward (owner balance program : String) : Handler :=
  { name := "forward"
    span := .ofLength 0 9
    params := [{ name := "owner", typeTag := "Signer<'info>", span := .ofLength 1 1 }, chest owner,
      { name := "relay", typeTag := "AccountInfo<'info>", span := .ofLength 2 1 }]
    params_distinct := by simp [chest]
    args := [{ name := "amount", typeTag := "u64" }]
    body := [⟨.ofLength 3 1, .check (.ofBinary ">=" (.ofPath balance) (.ofPath "amount"))⟩,
      ⟨.ofLength 4 1, .arith "-" (.ofPath "vault.balance") (.ofPath "amount") none⟩,
      ⟨.ofLength 5 1, .invoke (.ofPath program) false⟩] }

def forwarding (owner balance program : String) : ProgramUnit :=
  { name := "forwarding", file := "forwarding.json", handlers := [forward owner balance program]
    handlers_distinct := by simp }

theorem respells_ofPath {path : String} (short : ¬ Expr.accountsPrefix.toList <+: path.toList) :
    (Expr.ofPath path).Respells (.ofPath (Expr.accountsPrefix ++ path)) :=
  .node (.prefixed _ rfl short) .none .none .nil

def inShort : ProgramUnit := forwarding "vault.owner" "vault.balance" "relay"

def inPart : ProgramUnit :=
  forwarding "ctx.accounts.vault.owner" "ctx.accounts.vault.balance" "ctx.accounts.relay"

theorem respells_inShort : inShort.Respells inPart where
  name := rfl
  file := rfl
  programId := rfl
  source := rfl
  sources := rfl
  structs := rfl
  handlers := by
    have balance : (Expr.ofPath "vault.balance").Respells (.ofPath "ctx.accounts.vault.balance") :=
      respells_ofPath (by decide)
    have program : (Expr.ofPath "relay").Respells (.ofPath "ctx.accounts.relay") :=
      respells_ofPath (by decide)
    have owner : (comparison (pathNode "vault.owner") (pathNode "owner")).Respells
        (comparison (pathNode "ctx.accounts.vault.owner") (pathNode "owner")) := by
      have path : (pathNode "vault.owner").Respells (pathNode "ctx.accounts.vault.owner") :=
        .node (.kept _ (.path _ (by decide) (.nil _)))
      exact .node (.kept _ (.kept _ (.operand _ (.inl rfl) path (.kept _ (.nil _)))))
    have chests : (chest "vault.owner").Respells (chest "ctx.accounts.vault.owner") :=
      ⟨rfl, .cons ⟨rfl, .of_items (by decide) rfl rfl (.cons owner .nil) rfl⟩ .nil⟩
    have check : (Expr.ofBinary ">=" (.ofPath "vault.balance") (.ofPath "amount")).Respells
        (.ofBinary ">=" (.ofPath "ctx.accounts.vault.balance") (.ofPath "amount")) :=
      .node (.kept _) (.some balance) (.some (.refl _)) .nil
    exact .cons
      { name := rfl
        span := rfl
        args := rfl
        params := .cons ⟨rfl, .nil⟩ (.cons chests (.cons ⟨rfl, .nil⟩ .nil))
        body := .cons ⟨rfl, .check check⟩ (.cons ⟨rfl, .arith _ _ (.refl _) (.refl _)⟩
          (.cons ⟨rfl, .invoke _ program⟩ .nil)) } .nil

/-- The check guards the operation and the invocation is reported, whichever way each is written. -/
theorem speltAlike_of_respells_forwarding :
    inShort.Respells inPart ∧ ∃ facts, ofUnit inShort = .ok facts ∧
      (∀ handler ∈ facts.handlers, handler.Resolves) ∧
      facts.handlers.map (·.marks.guarded) = [[true]] ∧
      (∃ findings, ArbitraryInvocation.detector.detect inShort facts = .ok findings ∧
        findings.map Finding.subject =
          [("SOL-005", "forward", ⟨"forwarding.json", 5, 6, none⟩)]) ∧
      ∃ facts', ofUnit inPart = .ok facts' ∧ SpeltAlike inShort inPart facts facts' :=
  ⟨respells_inShort, _, rfl, by decide, by decide, ⟨_, rfl, by decide⟩,
    speltAlike_of_respells respells_inShort rfl (by decide)⟩

end FactBase

end AccountAudit
