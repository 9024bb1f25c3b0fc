import AccountAudit.Proofs.Detector.Conservative
import AccountAudit.Proofs.Detector.Relation
import AccountAudit.Proofs.Flag.Creation

/-!
# What excuses a global account

An account whose seeds are all constants is the only one of its kind, and whoever creates it settles
how it is configured. It is not reported if it may be guarded, or if the handler seems to settle who
may call it. For the latter a guard is enough that has a path from a signer and a constant somewhere
in it (`Evidence.mixes`). A comparison of a signer with a constant has both
(`Evidence.mixes_of_comparesConstant`), but a guard can have them without it: in
`vault.owner == payer && amount > 0` the signer is compared with what the caller supplies, and the
constant with something else.

The main statement `singleton_excused_iff` says which global accounts are excused, and for which of
them this means that a signer was compared with a constant.
-/

namespace AccountAudit

/-! ## Signers and constants -/

namespace Evidence

/-- A guard that was understood has a path from `root` and a constant, each of them anywhere. -/
def mixes (root : String) (ev : Evidence) : Bool :=
  !ev.unknown && ev.hasConstant && ev.startsAt root

theorem mixes_of_comparesConstant {root : String} {ev : Evidence}
    (h : ev.comparesConstant root = true) : ev.mixes root = true := by
  have gathered := gathers_of_comparesConstant h
  simp only [gathers, Bool.and_eq_true] at gathered
  rcases gathered with ⟨⟨⟨known, -⟩, constant⟩, starts⟩
  simp [mixes, known, constant, starts]

end Evidence

namespace HandlerFacts

/-- A guard compares a path from a signer with a constant. -/
def ComparesSigner (facts : HandlerFacts) : Prop :=
  ∃ signer ∈ facts.signers, ∃ ev ∈ facts.evidence, ev.comparesConstant signer.name = true

/-- A guard has a path from a signer and a constant. -/
def MixesSigner (facts : HandlerFacts) : Prop :=
  ∃ signer ∈ facts.signers, ∃ ev ∈ facts.evidence, ev.mixes signer.name = true

/-- Something else than a comparison settles who may call the handler, or may do so. -/
inductive MaySettleCaller (facts : HandlerFacts) : Prop where
  /-- The address of a signer is fixed. -/
  | address {signer : AccountFact} {value : Resolved} (signs : signer ∈ facts.signers)
      (stated : signer.attr? "address" = some value) (known : value.isUnknown = false)
  /-- A guard was not understood. -/
  | unknown {ev : Evidence} (member : ev ∈ facts.evidence) (unknown : ev.unknown = true)
  /-- A guard looks at who may upgrade the program. -/
  | upgrade {ev : Evidence} {path : List String} (member : ev ∈ facts.evidence)
      (inside : path ∈ ev.paths) (named : "upgrade_authority_address" ∈ path)

instance (facts : HandlerFacts) : Decidable facts.ComparesSigner :=
  inferInstanceAs (Decidable (∃ signer ∈ facts.signers, ∃ ev ∈ facts.evidence,
    ev.comparesConstant signer.name = true))

variable {u : ProgramUnit} {h : Handler} {facts : HandlerFacts}

theorem maySettleCaller_iff :
    facts.MaySettleCaller ↔
      (∃ signer ∈ facts.signers, (signer.attr? "address").any (!·.isUnknown) = true) ∨
        ∃ ev ∈ facts.evidence, ev.unknown = true ∨
          ∃ path ∈ ev.paths, "upgrade_authority_address" ∈ path := by
  simp only [Option.any_eq_true, Bool.not_eq_true']
  constructor
  · rintro (⟨signs, stated, known⟩ | ⟨member, unknown⟩ | ⟨member, inside, named⟩)
    · exact .inl ⟨_, signs, _, stated, known⟩
    · exact .inr ⟨_, member, .inl unknown⟩
    · exact .inr ⟨_, member, .inr ⟨_, inside, named⟩⟩
  · rintro (⟨signer, signs, value, stated, known⟩ | ⟨ev, member, unknown | ⟨path, inside, named⟩⟩)
    · exact .address signs stated known
    · exact .unknown member unknown
    · exact .upgrade member inside named

instance (facts : HandlerFacts) : Decidable facts.MaySettleCaller :=
  decidable_of_iff _ maySettleCaller_iff.symm

theorem mixesSigner_of_comparesSigner (compares : facts.ComparesSigner) : facts.MixesSigner := by
  rcases compares with ⟨signer, signs, ev, member, compares⟩
  exact ⟨signer, signs, ev, member, Evidence.mixes_of_comparesConstant compares⟩

/-- A guard that was understood refers to a signer if one of its paths starts there. -/
theorem any_signerIndices_iff (extracted : h.facts u = .ok facts) {ev : Evidence}
    (member : ev ∈ facts.evidence) (known : ev.unknown = false) :
    ev.refs.any (facts.signers.map AccountFact.index).contains = true ↔
      ∃ signer ∈ facts.signers, ev.startsAt signer.name = true := by
  have refers : ∀ signer ∈ facts.signers,
      (signer.index ∈ ev.refs ↔ ev.startsAt signer.name = true) := by
    intro signer signs
    rw [← List.contains_iff_mem, contains_index extracted (List.mem_filter.1 signs).1 member known]
  simp only [List.any_eq_true, List.contains_iff_mem, List.mem_map]
  constructor
  · rintro ⟨index, inside, signer, signs, rfl⟩
    exact ⟨signer, signs, (refers signer signs).1 inside⟩
  · rintro ⟨signer, signs, starts⟩
    exact ⟨signer.index, (refers signer signs).2 starts, signer, signs, rfl⟩

end HandlerFacts

/-! ## Global accounts -/

/-- The account has seeds that were understood, and all that they consist of is constant. -/
structure AccountFact.IsGlobal (account : AccountFact) (seeds : List Expr) : Prop where
  stated : ∃ refs, account.attr? "seeds" = some (.expression seeds refs)
  nonempty : seeds ≠ []
  constant : ∀ e ∈ seeds, ∀ node ∈ e.walk, node.kind ≠ .call → node.kind ≠ .array →
    node.isConstant = true

namespace Reinitialization

open HandlerFacts

variable {u : ProgramUnit} {h : Handler} {base : FactBase} {facts : HandlerFacts}
  {account : AccountFact} {seeds : List Expr} {f : Finding}

theorem hasConstantSeeds_iff :
    hasConstantSeeds account = true ↔ ∃ seeds, account.IsGlobal seeds := by
  have leaf : ∀ node : Expr, (node.kind == .call || node.kind == .array || node.isConstant) = true ↔
      (node.kind ≠ .call → node.kind ≠ .array → node.isConstant = true) := by
    intro node
    simp only [Bool.or_eq_true, beq_iff_eq]
    tauto
  have whole : ∀ seeds : List Expr,
      ((seeds.flatMap Expr.walk).all fun node =>
        node.kind == .call || node.kind == .array || node.isConstant) = true ↔
      ∀ e ∈ seeds, ∀ node ∈ e.walk, node.kind ≠ .call → node.kind ≠ .array →
        node.isConstant = true := by
    intro seeds
    simp only [List.all_flatMap, List.all_eq_true, leaf]
  constructor
  · intro constant
    unfold hasConstantSeeds at constant
    split at constant
    · rename_i seeds refs stated
      rw [Bool.and_eq_true, Bool.not_eq_true', List.isEmpty_eq_false_iff] at constant
      exact ⟨seeds, ⟨refs, stated⟩, constant.1, (whole seeds).1 constant.2⟩
    · cases constant
  · rintro ⟨seeds, ⟨refs, stated⟩, nonempty, constant⟩
    rw [hasConstantSeeds, stated]
    dsimp only
    rw [Bool.and_eq_true, Bool.not_eq_true', List.isEmpty_eq_false_iff]
    exact ⟨nonempty, (whole seeds).2 constant⟩

/-- Whether the caller is settled depends on the signers and the guards. -/
theorem hasAuthority_iff (extracted : h.facts u = .ok facts) :
    hasAuthority facts = true ↔ facts.MaySettleCaller ∨ facts.MixesSigner := by
  rw [hasAuthority, Bool.or_eq_true, maySettleCaller_iff, List.any_eq_true, List.any_eq_true]
  simp only [Bool.or_eq_true, Bool.and_eq_true]
  constructor
  · rintro (addressed | ⟨ev, member, (unknown | named) | ⟨refers, constant⟩⟩)
    · exact .inl (.inl addressed)
    · exact .inl (.inr ⟨ev, member, .inl unknown⟩)
    · rcases List.any_eq_true.1 named with ⟨path, inside, named⟩
      exact .inl (.inr ⟨ev, member, .inr ⟨path, inside, List.contains_iff_mem.1 named⟩⟩)
    -- A guard that was not understood settles the matter, whatever else it has.
    · cases known : ev.unknown with
      | true => exact .inl (.inr ⟨ev, member, .inl known⟩)
      | false =>
        rcases (any_signerIndices_iff extracted member known).1 refers with ⟨signer, signs, starts⟩
        exact .inr ⟨signer, signs, ev, member, by simp [Evidence.mixes, known, constant, starts]⟩
  · rintro ((addressed | ⟨ev, member, unknown | ⟨path, inside, named⟩⟩) |
      ⟨signer, signs, ev, member, mixes⟩)
    · exact .inl addressed
    · exact .inr ⟨ev, member, .inl (.inl unknown)⟩
    · exact .inr ⟨ev, member, .inl (.inr
        (List.any_eq_true.2 ⟨path, inside, List.contains_iff_mem.2 named⟩))⟩
    · simp only [Evidence.mixes, Bool.and_eq_true, Bool.not_eq_true'] at mixes
      rcases mixes with ⟨⟨known, constant⟩, starts⟩
      have refers := (any_signerIndices_iff extracted member known).2 ⟨signer, signs, starts⟩
      exact .inr ⟨ev, member, .inr ⟨refers, constant⟩⟩

/-- A global account is not reported by itself if it may be guarded or the caller is settled. -/
theorem singletonFinding?_eq_none_iff (extracted : h.facts u = .ok facts)
    (isGlobal : account.IsGlobal seeds) :
    singletonFinding? facts account = none ↔
      facts.possiblyGuarded account = true ∨ facts.MaySettleCaller ∨ facts.MixesSigner := by
  rw [← hasAuthority_iff extracted, singletonFinding?, hasConstantSeeds_iff.2 ⟨seeds, isGlobal⟩]
  cases facts.possiblyGuarded account <;> cases hasAuthority facts <;> simp

/-! ### What is reported -/

/-- The finding says that the account is global and may be created by anybody. -/
structure AccusesSingleton (facts : HandlerFacts) (account : AccountFact) (f : Finding) : Prop where
  handler : f.handler = facts.name
  param : f.metadata.lookup "param" = some (.text account.name)
  pattern : pattern f = some (.text "global_singleton")

theorem accuses_of_singletonFinding? (found : singletonFinding? facts account = some f) :
    AccusesSingleton facts account f := by
  have pattern := pattern_of_singleton found
  unfold singletonFinding? at found
  split at found
  · obtain rfl := Option.some.inj found
    exact ⟨rfl, rfl, pattern⟩
  · cases found

/-- A finding with the pattern of global accounts is about an account that the handler initializes. -/
theorem exists_singleton_of_mem_scan (member : f ∈ scan facts)
    (global : pattern f = some (.text "global_singleton")) :
    ∃ account ∈ facts.accounts, singletonFinding? facts account = some f := by
  rcases List.mem_append.1 member with created | rewritten
  · rcases List.mem_filterMap.1 created with ⟨account, inside, found⟩
    unfold creationFinding? at found
    split at found
    · rw [pattern_of_ifNeeded found] at global
      exact absurd global (by decide)
    · split at found
      · exact ⟨account, inside, found⟩
      · cases found
  · have isRewrite := isRewrite_of_mem_rewriteFindings rewritten
    rw [Reinitialization.isRewrite, global] at isRewrite
    exact absurd isRewrite (by decide)

/-- The detector says of no global account that it is this one. -/
def SilentOn (u : ProgramUnit) (base : FactBase) (facts : HandlerFacts) (account : AccountFact) :
    Prop :=
  ∃ findings, detector.detect u base = .ok findings ∧
    ∀ f ∈ findings, ¬ AccusesSingleton facts account f

theorem silentOn_iff (made : FactBase.ofUnit u = .ok base) (present : facts ∈ base.handlers)
    (inside : account ∈ facts.accounts) (created : account.has "init" = true)
    (once : account.has "init_if_needed" = false) :
    SilentOn u base facts account ↔ singletonFinding? facts account = none := by
  refine Detector.forall_not_accuses_iff made present inside (fun other account' f found => ?_)
    (fun f accuses => ⟨accuses.handler, accuses.param⟩) (fun f found => ?_)
    fun other f member accuses => exists_singleton_of_mem_scan member accuses.pattern
  · have about := accuses_of_singletonFinding? found
    exact ⟨about.handler, about.param⟩
  · have creation : creationFinding? facts account = some f := by
      simp [creationFinding?, once, created, found]
    exact ⟨List.mem_append_left _ (List.mem_filterMap.2 ⟨account, inside, creation⟩),
      accuses_of_singletonFinding? found⟩

/-- **Silence about a global account.** A global account is excused exactly if it may be guarded, or
something else than a comparison may settle who calls the handler, or a guard mixes a path from a
signer with a constant. So a comparison of a signer with a constant excuses it; and what excused it
was such a comparison or one of the other reasons, unless a guard mixes both and none compares. -/
theorem singleton_excused_iff (made : FactBase.ofUnit u = .ok base) (present : facts ∈ base.handlers)
    (inside : account ∈ facts.accounts) (created : account.has "init" = true)
    (once : account.has "init_if_needed" = false) (isGlobal : account.IsGlobal seeds) :
    (SilentOn u base facts account ↔
        facts.possiblyGuarded account = true ∨ facts.MaySettleCaller ∨ facts.MixesSigner) ∧
      (facts.possiblyGuarded account = true ∨ facts.MaySettleCaller ∨ facts.ComparesSigner →
        SilentOn u base facts account) ∧
      ((SilentOn u base facts account →
          facts.possiblyGuarded account = true ∨ facts.MaySettleCaller ∨ facts.ComparesSigner) ↔
        (facts.MixesSigner →
          facts.possiblyGuarded account = true ∨ facts.MaySettleCaller ∨ facts.ComparesSigner)) := by
  rcases FactBase.exists_handler_of_mem made present with ⟨h, -, extracted⟩
  have silent := (silentOn_iff made present inside created once).trans
    (singletonFinding?_eq_none_iff extracted isGlobal)
  refine ⟨silent, ?_, ?_⟩
  · rintro (guarded | settled | compares)
    · exact silent.2 (.inl guarded)
    · exact silent.2 (.inr (.inl settled))
    · exact silent.2 (.inr (.inr (mixesSigner_of_comparesSigner compares)))
  · rw [silent]
    constructor
    · exact fun meets mixes => meets (.inr (.inr mixes))
    · rintro meets (guarded | settled | mixes)
      · exact .inl guarded
      · exact .inr (.inl settled)
      · exact meets mixes

/-! ### A guard about something else -/

/-- A handler that creates a global account and checks something. -/
def launch (condition : Expr) : Handler :=
  { name := "launch"
    span := .ofLength 0 9
    params :=
      [{ name := "config", typeTag := "Account<'info, Config>", span := .ofLength 0 1
         attributes := [("init", .bool true), ("seeds", .list [.text "b\"config\""])] },
        { name := "payer", typeTag := "Signer<'info>", span := .ofLength 1 1 },
        { name := "vault", typeTag := "Account<'info, Vault>", span := .ofLength 2 1 }]
    args := [{ name := "amount", typeTag := "u64" }]
    body := [⟨.ofLength 4 1, .check condition⟩]
    params_distinct := by simp }

def launching (condition : Expr) : ProgramUnit :=
  { name := "launching", file := "launching.json", handlers := [launch condition]
    handlers_distinct := by simp }

/-- `payer.key() == admin::ID` -/
def payerIsAdmin : Expr :=
  .ofBinary "==" (.ofPath "payer.key()") (.ofPath "admin::ID")

/-- `vault.owner == payer.key() && amount > 0` -/
def payerOwnsVault : Expr :=
  .ofBinary "&&" (.ofBinary "==" (.ofPath "vault.owner") (.ofPath "payer.key()"))
    (.ofBinary ">" (.ofPath "amount") (.ofValue (.int 0)))

/-- A global account that is created once, and that nothing excuses but a comparison. -/
def IsExposed (facts : HandlerFacts) (account : AccountFact) : Prop :=
  account.has "init" = true ∧ account.has "init_if_needed" = false ∧
    hasConstantSeeds account = true ∧ facts.possiblyGuarded account = false ∧
    ¬ facts.MaySettleCaller

instance (facts : HandlerFacts) (account : AccountFact) : Decidable (IsExposed facts account) :=
  inferInstanceAs (Decidable (_ ∧ _))

/-- The account is not reported if the payer is compared with a known address. -/
theorem singleton_excused_iff_launching :
    ∃ base facts account seeds, FactBase.ofUnit (launching payerIsAdmin) = .ok base ∧
      facts ∈ base.handlers ∧ account ∈ facts.accounts ∧ account.has "init" = true ∧
      account.has "init_if_needed" = false ∧ account.IsGlobal seeds ∧
      facts.possiblyGuarded account = false ∧ ¬ facts.MaySettleCaller ∧
      SilentOn (launching payerIsAdmin) base facts account := by
  have computed : ∃ base facts, FactBase.ofUnit (launching payerIsAdmin) = .ok base ∧
      facts ∈ base.handlers ∧ ∃ account ∈ facts.accounts,
        IsExposed facts account ∧ facts.ComparesSigner :=
    FactBase.exists_handler_of_any (by decide +kernel)
  rcases computed with ⟨base, facts, made, present, account, inside, exposed, compares⟩
  rcases exposed with ⟨created, once, constant, unguarded, unsettled⟩
  rcases hasConstantSeeds_iff.1 constant with ⟨seeds, isGlobal⟩
  exact ⟨base, facts, account, seeds, made, present, inside, created, once, isGlobal, unguarded,
    unsettled, (singleton_excused_iff made present inside created once isGlobal).2.1
      (.inr (.inr compares))⟩

/-- Nor is it if the payer is compared with what an account of the caller's choice holds, once the
guard has a constant anywhere. -/
theorem launching_excused_without_comparison :
    ∃ base facts account seeds, FactBase.ofUnit (launching payerOwnsVault) = .ok base ∧
      facts ∈ base.handlers ∧ account ∈ facts.accounts ∧ account.has "init" = true ∧
      account.has "init_if_needed" = false ∧ account.IsGlobal seeds ∧
      SilentOn (launching payerOwnsVault) base facts account ∧
      ¬ (facts.possiblyGuarded account = true ∨ facts.MaySettleCaller ∨ facts.ComparesSigner) := by
  have computed : ∃ base facts, FactBase.ofUnit (launching payerOwnsVault) = .ok base ∧
      facts ∈ base.handlers ∧ ∃ account ∈ facts.accounts,
        IsExposed facts account ∧ singletonFinding? facts account = none ∧
          ¬ facts.ComparesSigner :=
    FactBase.exists_handler_of_any (by decide +kernel)
  rcases computed with ⟨base, facts, made, present, account, inside, exposed, none, uncompared⟩
  rcases exposed with ⟨created, once, constant, unguarded, unsettled⟩
  rcases hasConstantSeeds_iff.1 constant with ⟨seeds, isGlobal⟩
  have silent : SilentOn (launching payerOwnsVault) base facts account :=
    (silentOn_iff made present inside created once).2 none
  refine ⟨base, facts, account, seeds, made, present, inside, created, once, isGlobal, silent, ?_⟩
  rintro (guarded | settled | compares)
  · rw [guarded] at unguarded
    cases unguarded
  · exact unsettled settled
  · exact uncompared compares

end Reinitialization

end AccountAudit
