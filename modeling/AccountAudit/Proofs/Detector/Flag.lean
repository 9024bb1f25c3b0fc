import AccountAudit.Proofs.Detector.Locality
import AccountAudit.Proofs.Flag.Blind
import AccountAudit.Proofs.Flag.Duplicate

/-!
# Flags that are not set, and no flags

Extraction reads flags by their value, so a flag that is given as not set should be as good as none. For
six of the nine built-in detectors it is. The other three ask whether an account has an attribute that
creates it, whatever the attribute says, and for each of these `Detector.detect_without` has the
condition under which, and only under which, it reports something else once the attribute is taken away.
-/

namespace AccountAudit

variable {handler : HandlerFacts} {account : AccountFact} {kind : String}

namespace Detector

variable {u : ProgramUnit} {facts : FactBase}

/-- A denied flag of a declared account is a denied flag of its facts. -/
theorem denies_of_extracted {h : Handler} {found : HandlerFacts} (made : h.facts u = .ok found)
    {declared : Account} (inside : declared ∈ h.params) (off : declared.IsOff kind) :
    ∃ fact, fact.name = declared.name ∧ found.Denies fact kind := by
  rcases HandlerFacts.exists_account made inside with ⟨fact, present, index, built⟩
  have named : fact.name = declared.name := AccountFact.name_of_ofAccount built
  refine ⟨fact, named,
    { inside := present
      off := AccountFact.isOff_of_ofAccount built off
      names := ?_
      positions := fun other => Handler.getElem?_accounts made }⟩
  rw [Handler.names_of_facts made]
  exact h.params_distinct

/-- Of all handlers only the one that is edited can make a difference. -/
theorem detect_without_iff {scan : FactBase → HandlerFacts → List Finding} (isLocal : IsLocal scan)
    {d : Detector} (built : d = .ofHandlers d.info scan)
    (distinct : (facts.handlers.map HandlerFacts.name).Nodup) (inside : handler ∈ facts.handlers)
    (u u' : ProgramUnit) (name kind : String) :
    d.detect u' (facts.without handler.name name kind) = d.detect u facts ↔
      scan facts (handler.without name kind) = scan facts handler := by
  have layouts : scan (facts.without handler.name name kind) = scan facts :=
    isLocal.layouts facts _ rfl rfl
  have others : ∀ other ∈ facts.handlers, other ≠ handler →
      scan facts (other.withoutAt handler.name name kind) = scan facts other := by
    intro other present ne
    have elsewhere : other.name ≠ handler.name := fun same =>
      ne (List.inj_on_of_nodup_map distinct present inside same)
    rw [HandlerFacts.withoutAt, if_neg elsewhere]
  have here : handler.withoutAt handler.name name kind = handler.without name kind := if_pos rfl
  have edited : (facts.without handler.name name kind).handlers =
      facts.handlers.map (HandlerFacts.withoutAt handler.name name kind) := rfl
  rw [built]
  simp only [ofHandlers, layouts, Except.ok.injEq, edited, List.flatMap_map]
  rw [flatMap_eq_flatMap_iff distinct.of_map inside others, here]

/-- Most detectors do not see flags that are not set. -/
theorem exists_blind_of_mem_builtin {d : Detector} (builtin : d ∈ Detector.builtin)
    (other : d ∉ [SignerAuthorization.detector, Reinitialization.detector,
      DuplicateAccounts.detector]) :
    ∃ scan, d = .ofHandlers d.info scan ∧ IsLocal scan ∧
      ∀ facts {handler handler' : HandlerFacts}, handler.Loses kind handler' →
        scan facts handler' = scan facts handler := by
  simp only [Detector.builtin, List.mem_cons, List.not_mem_nil, or_false] at builtin
  rcases builtin with rfl | rfl | rfl | rfl | rfl | rfl | rfl | rfl | rfl
  · exact absurd (by simp) other
  · exact ⟨_, rfl, OwnerProgram.isLocal, fun _ _ _ => OwnerProgram.scan_of_loses⟩
  · exact ⟨_, rfl, UncheckedArithmetic.isLocal, fun _ _ _ => UncheckedArithmetic.scan_of_loses⟩
  · exact ⟨_, rfl, AddressDerivation.isLocal, fun _ _ _ => AddressDerivation.scan_of_loses⟩
  · exact ⟨_, rfl, ArbitraryInvocation.isLocal, fun _ _ _ => ArbitraryInvocation.scan_of_loses⟩
  · exact absurd (by simp) other
  · exact ⟨_, rfl, TypeConfusion.isLocal, fun facts _ _ => TypeConfusion.scan_of_loses facts⟩
  · exact absurd (by simp) other
  · exact ⟨_, rfl, AccountClose.isLocal, fun _ _ _ => AccountClose.scan_of_loses⟩

/-- If an account denies a flag, the unit without that attribute has the same facts, without what the
attribute was resolved to, and extraction fails for the one as it does for the other. Six of the built-in
detectors find the same in both units. Each of the other three does so unless it takes the denied flag
for one that says that the account is created, and this makes a difference. -/
theorem detect_without {h : Handler} {declared : Account} (inside : h ∈ u.handlers)
    (present : declared ∈ h.params) (off : declared.IsOff kind) :
    let u' := u.without h.name declared.name kind
    FactBase.ofUnit u' = (FactBase.ofUnit u).map (·.without h.name declared.name kind) ∧
    ∀ facts, FactBase.ofUnit u = .ok facts →
      let facts' := facts.without h.name declared.name kind
      ∃ handler ∈ facts.handlers, ∃ account ∈ handler.accounts,
        handler.name = h.name ∧ account.name = declared.name ∧
        (∀ d ∈ builtin, d ∉ [SignerAuthorization.detector, Reinitialization.detector,
          DuplicateAccounts.detector] → d.detect u' facts' = d.detect u facts) ∧
        (SignerAuthorization.detector.detect u' facts' =
            SignerAuthorization.detector.detect u facts ↔
          ¬ SignerAuthorization.Sees facts handler account kind) ∧
        (Reinitialization.detector.detect u' facts' = Reinitialization.detector.detect u facts ↔
          ¬ Reinitialization.Sees handler account kind) ∧
        (DuplicateAccounts.detector.detect u' facts' = DuplicateAccounts.detector.detect u facts ↔
          ¬ DuplicateAccounts.Sees handler account kind) := by
  intro u'
  -- No other account of the unit is affected, as names tell handlers and accounts apart.
  have only : ∀ handler ∈ u.handlers, handler.name = h.name →
      ∀ account ∈ handler.params, account.name = declared.name → account.IsOff kind := by
    intro handler member same account among named
    obtain rfl := List.inj_on_of_nodup_map u.handlers_distinct member inside same
    obtain rfl := List.inj_on_of_nodup_map handler.params_distinct among present named
    exact off
  refine ⟨FactBase.ofUnit_without only, fun facts made => ?_⟩
  intro facts'
  rcases FactBase.exists_pairs made with ⟨pairs, extracted⟩
  obtain ⟨⟨h', handler⟩, paired, rfl⟩ : ∃ pair ∈ pairs, pair.1 = h :=
    List.mem_map.1 (extracted.handlers ▸ inside)
  have known : h'.facts u = .ok handler := (extracted.made _ paired).1
  rcases denies_of_extracted known present off with ⟨account, named, denies⟩
  have member : handler ∈ facts.handlers :=
    extracted.facts_handlers ▸ List.mem_map_of_mem paired
  have name : handler.name = h'.name := Handler.name_of_facts known
  -- So each detector is compared on the one handler.
  have compare : ∀ {scan : FactBase → HandlerFacts → List Finding} {d : Detector}, IsLocal scan →
      d = .ofHandlers d.info scan → (d.detect u' facts' = d.detect u facts ↔
        scan facts (handler.without account.name kind) = scan facts handler) := by
    intro scan d isLocal built
    have decided := detect_without_iff isLocal built extracted.distinct_facts member u u' account.name
      kind
    rw [named, name] at decided
    rw [named]
    exact decided
  refine ⟨handler, member, account, denies.inside, name, named, ?_, ?_, ?_, ?_⟩
  · intro d builtin other
    rcases exists_blind_of_mem_builtin builtin other with ⟨scan, built, isLocal, blind⟩
    exact (compare isLocal built).2 (blind facts denies.loses)
  · exact (compare SignerAuthorization.isLocal rfl).trans
      (SignerAuthorization.scan_without_iff denies)
  · exact (compare Reinitialization.isLocal rfl).trans (Reinitialization.scan_without_iff denies)
  · exact (compare DuplicateAccounts.isLocal rfl).trans (DuplicateAccounts.scan_without_iff denies)

/-! ### An account that is not initialized if needed -/

/-- An account that denies that it is initialized if needed. -/
def vaultKept : Account :=
  { name := "vault"
    typeTag := "Account<'info, Vault>"
    attributes := [("init_if_needed", .bool false)]
    span := .ofLength 0 1 }

def deposit : Handler :=
  { name := "deposit", span := .ofLength 0 9, params := [vaultKept], params_distinct := by simp }

def depositing : ProgramUnit :=
  { name := "depositing", file := "depositing.json", handlers := [deposit]
    handlers_distinct := by simp }

theorem isOff_vaultKept : vaultKept.IsOff "init_if_needed" where
  flag := by decide
  given := by decide
  off raw inside := by
    rcases List.mem_singleton.1 inside with same
    exact (Prod.mk.inj same).2

/-- The denied flag is seen by the one detector that asks for it. -/
theorem detect_without_depositing :
    deposit ∈ depositing.handlers ∧ vaultKept ∈ deposit.params ∧
    vaultKept.IsOff "init_if_needed" ∧
    ∃ facts, FactBase.ofUnit depositing = .ok facts ∧
      (∃ handler ∈ facts.handlers, ∃ account ∈ handler.accounts,
        Reinitialization.Sees handler account "init_if_needed") ∧
      Reinitialization.detector.detect (depositing.without "deposit" "vault" "init_if_needed")
          (facts.without "deposit" "vault" "init_if_needed") ≠
        Reinitialization.detector.detect depositing facts := by
  have inside : deposit ∈ depositing.handlers := List.mem_singleton_self _
  have present : vaultKept ∈ deposit.params := List.mem_singleton_self _
  obtain ⟨-, found⟩ := detect_without inside present isOff_vaultKept
  rcases found _ rfl with ⟨handler, member, account, among, -, -, -, -, decided, -⟩
  obtain rfl := List.mem_singleton.1 member
  obtain rfl := List.mem_singleton.1 among
  refine ⟨inside, present, isOff_vaultKept, _, rfl, ⟨_, member, _, among, .needed rfl rfl⟩, ?_⟩
  intro same
  exact decided.1 same (.needed rfl rfl)

/-- Without the attribute nothing is found, and with it there is a finding. -/
theorem depositing_found_by_denied_flag :
    vaultKept ∈ deposit.params ∧ vaultKept.IsOff "init_if_needed" ∧
    ∃ facts facts', FactBase.ofUnit depositing = .ok facts ∧
      FactBase.ofUnit (depositing.without "deposit" "vault" "init_if_needed") = .ok facts' ∧
      Reinitialization.detector ∈ builtin ∧
      (Reinitialization.detector.detect depositing facts).toOption.map List.length = some 1 ∧
      Reinitialization.detector.detect (depositing.without "deposit" "vault" "init_if_needed")
        facts' = .ok [] :=
  ⟨List.mem_singleton_self _, isOff_vaultKept, _, _, rfl, rfl, by simp [builtin], rfl, rfl⟩

end Detector

end AccountAudit
