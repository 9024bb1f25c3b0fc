import AccountAudit.Detector.AccountKind
import AccountAudit.Guard
import AccountAudit.Proofs.Order.Extraction
import AccountAudit.Proofs.Text.Sorted

/-!
# Queries and the order of accounts

What is asked about an account gives the same answer about the account where it has moved. Lists of
accounts, of guards and of positions are matched item by item (`Matched`), and so every question whether
some item fulfils something gives the same answer (`HandlerFacts.Reorders.links`,
`HandlerFacts.Reorders.possiblyGuarded`).
-/

namespace AccountAudit

variable {σ : Equiv.Perm Nat}

/-! ## Accounts -/

namespace AccountFact.Reorders

variable {account account' : AccountFact}

theorem index (h : account.Reorders σ account') : account'.index = σ account.index := by
  rw [h.same]

theorem name (h : account.Reorders σ account') : account'.name = account.name := by
  rw [h.same]

theorem typeTag (h : account.Reorders σ account') : account'.typeTag = account.typeTag := by
  rw [h.same]

theorem typeKind (h : account.Reorders σ account') : account'.typeKind = account.typeKind := by
  rw [h.same]

theorem innerType (h : account.Reorders σ account') : account'.innerType = account.innerType := by
  rw [h.same]

theorem isMut (h : account.Reorders σ account') : account'.isMut = account.isMut := by
  rw [h.same]

theorem isSigner (h : account.Reorders σ account') : account'.isSigner = account.isSigner := by
  rw [h.same]

theorem location (h : account.Reorders σ account') : account'.location = account.location := by
  rw [h.same]

theorem attr? (h : account.Reorders σ account') (kind : String) :
    Option.Rel (Resolved.Reorders σ) (account.attr? kind) (account'.attr? kind) :=
  Assoc.rel_lookup h.attributes kind

theorem has (h : account.Reorders σ account') (kind : String) :
    account'.has kind = account.has kind :=
  isSome_eq_of_rel (h.attr? kind)

theorem isCreated (h : account.Reorders σ account') :
    AccountKind.isCreated account' = AccountKind.isCreated account := by
  simp only [AccountKind.isCreated, funext h.has]

theorem touches (h : account.Reorders σ account') (ev : Evidence) (segments : List String) :
    ev.touches account' segments = ev.touches account segments := by
  simp only [Evidence.touches, h.name]

theorem unresolvedKinds (h : account.Reorders σ account') :
    account'.unresolvedKinds = account.unresolvedKinds :=
  map_eq_of_forall₂ h.unknown fun _ _ related => related.1.symm

end AccountFact.Reorders

/-! ## Guards -/

/-- The guard refers to accounts that have moved. -/
structure Evidence.Reorders (σ : Equiv.Perm Nat) (ev ev' : Evidence) : Prop where
  same : ev' = { ev with refs := ev'.refs }
  refs : Moved σ ev.refs ev'.refs

theorem Evidence.reorders_ofConstraint {value value' : Resolved} (h : value.Reorders σ value') :
    (ofConstraint value).Reorders σ (ofConstraint value') := by
  refine ⟨?_, h.refs⟩
  simp only [ofConstraint, h.exprs, h.isUnknown]

theorem Evidence.reorders_ofCheck {check check' : CheckFact} (h : check.Reorders σ check') :
    (ofCheck check).Reorders σ (ofCheck check') := by
  refine ⟨?_, h.refs⟩
  rw [h.same]
  rfl

namespace HandlerFacts.Reorders

variable {handler handler' : HandlerFacts}

/-! ## Accounts of a handler -/

theorem matched_accounts (h : handler.Reorders σ handler') :
    Matched (AccountFact.Reorders σ) handler.accounts handler'.accounts := by
  constructor
  · intro account inside
    rcases List.getElem?_of_mem inside with ⟨i, here⟩
    rcases exists_right_of_rel (h.accounts i) here with ⟨account', here', related⟩
    exact ⟨account', List.mem_of_getElem? here', related⟩
  · intro account' inside
    rcases List.getElem?_of_mem inside with ⟨j, here⟩
    rw [← σ.apply_symm_apply j] at here
    rcases exists_left_of_rel (h.accounts (σ.symm j)) here with ⟨account, here', related⟩
    exact ⟨account, List.mem_of_getElem? here', related⟩

theorem accountNamed? (h : handler.Reorders σ handler') (name : String) :
    Option.Rel (AccountFact.Reorders σ) (handler.accountNamed? name) (handler'.accountNamed? name) := by
  rw [HandlerFacts.accountNamed?, HandlerFacts.accountNamed?, find?_eq_bind_idxOf?,
    find?_eq_bind_idxOf?, h.names.idxOf?]
  cases (handler.accounts.map AccountFact.name).idxOf? name with
  | none => exact .none
  | some i => exact h.accounts i

theorem signers (h : handler.Reorders σ handler') :
    Matched (AccountFact.Reorders σ) handler.signers handler'.signers :=
  h.matched_accounts.filter fun _ _ related => related.isSigner

theorem signerIndices (h : handler.Reorders σ handler') :
    Moved σ (handler.signers.map AccountFact.index) (handler'.signers.map AccountFact.index) :=
  h.signers.map fun _ _ related => related.index

/-- Names of matched accounts are the same names. -/
theorem distinctSorted_names {accounts accounts' : List AccountFact}
    (h : Matched (AccountFact.Reorders σ) accounts accounts') :
    Text.distinctSorted (accounts'.map AccountFact.name) =
      Text.distinctSorted (accounts.map AccountFact.name) :=
  Text.distinctSorted_congr (h.map fun _ _ related => related.name.symm).mem_iff

/-! ## Guards of a handler -/

theorem constraints (h : handler.Reorders σ handler') :
    Matched (Evidence.Reorders σ)
      (handler.constraints.map fun (_, value) => Evidence.ofConstraint value)
      (handler'.constraints.map fun (_, value) => Evidence.ofConstraint value) := by
  refine Matched.map (r := fun a b => a.2.Reorders σ b.2) ?_ fun _ _ related =>
    Evidence.reorders_ofConstraint related
  refine h.matched_accounts.filterMap fun account account' related => ?_
  rcases rel_cases (related.attr? "constraint") with ⟨none, none'⟩ | ⟨value, value', said, said', same⟩
  · rw [none, none']
    exact .none
  · rw [said, said']
    exact .some same

theorem evidence (h : handler.Reorders σ handler') :
    Matched (Evidence.Reorders σ) handler.evidence handler'.evidence :=
  h.constraints.append ((matched_of_forall₂ h.checks).map fun _ _ => Evidence.reorders_ofCheck)

theorem checksBefore (h : handler.Reorders σ handler') (seq : Nat) :
    List.Forall₂ (CheckFact.Reorders σ) (handler.checksBefore seq) (handler'.checksBefore seq) :=
  forall₂_filter h.checks fun _ _ related => by rw [related.same]

theorem evidenceBefore (h : handler.Reorders σ handler') (seq : Nat) :
    Matched (Evidence.Reorders σ) (handler.evidenceBefore seq) (handler'.evidenceBefore seq) :=
  h.constraints.append
    ((matched_of_forall₂ (h.checksBefore seq)).map fun _ _ => Evidence.reorders_ofCheck)

/-- A question about guards that does not ask for the accounts they refer to. -/
theorem any_evidence (h : handler.Reorders σ handler') {p : Evidence → Bool}
    (blind : ∀ ev refs, p { ev with refs } = p ev) :
    handler'.evidence.any p = handler.evidence.any p :=
  h.evidence.any_eq fun ev ev' related => by rw [related.same, blind]

theorem callsNamed (h : handler.Reorders σ handler') (names : List String) :
    List.Forall₂ (CallFact.Reorders σ) (handler.callsNamed names) (handler'.callsNamed names) :=
  forall₂_filter h.calls fun _ _ related => by
    rw [related.same]
    rfl

/-! ## Queries about guards -/

/-- Accounts are linked wherever they stand. -/
theorem links (h : handler.Reorders σ handler') {others others' : List Nat}
    (moved : Moved σ others others') (index : Nat) (ops : List String) :
    handler'.links (σ index) others' ops = handler.links index others ops := by
  refine h.evidence.any_eq fun ev ev' related => ?_
  have other : (ev'.refs.any fun i => others'.contains i && i != σ index) =
      ev.refs.any fun i => others.contains i && i != index := by
    refine related.refs.any_eq ?_
    rintro i _ rfl
    rw [moved.contains, bne, bne, σ.injective.beq_eq]
  rw [related.refs.contains, other, related.same]
  rfl

/-- An account may be guarded wherever it stands. -/
theorem possiblyGuarded (h : handler.Reorders σ handler') {account account' : AccountFact}
    (related : account.Reorders σ account') :
    handler'.possiblyGuarded account' = handler.possiblyGuarded account := by
  have checks : (handler'.checks.any fun check => check.unknown && check.refs.contains account'.index) =
      handler.checks.any fun check => check.unknown && check.refs.contains account.index := by
    refine any_eq_of_forall₂ h.checks fun check check' moved => ?_
    rw [related.index, moved.refs.contains, moved.same]
  rw [HandlerFacts.possiblyGuarded, HandlerFacts.possiblyGuarded, related.unresolvedKinds, checks]
  -- What is left to compare are the attributes of all accounts.
  congr 2
  refine h.matched_accounts.any_eq fun other other' moved => ?_
  refine any_eq_of_forall₂ moved.attributes fun said said' both => ?_
  dsimp only
  rw [both.2.isUnknown, related.index, both.2.refs.contains]

end HandlerFacts.Reorders

end AccountAudit
