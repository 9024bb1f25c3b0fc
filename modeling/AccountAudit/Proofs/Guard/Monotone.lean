import AccountAudit.Proofs.Guard.Extraction

/-!
# Guard queries are monotone

What a guard query finds in a handler it also finds after the handler has gained a guard: evidence
stays evidence at its new position (`mem_evidence`), linked accounts stay linked, and an account
that may be guarded still may be. Queries about anything else give the same answer.
-/

namespace AccountAudit

namespace AccountFact.GainsGuards

variable {account account' : AccountFact}

/-! ## Accounts -/

theorem index (gains : account.GainsGuards account') : account'.index = account.index := by
  rw [gains.same]

theorem name (gains : account.GainsGuards account') : account'.name = account.name := by
  rw [gains.same]

theorem typeTag (gains : account.GainsGuards account') : account'.typeTag = account.typeTag := by
  rw [gains.same]

theorem typeKind (gains : account.GainsGuards account') : account'.typeKind = account.typeKind := by
  rw [gains.same]

theorem innerType (gains : account.GainsGuards account') :
    account'.innerType = account.innerType := by
  rw [gains.same]

theorem isMut (gains : account.GainsGuards account') : account'.isMut = account.isMut := by
  rw [gains.same]

theorem isSigner (gains : account.GainsGuards account') : account'.isSigner = account.isSigner := by
  rw [gains.same]

theorem location (gains : account.GainsGuards account') : account'.location = account.location := by
  rw [gains.same]

theorem has (gains : account.GainsGuards account') {kind : String} (other : kind ≠ "constraint") :
    account'.has kind = account.has kind := by
  rw [AccountFact.has, gains.attr_eq kind other, AccountFact.has]

/-- What a path has to start with is the name of the account, which stays. -/
theorem touches (gains : account.GainsGuards account') (ev : Evidence) (segments : List String) :
    ev.touches account' segments = ev.touches account segments := by
  simp only [Evidence.touches, gains.name]

theorem unresolvedKinds (gains : account.GainsGuards account')
    (h : account.unresolvedKinds.isEmpty = false) : account'.unresolvedKinds.isEmpty = false := by
  simp only [AccountFact.unresolvedKinds, List.isEmpty_eq_false_iff_exists_mem, List.mem_map,
    List.mem_filter] at *
  -- An attribute that could not be resolved stays, and stays unresolved.
  rcases h with ⟨kind, entry, ⟨member, unknown⟩, rfl⟩
  exact ⟨entry.1, entry, ⟨gains.kept member, unknown⟩, rfl⟩

end AccountFact.GainsGuards

/-! ## Handlers -/

namespace HandlerFacts.GainsGuards

variable {place : Nat → Nat} {handler handler' : HandlerFacts}

theorem account? (gains : handler.GainsGuards place handler') (index : Nat) :
    Option.Rel AccountFact.GainsGuards (handler.account? index) (handler'.account? index) :=
  rel_getElem? gains.accounts index

theorem accountNamed? (gains : handler.GainsGuards place handler') (name : String) :
    Option.Rel AccountFact.GainsGuards (handler.accountNamed? name)
      (handler'.accountNamed? name) :=
  rel_find? gains.accounts fun _ _ related => by rw [related.name]

theorem signers (gains : handler.GainsGuards place handler') :
    List.Forall₂ AccountFact.GainsGuards handler.signers handler'.signers :=
  forall₂_filter gains.accounts fun _ _ related => related.isSigner

/-! ### Evidence -/

theorem mem_constraints (gains : handler.GainsGuards place handler') {value : Resolved}
    {account : AccountFact} (member : (account, value) ∈ handler.constraints) :
    ∃ account', (account', value) ∈ handler'.constraints := by
  have accounts := gains.accounts
  simp only [HandlerFacts.constraints, List.mem_filterMap] at *
  rcases member with ⟨owner, inside, given⟩
  rcases Option.map_eq_some_iff.1 given with ⟨found, attr, pair⟩
  rcases Prod.mk.inj pair with ⟨rfl, rfl⟩
  -- The owner has gained guards, and with it stands the `constraint` that it had.
  rcases exists_right_of_forall₂ accounts inside with ⟨account', inside', related⟩
  exact ⟨account', account', inside', by rw [related.constraint _ attr]; rfl⟩

/-- The evidence of constraints and some of the checks stays if these checks stay. -/
theorem mem_evidenceOf (gains : handler.GainsGuards place handler') {ev : Evidence}
    {checks checks' : List CheckFact}
    (kept : ∀ check ∈ checks, { check with seq := place check.seq } ∈ checks')
    (member : ev ∈ handler.constraints.map (fun (_, value) => Evidence.ofConstraint value) ++
      checks.map .ofCheck) :
    { ev with seq := ev.seq.map place } ∈
      handler'.constraints.map (fun (_, value) => Evidence.ofConstraint value) ++
        checks'.map .ofCheck := by
  rcases List.mem_append.1 member with constraint | check
  · -- A constraint stands nowhere in the body, so it does not move.
    rcases List.mem_map.1 constraint with ⟨⟨account, value⟩, inside, rfl⟩
    rcases gains.mem_constraints inside with ⟨account', inside'⟩
    exact List.mem_append_left _ (List.mem_map.2 ⟨(account', value), inside', rfl⟩)
  · rcases List.mem_map.1 check with ⟨found, inside, rfl⟩
    exact List.mem_append_right _ (List.mem_map.2 ⟨_, kept found inside, rfl⟩)

/-- Evidence stays, at its new position. -/
theorem mem_evidence (gains : handler.GainsGuards place handler') {ev : Evidence}
    (member : ev ∈ handler.evidence) : { ev with seq := ev.seq.map place } ∈ handler'.evidence :=
  gains.mem_evidenceOf gains.checks member

theorem mem_checksBefore (gains : handler.GainsGuards place handler') {seq : Nat}
    {check : CheckFact} (member : check ∈ handler.checksBefore seq) :
    { check with seq := place check.seq } ∈ handler'.checksBefore (place seq) := by
  rw [HandlerFacts.checksBefore, List.mem_filter] at *
  -- In front of a position means at a smaller one, which `place` respects.
  refine ⟨gains.checks check member.1, ?_⟩
  simpa using gains.order (by simpa using member.2)

/-- Evidence in front of a node stays in front of it. -/
theorem mem_evidenceBefore (gains : handler.GainsGuards place handler') {seq : Nat} {ev : Evidence}
    (member : ev ∈ handler.evidenceBefore seq) :
    { ev with seq := ev.seq.map place } ∈ handler'.evidenceBefore (place seq) :=
  gains.mem_evidenceOf (fun _ inside => gains.mem_checksBefore inside) member

/-- A question about evidence that does not ask for its position. -/
theorem any_evidence (gains : handler.GainsGuards place handler') {p p' : Evidence → Bool}
    (implies : ∀ ev, p ev = true → p' { ev with seq := ev.seq.map place } = true)
    (h : handler.evidence.any p = true) : handler'.evidence.any p' = true := by
  rw [List.any_eq_true] at *
  rcases h with ⟨ev, member, holds⟩
  exact ⟨_, gains.mem_evidence member, implies ev holds⟩

theorem any_checks (gains : handler.GainsGuards place handler') {p p' : CheckFact → Bool}
    (implies : ∀ check, p check = true → p' { check with seq := place check.seq } = true)
    (h : handler.checks.any p = true) : handler'.checks.any p' = true := by
  rw [List.any_eq_true] at *
  rcases h with ⟨check, member, holds⟩
  exact ⟨_, gains.checks check member, implies check holds⟩

/-! ### Queries -/

theorem links (gains : handler.GainsGuards place handler') {index : Nat} {others : List Nat}
    {ops : List String} (h : handler.links index others ops = true) :
    handler'.links index others ops = true :=
  gains.any_evidence (fun _ holds => holds) h

theorem possiblyGuarded (gains : handler.GainsGuards place handler') {account account' : AccountFact}
    (related : account.GainsGuards account') (h : handler.possiblyGuarded account = true) :
    handler'.possiblyGuarded account' = true := by
  rw [HandlerFacts.possiblyGuarded, Bool.or_eq_true, Bool.or_eq_true] at *
  -- Three reasons to think an account guarded: its own unresolved attributes, attributes that mention
  -- it, and checks that do.
  rcases h with (kinds | attributes) | checks
  · refine .inl (.inl ?_)
    rw [Bool.not_eq_true'] at *
    exact related.unresolvedKinds kinds
  · refine .inl (.inr ?_)
    rw [List.any_eq_true] at *
    rcases attributes with ⟨other, member, mentions⟩
    rcases exists_right_of_forall₂ gains.accounts member with ⟨other', member', more⟩
    rw [List.any_eq_true] at mentions
    rcases mentions with ⟨entry, inside, holds⟩
    refine ⟨other', member', List.any_eq_true.2 ⟨entry, more.kept inside, ?_⟩⟩
    rw [related.index]
    exact holds
  · refine .inr (gains.any_checks (fun check holds => ?_) checks)
    rw [related.index]
    exact holds

theorem callsNamed (gains : handler.GainsGuards place handler') (names : List String) :
    handler'.callsNamed names =
      (handler.callsNamed names).map fun call => { call with seq := place call.seq } := by
  rw [HandlerFacts.callsNamed, gains.calls, List.filter_map, HandlerFacts.callsNamed]
  rfl

end HandlerFacts.GainsGuards

end AccountAudit
