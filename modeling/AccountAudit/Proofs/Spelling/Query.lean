import AccountAudit.Detector.AccountKind
import AccountAudit.Guard
import AccountAudit.Proofs.Spelling.Extraction

/-!
# Queries and paths written in full

What is asked about accounts and guards has the same answer on the facts with every path in full. Lists
of accounts, of guards and of calls have the same items, each in full, and what is asked of an item
looks at segments, roots and constants, which are the same (`HandlerFacts.links_inFull`,
`HandlerFacts.possiblyGuarded_inFull`).
-/

namespace AccountAudit

/-! ## Accounts -/

namespace AccountFact

variable (account : AccountFact)

@[simp]
theorem index_inFull : account.inFull.index = account.index := rfl

@[simp]
theorem name_inFull : account.inFull.name = account.name := rfl

@[simp]
theorem typeTag_inFull : account.inFull.typeTag = account.typeTag := rfl

@[simp]
theorem typeKind_inFull : account.inFull.typeKind = account.typeKind := rfl

@[simp]
theorem innerType_inFull : account.inFull.innerType = account.innerType := rfl

@[simp]
theorem isMut_inFull : account.inFull.isMut = account.isMut := rfl

@[simp]
theorem isSigner_inFull : account.inFull.isSigner = account.isSigner := rfl

@[simp]
theorem location_inFull : account.inFull.location = account.location := rfl

@[simp]
theorem attr?_inFull (kind : String) :
    account.inFull.attr? kind = (account.attr? kind).map Resolved.inFull :=
  lookup_inFull account.attributes kind

@[simp]
theorem has_inFull (kind : String) : account.inFull.has kind = account.has kind := by
  simp [has]

@[simp]
theorem unresolvedKinds_inFull : account.inFull.unresolvedKinds = account.unresolvedKinds := by
  simp [unresolvedKinds, inFull, List.filter_map, Function.comp_def]

@[simp]
theorem isCreated_inFull : AccountKind.isCreated account.inFull = AccountKind.isCreated account := by
  simp [AccountKind.isCreated, funext account.has_inFull]

end AccountFact

/-! ## Guards -/

namespace Evidence

/-- The guard with every path in full. -/
def inFull (ev : Evidence) : Evidence :=
  { ev with exprs := ev.exprs.map Expr.inFull }

variable (ev : Evidence)

theorem ofConstraint_inFull (value : Resolved) :
    ofConstraint value.inFull = (ofConstraint value).inFull := by
  simp [ofConstraint, inFull]

theorem map_ofCheck_inFull (checks : List CheckFact) :
    (checks.map CheckFact.inFull).map ofCheck = (checks.map ofCheck).map inFull := by
  rw [List.map_map, List.map_map]
  rfl

@[simp]
theorem refs_inFull : ev.inFull.refs = ev.refs := rfl

@[simp]
theorem unknown_inFull : ev.inFull.unknown = ev.unknown := rfl

@[simp]
theorem ops_inFull : ev.inFull.ops = ev.ops := by
  simp [ops, inFull, List.flatMap_map]

@[simp]
theorem paths_inFull : ev.inFull.paths = ev.paths := by
  simp [paths, inFull, List.flatMap_map]

@[simp]
theorem hasConstant_inFull : ev.inFull.hasConstant = ev.hasConstant := by
  rw [hasConstant, nodes, inFull, Expr.flatMap_walk_inFull, List.any_map, hasConstant, nodes]
  exact congrArg _ (funext Expr.isConstant_inFull)

@[simp]
theorem usesAny_inFull (ops : List String) : ev.inFull.usesAny ops = ev.usesAny ops := by
  rw [usesAny, ops_inFull, usesAny]

@[simp]
theorem touches_inFull (account : AccountFact) (segments : List String) :
    ev.inFull.touches account.inFull segments = ev.touches account segments := by
  rw [touches, paths_inFull, AccountFact.name_inFull, touches]

end Evidence

/-! ## Calls -/

@[simp]
theorem CallFact.shortName_inFull (call : CallFact) : call.inFull.shortName = call.shortName := rfl

/-! ## Handlers -/

namespace HandlerFacts

variable (handler : HandlerFacts)

@[simp]
theorem name_inFull : handler.inFull.name = handler.name := rfl

theorem account?_inFull (index : Nat) :
    handler.inFull.account? index = (handler.account? index).map AccountFact.inFull :=
  List.getElem?_map

theorem accountNamed?_inFull (name : String) :
    handler.inFull.accountNamed? name = (handler.accountNamed? name).map AccountFact.inFull :=
  List.find?_map ..

theorem signers_inFull : handler.inFull.signers = handler.signers.map AccountFact.inFull :=
  List.filter_map ..

theorem checksBefore_inFull (seq : Nat) :
    handler.inFull.checksBefore seq = (handler.checksBefore seq).map CheckFact.inFull :=
  List.filter_map ..

theorem callsNamed_inFull (names : List String) :
    handler.inFull.callsNamed names = (handler.callsNamed names).map CallFact.inFull :=
  List.filter_map ..

@[simp]
theorem signerIndices_inFull :
    handler.inFull.signers.map AccountFact.index = handler.signers.map AccountFact.index := by
  simp [signers_inFull, Function.comp_def]

@[simp]
theorem signerNames_inFull :
    handler.inFull.signers.map AccountFact.name = handler.signers.map AccountFact.name := by
  simp [signers_inFull, Function.comp_def]

/-- The guards that are constraints, each in full. -/
theorem constraintEvidence_inFull :
    handler.inFull.constraints.map (fun (_, value) => Evidence.ofConstraint value) =
      (handler.constraints.map fun (_, value) => Evidence.ofConstraint value).map
        Evidence.inFull := by
  have values : ∀ account : AccountFact,
      ((account.inFull.attr? "constraint").map fun value => (account.inFull, value)).map
          (fun said => Evidence.ofConstraint said.2) =
        (((account.attr? "constraint").map fun value => (account, value)).map
          fun said => Evidence.ofConstraint said.2).map Evidence.inFull := by
    intro account
    rw [AccountFact.attr?_inFull]
    cases account.attr? "constraint" with
    | none => rfl
    | some value => exact congrArg some (Evidence.ofConstraint_inFull value)
  -- Account by account, since a constraint is looked up among the attributes of its account.
  simp only [constraints, inFull, List.map_filterMap, List.filterMap_map]
  exact List.filterMap_congr fun account _ => values account

theorem evidence_inFull : handler.inFull.evidence = handler.evidence.map Evidence.inFull := by
  have checks := Evidence.map_ofCheck_inFull handler.checks
  rw [evidence, evidence, constraintEvidence_inFull, List.map_append, ← checks]
  rfl

theorem evidenceBefore_inFull (seq : Nat) :
    handler.inFull.evidenceBefore seq = (handler.evidenceBefore seq).map Evidence.inFull := by
  rw [evidenceBefore, evidenceBefore, constraintEvidence_inFull, checksBefore_inFull,
    List.map_append, Evidence.map_ofCheck_inFull]

/-- A question about the guards of a handler has the same answer, if it has for each of them. -/
theorem any_evidence_inFull {p q : Evidence → Bool} (same : ∀ ev, q ev.inFull = p ev) :
    handler.inFull.evidence.any q = handler.evidence.any p := by
  rw [evidence_inFull, List.any_map]
  exact congrArg _ (funext same)

@[simp]
theorem links_inFull (index : Nat) (others : List Nat) (ops : List String) :
    handler.inFull.links index others ops = handler.links index others ops :=
  handler.any_evidence_inFull fun ev => by simp

@[simp]
theorem possiblyGuarded_inFull (account : AccountFact) :
    handler.inFull.possiblyGuarded account.inFull = handler.possiblyGuarded account := by
  unfold possiblyGuarded
  refine congrArg₂ or (congrArg₂ or ?own ?attributes) ?checks
  case own => rw [AccountFact.unresolvedKinds_inFull]
  case attributes =>
    refine List.any_map.trans (congrArg (List.any _) (funext fun other => ?_))
    refine List.any_map.trans (congrArg (List.any _) (funext fun said => ?_))
    simp
  case checks => exact List.any_map

end HandlerFacts
end AccountAudit
