import AccountAudit.Proofs.Fact.Extraction

/-!
# What diagnostics are about

The diagnostics of a unit name the constructs that were not understood: handler by handler, first the
accounts with an attribute that is unresolved, then nodes of the body in their order, each once. Of
the nodes only checks and calls are named. An operand of arithmetic, a program that is invoked, or
either side of an assignment may hold a part that was not understood without any diagnostic.

The main statement `diagnostics_name_unresolved` says what the diagnostics are about, and that nothing is
passed over exactly if no node but checks and calls holds such a part.
-/

namespace AccountAudit

/-! ## Constructs that were not understood -/

namespace Resolved

/-- The attribute is marked as not understood. -/
def isUnresolved (names : List String) (kind : String) (raw : Value) : Bool :=
  match ofAttribute names kind raw with
  | .ok value => value.isUnknown
  | .error _ => false

theorem isUnknown_of_ofAttribute {names : List String} {kind : String} {raw : Value}
    {value : Resolved} (said : ofAttribute names kind raw = .ok value) :
    value.isUnknown = isUnresolved names kind raw := by
  rw [isUnresolved, said]

end Resolved

/-- Among accounts with these names, an attribute of the account is not understood. -/
def Account.hasUnresolved (names : List String) (account : Account) : Bool :=
  account.attributes.any fun (kind, raw) => Resolved.isUnresolved names kind raw

namespace BodyNode

/-- The expressions of a node. -/
def exprs (node : BodyNode) : List Expr :=
  match node.action with
  | .arith _ lhs rhs _ => [lhs, rhs]
  | .invoke program _ => [program]
  | .assign target value => [target, value]
  | .check condition => [condition]
  | .call _ _ args => args

/-- A part of one of the node's expressions was not understood. -/
def hasUnknown (node : BodyNode) : Bool :=
  node.exprs.any Expr.hasUnknown

/-- Diagnostics are made about nodes of this kind. -/
def isDiagnosed (node : BodyNode) : Bool :=
  match node.action with
  | .check _ | .call _ _ _ => true
  | _ => false

end BodyNode

/-! ## Subjects -/

/-- What a diagnostic is about: its class, its handler and a place. -/
abbrev Subject := String × String × Location

/-- What a finding is about. -/
def Finding.subject (f : Finding) : Subject :=
  (f.classId, f.handler, f.location)

namespace Handler

/-- A construct of the handler that was not understood. -/
def unresolvedAt (u : ProgramUnit) (handler : Handler) (span : Span) : Subject :=
  (unresolvedClassId, handler.name, u.location span)

/-- The accounts of the handler that were not understood, followed by some nodes of its body. -/
def unresolved (u : ProgramUnit) (chosen : BodyNode → Bool) (handler : Handler) : List Subject :=
  (handler.params.filter (·.hasUnresolved handler.accountNames)).map
      (fun account => handler.unresolvedAt u account.span) ++
    (handler.body.filter chosen).map fun node => handler.unresolvedAt u node.span

end Handler

/-- The accounts of a unit that were not understood and some of its nodes, handler by handler. -/
def ProgramUnit.unresolved (u : ProgramUnit) (chosen : BodyNode → Bool) : List Subject :=
  u.handlers.flatMap (Handler.unresolved u chosen)

/-! ## Accounts -/

namespace AccountFact

theorem any_isUnknown {u : ProgramUnit} {handler : Handler} {index : Nat} {account : Account}
    {fact : AccountFact} (made : ofAccount u handler index account = .ok fact) :
    (fact.attributes.any fun said => said.2.isUnknown) =
      account.hasUnresolved handler.accountNames := by
  rcases ofAccount_eq_ok.1 made with ⟨attributes, resolved, rfl⟩
  exact any_eq_of_forall₂ (forall₂_of_attributes? resolved) fun _ _ both =>
    Resolved.isUnknown_of_ofAttribute both.2

/-- An account has one diagnostic if one of its attributes was not understood, and none otherwise. -/
theorem subject_of_diagnostic? {u : ProgramUnit} {handler : Handler} {index : Nat}
    {account : Account} {fact : AccountFact}
    (made : ofAccount u handler index account = .ok fact) :
    fact.diagnostic?.map Finding.subject =
      if account.hasUnresolved handler.accountNames then
        some (handler.unresolvedAt u account.span)
      else none := by
  have none : (fact.attributes.filter (·.2.isUnknown)).isEmpty =
      !account.hasUnresolved handler.accountNames := by
    rw [← any_isUnknown made, Bool.eq_iff_iff]
    simp
  rcases ofAccount_eq_ok.1 made with ⟨attributes, resolved, rfl⟩
  simp only [diagnostic?, none]
  cases account.hasUnresolved handler.accountNames <;> rfl

end AccountFact

/-! ## Nodes -/

namespace Handler

/-- Texts that were not understood stand in expressions with such parts. -/
theorem isEmpty_unknownTexts (exprs : List Expr) :
    (exprs.flatMap Expr.unknownTexts).isEmpty = !exprs.any Expr.hasUnknown := by
  rw [Bool.eq_iff_iff]
  simp [Expr.unknownTexts, Expr.hasUnknown]

/-- A check or call has one diagnostic if a part of it was not understood; no other node has any. -/
theorem subject_of_nodeDiagnostic? (u : ProgramUnit) (handler : Handler) (node : BodyNode) :
    (nodeDiagnostic? u handler node).map Finding.subject =
      if node.hasUnknown && node.isDiagnosed then some (handler.unresolvedAt u node.span)
      else none := by
  rcases node with ⟨span, action⟩
  cases action with
  | check condition =>
    simp only [nodeDiagnostic?, BodyNode.hasUnknown, BodyNode.exprs, BodyNode.isDiagnosed,
      List.any_cons, List.any_nil, Bool.or_false, Bool.and_true]
    cases condition.hasUnknown <;> rfl
  | call func typeName args =>
    simp only [nodeDiagnostic?, isEmpty_unknownTexts, BodyNode.hasUnknown, BodyNode.exprs,
      BodyNode.isDiagnosed, Bool.and_true]
    cases args.any Expr.hasUnknown <;> rfl
  | _ => simp [nodeDiagnostic?, BodyNode.isDiagnosed]

/-- The diagnostics of a handler are about its accounts, and about the checks and calls in its body. -/
theorem subjects_of_diagnostics {u : ProgramUnit} {handler : Handler} {facts : HandlerFacts}
    (made : handler.facts u = .ok facts) :
    (handler.diagnostics u facts).map Finding.subject =
      handler.unresolved u fun node => node.hasUnknown && node.isDiagnosed := by
  rw [diagnostics, unresolved, List.map_append, map_filter_eq_filterMap, map_filter_eq_filterMap,
    List.map_filterMap, List.map_filterMap]
  congr 1
  · exact filterMap_accounts made fun _ _ _ => AccountFact.subject_of_diagnostic?
  · exact List.filterMap_congr fun node _ => subject_of_nodeDiagnostic? u handler node

end Handler

/-! ## Units -/

namespace ProgramUnit

/-- What is said of nodes that all stand among others. -/
theorem length_unresolved (u : ProgramUnit) (chosen : BodyNode → Bool) :
    (u.unresolved chosen).length = (u.unresolved fun _ => false).length +
      (u.handlers.flatMap Handler.body).countP chosen := by
  rw [unresolved, unresolved]
  induction u.handlers with
  | nil => rfl
  | cons handler rest ih =>
    simp only [List.flatMap_cons, List.length_append, List.countP_append, ih, Handler.unresolved,
      List.length_map, List.filter_false, List.length_nil, ← List.countP_eq_length_filter]
    omega

/-- If fewer nodes are chosen, the same constructs are named only if they are the same nodes. -/
theorem unresolved_eq_iff (u : ProgramUnit) {fewer all : BodyNode → Bool}
    (among : ∀ node, fewer node = true → all node = true) :
    u.unresolved fewer = u.unresolved all ↔
      ∀ handler ∈ u.handlers, ∀ node ∈ handler.body, all node = true → fewer node = true := by
  constructor
  · intro same handler inside node within chosen
    have counted := congrArg List.length same
    rw [length_unresolved, u.length_unresolved all, Nat.add_left_cancel_iff,
      List.countP_eq_length_filter, List.countP_eq_length_filter] at counted
    -- The fewer nodes are a sublist of all nodes, and as many.
    have sameNodes := (List.monotone_filter_right _ among).eq_of_length counted
    have present : node ∈ (u.handlers.flatMap Handler.body).filter all :=
      List.mem_filter.2 ⟨List.mem_flatMap.2 ⟨handler, inside, within⟩, chosen⟩
    rw [← sameNodes] at present
    exact (List.mem_filter.1 present).2
  · intro covers
    rw [unresolved, unresolved]
    refine List.flatMap_congr fun handler inside => ?_
    rw [Handler.unresolved, Handler.unresolved]
    congr 2
    refine List.filter_congr fun node within => ?_
    rw [Bool.eq_iff_iff]
    exact ⟨among node, covers handler inside node within⟩

end ProgramUnit

namespace FactBase

variable {u : ProgramUnit} {facts : FactBase}

/-- **Diagnostics.** Handler by handler, the diagnostics of a unit name each account with an attribute
that was not understood, then each check or call with such a part, and nothing else. They name every
node with such a part exactly if it stands in checks and calls only. -/
theorem diagnostics_name_unresolved (made : ofUnit u = .ok facts) :
    facts.diagnostics.map Finding.subject =
        u.unresolved (fun node => node.hasUnknown && node.isDiagnosed) ∧
      (facts.diagnostics.map Finding.subject = u.unresolved BodyNode.hasUnknown ↔
        ∀ handler ∈ u.handlers, ∀ node ∈ handler.body,
          node.hasUnknown = true → node.isDiagnosed = true) := by
  have named : facts.diagnostics.map Finding.subject =
      u.unresolved (fun node => node.hasUnknown && node.isDiagnosed) := by
    rcases ofUnit_eq_ok.1 made with ⟨handlers, structs, extracted, -, rfl⟩
    dsimp only
    rw [List.map_flatMap, ProgramUnit.unresolved]
    exact flatMap_zip_of_forall₂ (forall₂_of_handlersOf extracted) fun handler facts =>
      Handler.subjects_of_diagnostics
  refine ⟨named, ?_⟩
  rw [named, u.unresolved_eq_iff fun node both => (Bool.and_eq_true_iff.1 both).1]
  refine forall₂_congr fun handler _ => forall₂_congr fun node _ => ?_
  cases node.hasUnknown <;> simp

/-! ### Parts that were not understood -/

/-- A unit with a handler that takes a vault and does some things one after the other. -/
def payroll (attributes : List (String × Value)) (actions : List Action) : ProgramUnit :=
  { name := "payroll"
    file := "payroll.json"
    handlers := [{ name := "pay", span := .ofLength 0 9,
                   params := [{ name := "vault", typeTag := "Account<'info, Vault>", attributes,
                                span := .ofLength 0 1 }],
                   body := actions.zipIdx.map fun (action, i) => ⟨.ofLength (2 + i) 1, action⟩,
                   params_distinct := by simp }]
    handlers_distinct := by simp }

/-- `amount as u64` -/
def castAmount : Expr :=
  .ofRaw "amount as u64"

/-- An account, a check and a call that were not understood are all named. -/
theorem diagnostics_name_unresolved_payroll :
    ∃ facts, ofUnit (payroll [("signer", .text "owner")] [.check castAmount,
        .assign (.ofPath "vault.total") (.ofPath "amount"), .call "log" "" [castAmount]]) = .ok facts ∧
      facts.diagnostics.map Finding.subject =
        [(unresolvedClassId, "pay", ⟨"payroll.json", 0, 1, none⟩),
          (unresolvedClassId, "pay", ⟨"payroll.json", 2, 3, none⟩),
          (unresolvedClassId, "pay", ⟨"payroll.json", 4, 5, none⟩)] := by
  refine ⟨_, rfl, ?_⟩
  rw [(diagnostics_name_unresolved (u := payroll [("signer", .text "owner")] [.check castAmount,
    .assign (.ofPath "vault.total") (.ofPath "amount"), .call "log" "" [castAmount]]) rfl).1]
  decide

/-- Arithmetic, an invocation and an assignment with parts that were not understood go unnamed. -/
theorem payroll_unresolved_without_diagnostics :
    ∃ facts, ofUnit (payroll [] [.arith "+" castAmount (.ofPath "vault.total") none,
        .invoke castAmount false, .assign (.ofPath "vault.total") castAmount]) = .ok facts ∧
      facts.diagnostics = [] ∧
      (payroll [] [.arith "+" castAmount (.ofPath "vault.total") none,
        .invoke castAmount false, .assign (.ofPath "vault.total") castAmount]).unresolved
          BodyNode.hasUnknown =
        [(unresolvedClassId, "pay", ⟨"payroll.json", 2, 3, none⟩),
          (unresolvedClassId, "pay", ⟨"payroll.json", 3, 4, none⟩),
          (unresolvedClassId, "pay", ⟨"payroll.json", 4, 5, none⟩)] :=
  ⟨_, rfl, by decide, by decide⟩

end FactBase

end AccountAudit
