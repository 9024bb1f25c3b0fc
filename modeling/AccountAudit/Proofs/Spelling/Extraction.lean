import AccountAudit.Proofs.Assoc
import AccountAudit.Proofs.Fact.Extraction
import AccountAudit.Proofs.Fact.Resolution
import AccountAudit.Proofs.Guard.Gain
import AccountAudit.Proofs.Spelling.Expr

/-!
# Facts of paths written in full

In a unit some paths may get the way through the instruction context (`ProgramUnit.Respells`): in the
nodes of a body, and in attributes that state expressions. Facts keep the expressions that they are
made of, so their form in full (`HandlerFacts.inFull`) differs from them in the texts of paths and in
nothing else. Units that differ in how paths are written have facts with the same form in full
(`FactBase.exists_respelled`).

The attributes have to be understood. Of one that was not, every word counts as a mention, those of the
way through the context included.
-/

namespace AccountAudit

/-! ## Facts in full -/

def Resolved.inFull : Resolved → Resolved
  | .expression exprs refs => .expression (exprs.map Expr.inFull) refs
  | value => value

def AccountFact.inFull (account : AccountFact) : AccountFact :=
  { account with attributes := account.attributes.map (Prod.map id Resolved.inFull) }

def CheckFact.inFull (check : CheckFact) : CheckFact :=
  { check with condition := check.condition.inFull }

def CallFact.inFull (call : CallFact) : CallFact :=
  { call with args := call.args.map Expr.inFull }

def AssignFact.inFull (assign : AssignFact) : AssignFact :=
  { assign with target := assign.target.inFull, value := assign.value.inFull }

def InvokeSite.inFull (site : InvokeSite) : InvokeSite :=
  { site with target := site.target.inFull }

def Operand.inFull (operand : Operand) : Operand :=
  { operand with expr := operand.expr.inFull }

def ArithmeticSite.inFull (site : ArithmeticSite) : ArithmeticSite :=
  { site with operands := site.operands.map Operand.inFull }

/-- The facts of a handler with every path in full. -/
def HandlerFacts.inFull (handler : HandlerFacts) : HandlerFacts :=
  { handler with
    accounts := handler.accounts.map AccountFact.inFull
    invokes := handler.invokes.map InvokeSite.inFull
    arithmetic := handler.arithmetic.map ArithmeticSite.inFull
    checks := handler.checks.map CheckFact.inFull
    calls := handler.calls.map CallFact.inFull
    assignments := handler.assignments.map AssignFact.inFull }

/-! ## Edits of a unit -/

/-- Two values are read as the same expression, some of whose paths have got the way through the
context. -/
inductive ReadsRespelled (v v' : Value) : Prop where
  | exprs (e e' : Expr) (read : Expr.read (Resolved.withoutRemark v) = .ok e)
      (read' : Expr.read (Resolved.withoutRemark v') = .ok e') (respelled : e.Respells e')

/-- The value of an attribute, which may state expressions that are written otherwise. -/
inductive AttributeRespells (kind : String) : Value → Value → Prop where
  | kept (raw : Value) : AttributeRespells kind raw raw
  | stated (raw raw' : Value) (condition : kind ∉ Resolved.referenceKinds)
      (given : Resolved.flag? raw = none) (given' : Resolved.flag? raw' = none)
      (items : List.Forall₂ ReadsRespelled (Resolved.items raw) (Resolved.items raw')) :
      AttributeRespells kind raw raw'

/-- The account, whose attributes may be written otherwise. -/
structure Account.Respells (account account' : Account) : Prop where
  same : account' = { account with attributes := account'.attributes }
  attributes : List.Forall₂ (fun entry entry' =>
    entry'.1 = entry.1 ∧ AttributeRespells entry.1 entry.2 entry'.2)
    account.attributes account'.attributes

/-- What a node does, with expressions that may be written otherwise. -/
inductive Action.Respells : Action → Action → Prop where
  | arith (op : String) (wrapper : Option String) {lhs lhs' rhs rhs' : Expr}
      (left : lhs.Respells lhs') (right : rhs.Respells rhs') :
      Respells (.arith op lhs rhs wrapper) (.arith op lhs' rhs' wrapper)
  | invoke (signed : Bool) {program program' : Expr} (called : program.Respells program') :
      Respells (.invoke program signed) (.invoke program' signed)
  | assign {target target' value value' : Expr} (place : target.Respells target')
      (written : value.Respells value') : Respells (.assign target value) (.assign target' value')
  | check {condition condition' : Expr} (stated : condition.Respells condition') :
      Respells (.check condition) (.check condition')
  | call (func typeName : String) {args args' : List Expr}
      (arguments : List.Forall₂ Expr.Respells args args') :
      Respells (.call func typeName args) (.call func typeName args')

/-- The node, at the same place. -/
structure BodyNode.Respells (node node' : BodyNode) : Prop where
  span : node'.span = node.span
  action : node.action.Respells node'.action

/-- The handler, with paths that may be written otherwise. -/
structure Handler.Respells (handler handler' : Handler) : Prop where
  name : handler'.name = handler.name
  span : handler'.span = handler.span
  args : handler'.args = handler.args
  params : List.Forall₂ Account.Respells handler.params handler'.params
  body : List.Forall₂ BodyNode.Respells handler.body handler'.body

/-- The unit, some of whose paths have got the way through the context. -/
structure ProgramUnit.Respells (u u' : ProgramUnit) : Prop where
  name : u'.name = u.name
  file : u'.file = u.file
  programId : u'.programId = u.programId
  source : u'.source = u.source
  sources : u'.sources = u.sources
  structs : u'.structs = u.structs
  handlers : List.Forall₂ Handler.Respells u.handlers u'.handlers

/-! ## Attributes -/

namespace Resolved

@[simp]
theorem isUnknown_inFull (value : Resolved) : value.inFull.isUnknown = value.isUnknown := by
  cases value <;> rfl

@[simp]
theorem isTrue_inFull (value : Resolved) : value.inFull.isTrue = value.isTrue := by
  cases value <;> rfl

@[simp]
theorem refs_inFull (value : Resolved) : value.inFull.refs = value.refs := by
  cases value <;> rfl

@[simp]
theorem exprs_inFull (value : Resolved) : value.inFull.exprs = value.exprs.map Expr.inFull := by
  cases value <;> rfl

/-- A condition that is written otherwise states the same expression in full. -/
theorem exists_states {v v' : Value} (h : ReadsRespelled v v') {e : Expr} (said : States v e) :
    ∃ e', States v' e' ∧ e'.inFull = e.inFull := by
  cases h with
  | exprs first e' read read' respelled =>
    obtain rfl := Except.ok.inj (said.1.symm.trans read)
    have same := respelled.inFull_eq
    refine ⟨e', ⟨read', ?_⟩, same⟩
    -- The edited expression is understood because the form in full is.
    rw [← Expr.hasUnknown_inFull, same, Expr.hasUnknown_inFull]
    exact said.2

theorem exists_conditions {values values' : List Value}
    (h : List.Forall₂ ReadsRespelled values values') {exprs : List Expr}
    (understood : conditions values = .ok exprs) :
    ∃ exprs', conditions values' = .ok exprs' ∧
      exprs'.map Expr.inFull = exprs.map Expr.inFull := by
  simp only [conditions_eq_ok] at understood ⊢
  induction h generalizing exprs with
  | nil =>
    cases understood
    exact ⟨[], .nil, rfl⟩
  | cons head _ ih =>
    cases understood with
    | cons said others =>
      obtain ⟨e', said', same⟩ := exists_states head said
      obtain ⟨more', others', alike⟩ := ih others
      refine ⟨e' :: more', .cons said' others', ?_⟩
      rw [List.map_cons, List.map_cons, same, alike]

/-- The roots of paths do not depend on how the paths are written. -/
theorem roots_congr {exprs exprs' : List Expr}
    (same : exprs'.map Expr.inFull = exprs.map Expr.inFull) :
    (exprs'.flatMap fun e => e.paths.map Expr.root) =
      exprs.flatMap fun e => e.paths.map Expr.root := by
  have roots : ∀ es : List Expr, (es.flatMap fun e => e.paths.map Expr.root) =
      (es.map Expr.inFull).flatMap fun e => e.paths.map Expr.root := by
    intro es
    simp [List.flatMap_map]
  rw [roots, same, ← roots]

/-- An attribute that is understood says the same however its paths are written. -/
theorem exists_ofAttribute_of_respells {names : List String} {kind : String} {raw raw' : Value}
    (h : AttributeRespells kind raw raw') {value : Resolved}
    (said : ofAttribute names kind raw = .ok value) (understood : value.isUnknown = false) :
    ∃ value', ofAttribute names kind raw' = .ok value' ∧ value'.inFull = value.inFull := by
  cases h with
  | kept => exact ⟨value, said, rfl⟩
  | stated _ condition given given' items =>
    unfold ofAttribute at said ⊢
    rw [if_neg condition, given] at said
    rw [if_neg condition, given']
    by_cases flag : kind ∈ flagKinds
    -- An expression where a flag is expected is not understood.
    · simp only [if_pos flag] at said
      obtain ⟨-, rfl⟩ := ofUnknown_eq_ok.1 said
      cases understood
    · simp only [if_neg flag, ofCondition] at said ⊢
      cases read : conditions (Resolved.items raw) with
      | error reason =>
        simp only [read] at said
        obtain ⟨-, rfl⟩ := ofUnknown_eq_ok.1 said
        cases understood
      | ok exprs =>
        obtain ⟨exprs', read', same⟩ := exists_conditions items read
        simp only [read, Except.ok.injEq] at said
        subst said
        rw [read']
        refine ⟨_, rfl, ?_⟩
        rw [roots_congr same, inFull, inFull, same]

end Resolved

/-! ## Accounts -/

namespace AccountFact

variable {names : List String} {attributes attributes' : List (String × Resolved)}

/-- The attributes with every path in full. -/
def attributesInFull (attributes : List (String × Resolved)) : List (String × Resolved) :=
  attributes.map (Prod.map id Resolved.inFull)

theorem exists_attributes?_of_respells {raws raws' : List (String × Value)}
    (h : List.Forall₂ (fun entry entry' =>
      entry'.1 = entry.1 ∧ AttributeRespells entry.1 entry.2 entry'.2) raws raws')
    (made : attributes? names raws = .ok attributes)
    (understood : ∀ said ∈ attributes, said.2.isUnknown = false) :
    ∃ attributes', attributes? names raws' = .ok attributes' ∧
      attributesInFull attributes' = attributesInFull attributes := by
  induction h generalizing attributes with
  | nil => exact ⟨attributes, made, rfl⟩
  | @cons entry entry' rest rest' head _ ih =>
    rcases entry with ⟨kind, raw⟩
    rcases entry' with ⟨kind', raw'⟩
    obtain ⟨rfl, respelled⟩ : kind' = kind ∧ AttributeRespells kind raw raw' := head
    obtain ⟨value, more, said, others, rfl⟩ := attributes?_cons_eq_ok.1 made
    rw [List.forall_mem_cons] at understood
    obtain ⟨value', said', same⟩ :=
      Resolved.exists_ofAttribute_of_respells respelled said understood.1
    obtain ⟨more', others', alike⟩ := ih others understood.2
    refine ⟨_, attributes?_cons_eq_ok.2 ⟨value', more', said', others', rfl⟩, ?_⟩
    rw [attributesInFull, attributesInFull, List.map_cons, List.map_cons, Prod.map_apply,
      Prod.map_apply, same]
    exact congrArg _ alike

theorem lookup_inFull (attributes : List (String × Resolved)) (kind : String) :
    (attributesInFull attributes).lookup kind = (attributes.lookup kind).map Resolved.inFull := by
  induction attributes with
  | nil => rfl
  | cons entry rest ih =>
    rcases entry with ⟨k, value⟩
    change ((k, value.inFull) :: attributesInFull rest).lookup kind = _
    rw [Assoc.lookup_cons_eq, Assoc.lookup_cons_eq, ih]
    split <;> rfl

theorem isSet_congr (same : attributesInFull attributes' = attributesInFull attributes)
    (kind : String) : isSet attributes' kind = isSet attributes kind := by
  have inFull : ∀ attributes : List (String × Resolved),
      isSet attributes kind = isSet (attributesInFull attributes) kind := by
    intro attributes
    rw [isSet, isSet, lookup_inFull]
    cases attributes.lookup kind with
    | none => rfl
    | some value => exact (Resolved.isTrue_inFull value).symm
  rw [inFull, same, ← inFull]

variable {u u' : ProgramUnit} {handler handler' : Handler} {index : Nat}
  {account account' : Account} {fact : AccountFact}

/-- All attributes of the account are understood. -/
theorem isUnknown_of_unresolvedKinds (resolved : fact.unresolvedKinds = []) :
    ∀ said ∈ fact.attributes, said.2.isUnknown = false := by
  intro said inside
  rw [unresolvedKinds, List.map_eq_nil_iff, List.filter_eq_nil_iff] at resolved
  simpa using resolved said inside

theorem exists_ofAccount_of_respells (same : u'.location = u.location)
    (name : handler'.name = handler.name)
    (names : handler'.accountNames = handler.accountNames) (h : account.Respells account')
    (made : ofAccount u handler index account = .ok fact) (resolved : fact.unresolvedKinds = []) :
    ∃ fact', ofAccount u' handler' index account' = .ok fact' ∧ fact'.inFull = fact.inFull := by
  have understood := isUnknown_of_unresolvedKinds resolved
  obtain ⟨attributes, said, rfl⟩ := ofAccount_eq_ok.1 made
  obtain ⟨attributes', said', alike⟩ := exists_attributes?_of_respells h.attributes said understood
  -- Flags are looked up among the attributes, which are the same in full.
  rw [← names] at said'
  refine ⟨_, ofAccount_eq_ok.2 ⟨attributes', said', rfl⟩, ?_⟩
  have kind : account'.typeKind = account.typeKind := by rw [h.same]; rfl
  have inner : account'.innerType? = account.innerType? := by rw [h.same]; rfl
  have declared : account'.name = account.name ∧ account'.typeTag = account.typeTag ∧
      account'.isMut = account.isMut ∧ account'.span = account.span := by
    rw [h.same]
    exact ⟨rfl, rfl, rfl, rfl⟩
  have attributes : attributes'.map (Prod.map id Resolved.inFull) =
      attributes.map (Prod.map id Resolved.inFull) := alike
  simp only [inFull, isSet_congr alike, kind, inner, declared, attributes, same, name]

end AccountFact

/-! ## Bodies -/

/-- What a node does, with every path in full. -/
def Action.inFull : Action → Action
  | .arith op lhs rhs wrapper => .arith op lhs.inFull rhs.inFull wrapper
  | .invoke program signed => .invoke program.inFull signed
  | .assign target value => .assign target.inFull value.inFull
  | .check condition => .check condition.inFull
  | .call func typeName args => .call func typeName (args.map Expr.inFull)

def BodyNode.inFull (node : BodyNode) : BodyNode :=
  { node with action := node.action.inFull }

theorem Expr.map_inFull_eq {es es' : List Expr} (h : List.Forall₂ Expr.Respells es es') :
    es'.map Expr.inFull = es.map Expr.inFull := by
  rw [← Expr.inFullAll_eq_map, ← Expr.inFullAll_eq_map, Expr.inFullAll_eq h]

theorem Action.Respells.inFull_eq {action action' : Action} (h : action.Respells action') :
    action'.inFull = action.inFull := by
  cases h with
  | arith op wrapper left right => simp only [inFull, left.inFull_eq, right.inFull_eq]
  | invoke signed called => simp only [inFull, called.inFull_eq]
  | assign place written => simp only [inFull, place.inFull_eq, written.inFull_eq]
  | check stated => simp only [inFull, stated.inFull_eq]
  | call func typeName arguments => simp only [inFull, Expr.map_inFull_eq arguments]

theorem BodyNode.map_inFull_eq {nodes nodes' : List BodyNode}
    (h : List.Forall₂ BodyNode.Respells nodes nodes') :
    nodes'.map BodyNode.inFull = nodes.map BodyNode.inFull := by
  refine map_eq_of_forall₂ h fun node node' respelled => ?_
  rw [inFull, inFull, respelled.action.inFull_eq, respelled.span]

theorem InvokeSite.ofProgram_inFull (names : List String) (seq : Nat) (location : Location)
    (target : Expr) (signed : Bool) :
    ofProgram names seq location target.inFull signed =
      (ofProgram names seq location target signed).inFull := by
  have isProgramId : isProgramId target.inFull = isProgramId target := by
    simp [InvokeSite.isProgramId]
  simp only [ofProgram, inFull, Expr.kind_inFull, Expr.root_inFull, Expr.isConstant_inFull,
    isProgramId]

theorem Operand.ofExpr_inFull (names argNames : List String) (e : Expr) :
    ofExpr names argNames e.inFull = (ofExpr names argNames e).inFull := by
  unfold ofExpr
  simp only [Expr.isConstant_inFull, Expr.kind_inFull, Expr.root_inFull]
  split
  · rfl
  · split
    · cases names.idxOf? e.root <;> rfl
    · rfl

namespace ArithmeticSite

/-- A check bounds the same paths, however they are written. -/
theorem isGuarded_inFull (checks : List CheckFact) (seq : Nat) (operands : List Operand) :
    isGuarded (checks.map CheckFact.inFull) seq (operands.map Operand.inFull) =
      isGuarded checks seq operands := by
  have live : (operands.map Operand.inFull).filter (·.provenance != .literal) =
      (operands.filter (·.provenance != .literal)).map Operand.inFull :=
    List.filter_map ..
  have keys : ∀ live : List Operand, (live.map Operand.inFull).map (·.expr.pathKey) =
      live.map (·.expr.pathKey) := by
    intro live
    simp [Operand.inFull, Function.comp_def]
  rw [isGuarded, isGuarded, live, keys, List.all_map, List.any_map]
  simp only [Operand.inFull, CheckFact.inFull, Function.comp_def, Expr.kind_inFull,
    List.isEmpty_map]
  rfl

theorem ofOperation_inFull (names argNames : List String) (checks : List CheckFact) (seq : Nat)
    (location : Location) (op : String) (lhs rhs : Expr) (wrapper : Option String) :
    ofOperation names argNames (checks.map CheckFact.inFull) seq location op lhs.inFull rhs.inFull
        wrapper =
      (ofOperation names argNames checks seq location op lhs rhs wrapper).inFull := by
  have operands : [Operand.ofExpr names argNames lhs.inFull,
      Operand.ofExpr names argNames rhs.inFull] =
      [Operand.ofExpr names argNames lhs, Operand.ofExpr names argNames rhs].map
        Operand.inFull := by
    rw [Operand.ofExpr_inFull, Operand.ofExpr_inFull]
    rfl
  simp only [ofOperation, operands, isGuarded_inFull]
  rfl

end ArithmeticSite

namespace Handler

variable {u u' : ProgramUnit} {handler handler' : Handler}

/-! ### Facts of a node -/

section Node

variable (u : ProgramUnit) (names argNames : List String) (node : BodyNode) (seq : Nat)

theorem checkFact?_inFull :
    checkFact? u names (node.inFull, seq) =
      (checkFact? u names (node, seq)).map CheckFact.inFull := by
  rcases node with ⟨span, action⟩
  cases action with
  | check condition =>
    simp [BodyNode.inFull, Action.inFull, checkFact?, CheckFact.ofCondition, CheckFact.inFull]
  | _ => rfl

theorem callFact?_inFull :
    callFact? u names (node.inFull, seq) = (callFact? u names (node, seq)).map CallFact.inFull := by
  rcases node with ⟨span, action⟩
  cases action with
  | call func typeName args =>
    simp [BodyNode.inFull, Action.inFull, callFact?, CallFact.ofCall, CallFact.inFull,
      List.flatMap_map]
  | _ => rfl

theorem invokeSite?_inFull :
    invokeSite? u names (node.inFull, seq) =
      (invokeSite? u names (node, seq)).map InvokeSite.inFull := by
  rcases node with ⟨span, action⟩
  cases action with
  | invoke program signed => exact congrArg some (InvokeSite.ofProgram_inFull names _ _ _ _)
  | _ => rfl

theorem assignFact?_inFull :
    assignFact? u names (node.inFull, seq) =
      (assignFact? u names (node, seq)).map AssignFact.inFull := by
  rcases node with ⟨span, action⟩
  cases action with
  | assign target value =>
    simp [BodyNode.inFull, Action.inFull, assignFact?, AssignFact.inFull]
  | _ => rfl

theorem arithmeticSite?_inFull (checks : List CheckFact) :
    arithmeticSite? u names argNames (checks.map CheckFact.inFull) (node.inFull, seq) =
      (arithmeticSite? u names argNames checks (node, seq)).map ArithmeticSite.inFull := by
  rcases node with ⟨span, action⟩
  cases action with
  | arith op lhs rhs wrapper =>
    exact congrArg some (ArithmeticSite.ofOperation_inFull names argNames checks _ _ _ _ _ _)
  | _ => rfl

end Node

/-- Facts of nodes whose paths are in full are those of the nodes, in full. -/
theorem map_filterMap_placed {α : Type} {f f' : PlacedNode → Option α} {inFull : α → α}
    (commutes : ∀ node seq, f' (BodyNode.inFull node, seq) = (f (node, seq)).map inFull)
    (nodes : List BodyNode) :
    (nodes.zipIdx.filterMap f).map inFull =
      (nodes.map BodyNode.inFull).zipIdx.filterMap f' := by
  rw [List.map_filterMap, List.zipIdx_map, List.filterMap_map]
  exact List.filterMap_congr fun placed _ => (commutes placed.1 placed.2).symm

/-- So they are the same for bodies that differ in how paths are written. -/
theorem map_filterMap_congr {α : Type} {f f' : PlacedNode → Option α} {inFull : α → α}
    (commutes : ∀ node seq, f' (BodyNode.inFull node, seq) = (f (node, seq)).map inFull)
    (same : handler'.body.map BodyNode.inFull = handler.body.map BodyNode.inFull) :
    (handler'.placed.filterMap f).map inFull = (handler.placed.filterMap f).map inFull := by
  rw [placed, placed, map_filterMap_placed commutes, same, ← map_filterMap_placed commutes]

/-! ### Facts of a handler -/

theorem accountNames_of_respells (h : handler.Respells handler') :
    handler'.accountNames = handler.accountNames :=
  map_eq_of_forall₂ h.params fun account account' edit => by rw [edit.same]

theorem exists_accountFacts (same : u'.location = u.location) (h : handler.Respells handler')
    {index : Nat} {accounts accounts' : List Account}
    (edits : List.Forall₂ Account.Respells accounts accounts') {facts : List AccountFact}
    (made : accountFacts u handler index accounts = .ok facts)
    (resolved : ∀ fact ∈ facts, fact.unresolvedKinds = []) :
    ∃ facts', accountFacts u' handler' index accounts' = .ok facts' ∧
      facts'.map AccountFact.inFull = facts.map AccountFact.inFull := by
  induction edits generalizing index facts with
  | nil => exact ⟨facts, made, rfl⟩
  | cons head _ ih =>
    obtain ⟨fact, more, first, others, rfl⟩ := accountFacts_cons_eq_ok.1 made
    rw [List.forall_mem_cons] at resolved
    obtain ⟨fact', first', inFull⟩ := AccountFact.exists_ofAccount_of_respells same h.name
      (accountNames_of_respells h) head first resolved.1
    obtain ⟨more', others', alike⟩ := ih others resolved.2
    refine ⟨_, accountFacts_cons_eq_ok.2 ⟨fact', more', first', others', rfl⟩, ?_⟩
    rw [List.map_cons, List.map_cons, inFull, alike]

/-- The facts of a handler are the same in full, however its paths are written. -/
theorem exists_facts_of_respells (same : u'.location = u.location)
    (h : handler.Respells handler') {facts : HandlerFacts} (made : handler.facts u = .ok facts)
    (resolved : ∀ account ∈ facts.accounts, account.unresolvedKinds = []) :
    ∃ facts', handler'.facts u' = .ok facts' ∧ facts'.inFull = facts.inFull := by
  obtain ⟨accounts, declared, rfl⟩ := facts_eq_ok.1 made
  obtain ⟨accounts', declared', alike⟩ := exists_accountFacts same h h.params declared resolved
  refine ⟨_, facts_eq_ok.2 ⟨accounts', declared', rfl⟩, ?_⟩
  have names := accountNames_of_respells h
  have body := BodyNode.map_inFull_eq h.body
  simp only [HandlerFacts.inFull, h.name, h.span, h.args, same, names, alike,
    checkFact?_congr same, callFact?_congr same, invokeSite?_congr same, assignFact?_congr same,
    arithmeticSite?_congr same]
  -- Arithmetic looks up its bounds among the checks, so these are compared first.
  have checks := map_filterMap_congr (checkFact?_inFull u handler.accountNames) body
  have arithmetic : ∀ checks checks' : List CheckFact,
      checks'.map CheckFact.inFull = checks.map CheckFact.inFull →
      (handler'.placed.filterMap (arithmeticSite? u handler.accountNames
        (handler.args.map Argument.name) checks')).map ArithmeticSite.inFull =
      (handler.placed.filterMap (arithmeticSite? u handler.accountNames
        (handler.args.map Argument.name) checks)).map ArithmeticSite.inFull := by
    intro checks checks' alike
    rw [placed, placed,
      map_filterMap_placed fun node seq => arithmeticSite?_inFull u _ _ node seq checks',
      map_filterMap_placed fun node seq => arithmeticSite?_inFull u _ _ node seq checks,
      alike, body]
  rw [checks, arithmetic _ _ checks,
    map_filterMap_congr (callFact?_inFull u handler.accountNames) body,
    map_filterMap_congr (invokeSite?_inFull u handler.accountNames) body,
    map_filterMap_congr (assignFact?_inFull u handler.accountNames) body]

/-- Whether the conditions of a body can be shown does not depend on how paths are written. -/
theorem isReportable_of_respells (h : handler.Respells handler') :
    handler'.isReportable = handler.isReportable := by
  have inFull : ∀ handler : Handler,
      ({ handler with body := handler.body.map BodyNode.inFull } : Handler).isReportable =
        handler.isReportable := by
    intro handler
    rw [isReportable, List.all_map]
    refine congrArg (List.all handler.body) (funext fun node => ?_)
    rcases node with ⟨span, action⟩
    cases action with
    | check condition => simp [BodyNode.inFull, Action.inFull]
    | _ => rfl
  -- Both are compared with the bodies in full, of which there is only one.
  calc handler'.isReportable
      = ({ handler' with body := handler'.body.map BodyNode.inFull } : Handler).isReportable :=
        (inFull handler').symm
    _ = ({ handler with body := handler.body.map BodyNode.inFull } : Handler).isReportable := by
        rw [BodyNode.map_inFull_eq h.body]
        rfl
    _ = handler.isReportable := inFull handler

end Handler

/-! ## Units -/

/-- All attributes of the handler's accounts are understood. -/
def HandlerFacts.Resolves (handler : HandlerFacts) : Prop :=
  ∀ account ∈ handler.accounts, account.unresolvedKinds = []

instance (handler : HandlerFacts) : Decidable handler.Resolves :=
  inferInstanceAs (Decidable (∀ account ∈ handler.accounts, account.unresolvedKinds = []))

namespace FactBase

variable {u u' : ProgramUnit}

theorem exists_handlersOf_of_respells (same : u'.location = u.location)
    {handlers handlers' : List Handler} (h : List.Forall₂ Handler.Respells handlers handlers')
    {facts : List HandlerFacts} (made : handlersOf u handlers = .ok facts)
    (resolved : ∀ fact ∈ facts, fact.Resolves) :
    ∃ facts', handlersOf u' handlers' = .ok facts' ∧
      facts'.map HandlerFacts.inFull = facts.map HandlerFacts.inFull := by
  induction h generalizing facts with
  | nil => exact ⟨facts, made, rfl⟩
  | cons head _ ih =>
    obtain ⟨fact, more, first, shown, others, rfl⟩ := handlersOf_cons_eq_ok.1 made
    rw [List.forall_mem_cons] at resolved
    obtain ⟨fact', first', inFull⟩ :=
      Handler.exists_facts_of_respells same head first resolved.1
    obtain ⟨more', others', alike⟩ := ih others resolved.2
    rw [← Handler.isReportable_of_respells head] at shown
    refine ⟨_, handlersOf_cons_eq_ok.2 ⟨fact', more', first', shown, others', rfl⟩, ?_⟩
    rw [List.map_cons, List.map_cons, inFull, alike]

/-- The facts are the same apart from how paths are written, and from what is said about parts of
bodies that were not understood. -/
structure AlikeInFull (facts facts' : FactBase) : Prop where
  handlers : facts'.handlers.map HandlerFacts.inFull = facts.handlers.map HandlerFacts.inFull
  structs : facts'.structs = facts.structs
  sizeGroups : facts'.sizeGroups = facts.sizeGroups

/-- Facts can be extracted however paths are written, and they are the same in full. -/
theorem exists_respelled (edit : u.Respells u') {facts : FactBase}
    (extracted : ofUnit u = .ok facts) (resolved : ∀ handler ∈ facts.handlers, handler.Resolves) :
    ∃ facts', ofUnit u' = .ok facts' ∧ facts.AlikeInFull facts' := by
  obtain ⟨handlers, structs, made, sized, rfl⟩ := ofUnit_eq_ok.1 extracted
  have same := ProgramUnit.location_congr edit.file edit.source edit.sources
  obtain ⟨handlers', made', alike⟩ :=
    exists_handlersOf_of_respells same edit.handlers made resolved
  rw [← edit.structs] at sized
  exact ⟨_, ofUnit_eq_ok.2 ⟨handlers', structs, made', sized, rfl⟩,
    { handlers := alike, structs := rfl, sizeGroups := rfl }⟩

end FactBase
end AccountAudit
