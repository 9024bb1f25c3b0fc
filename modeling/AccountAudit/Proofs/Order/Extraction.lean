import AccountAudit.Proofs.Assoc
import AccountAudit.Proofs.Fact.Settled
import AccountAudit.Proofs.Guard.Gain
import AccountAudit.Proofs.Order.Position

/-!
# Accounts in another order

A handler may declare its accounts in another order (`Handler.Reorders`). Its facts then are the same
with every position moved (`HandlerFacts.Reorders`): each account stands where it has moved to, and the
body refers to it there. Extraction succeeds for such a unit if it succeeds for the unit itself
(`FactBase.exists_reordered`).

Lists of positions that are made from words are in ascending order, so they are moved up to their order
only, and with them attributes that mention accounts, checks and calls.
-/

namespace AccountAudit

/-! ## Edits of a unit -/

/-- The handler with its accounts in another order. -/
structure Handler.Reorders (handler handler' : Handler) : Prop where
  params : handler.params.Perm handler'.params
  name : handler'.name = handler.name
  span : handler'.span = handler.span
  args : handler'.args = handler.args
  body : handler'.body = handler.body

/-- The unit with the accounts of its handlers in another order. -/
structure ProgramUnit.Reorders (u u' : ProgramUnit) : Prop where
  handlers : List.Forall₂ Handler.Reorders u.handlers u'.handlers
  name : u'.name = u.name
  file : u'.file = u.file
  programId : u'.programId = u.programId
  source : u'.source = u.source
  sources : u'.sources = u.sources
  structs : u'.structs = u.structs

/-! ## Facts with moved positions -/

section Moved

variable (σ : Equiv.Perm Nat)

/-- The attribute says the same of accounts that have moved. -/
inductive Resolved.Reorders : Resolved → Resolved → Prop where
  | reference {targets targets' : List Nat} (moved : Moved σ targets targets') :
      Reorders (.reference targets) (.reference targets')
  | flag (on : Bool) : Reorders (.flag on) (.flag on)
  | expression {exprs : List Expr} {refs refs' : List Nat} (moved : Moved σ refs refs') :
      Reorders (.expression exprs refs) (.expression exprs refs')
  | unresolved {refs refs' : List Nat} {reason : String} (moved : Moved σ refs refs') :
      Reorders (.unresolved refs reason) (.unresolved refs' reason)

/-- The account at the position to which it has moved. -/
structure AccountFact.Reorders (account account' : AccountFact) : Prop where
  same : account' =
    { account with index := σ account.index, attributes := account'.attributes }
  attributes : Assoc.Alike (Resolved.Reorders σ) account.attributes account'.attributes

/-- The check of accounts that have moved. -/
structure CheckFact.Reorders (check check' : CheckFact) : Prop where
  same : check' = { check with refs := check'.refs }
  refs : Moved σ check.refs check'.refs

/-- The call on accounts that have moved. -/
structure CallFact.Reorders (call call' : CallFact) : Prop where
  same : call' = { call with refs := call'.refs }
  refs : Moved σ call.refs call'.refs

def AssignFact.move (assign : AssignFact) : AssignFact :=
  { assign with targetRef := assign.targetRef.map σ }

def InvokeSite.move (site : InvokeSite) : InvokeSite :=
  { site with targetRef := site.targetRef.map σ }

def Operand.move (operand : Operand) : Operand :=
  { operand with ref := operand.ref.map σ }

def ArithmeticSite.move (site : ArithmeticSite) : ArithmeticSite :=
  { site with operands := site.operands.map (Operand.move σ) }

/-- The handler whose accounts have moved. -/
structure HandlerFacts.Reorders (handler handler' : HandlerFacts) : Prop where
  name : handler'.name = handler.name
  location : handler'.location = handler.location
  accounts : ∀ i, Option.Rel (AccountFact.Reorders σ) handler.accounts[i]? handler'.accounts[σ i]?
  names : Moves σ (handler.accounts.map AccountFact.name) (handler'.accounts.map AccountFact.name)
  args : handler'.args = handler.args
  invokes : handler'.invokes = handler.invokes.map (InvokeSite.move σ)
  arithmetic : handler'.arithmetic = handler.arithmetic.map (ArithmeticSite.move σ)
  checks : List.Forall₂ (CheckFact.Reorders σ) handler.checks handler'.checks
  calls : List.Forall₂ (CallFact.Reorders σ) handler.calls handler'.calls
  assignments : handler'.assignments = handler.assignments.map (AssignFact.move σ)

end Moved

variable {σ : Equiv.Perm Nat} {names names' : List String}

/-- A path leads to where its account has moved. -/
theorem Moves.path (h : Moves σ names names') (e : Expr) :
    (if e.kind = .path then names'.idxOf? e.root else none) =
      (if e.kind = .path then names.idxOf? e.root else none).map σ := by
  rw [h.idxOf?]
  split <;> rfl

/-! ## Attributes -/

namespace Resolved

variable {raw : Value} {value : Resolved}

theorem exists_ofUnknown (h : Moves σ names names') {reason : String}
    (said : ofUnknown names raw reason = .ok value) :
    ∃ value', ofUnknown names' raw reason = .ok value' ∧ value.Reorders σ value' := by
  obtain ⟨writable, rfl⟩ := ofUnknown_eq_ok.1 said
  exact ⟨_, ofUnknown_eq_ok.2 ⟨writable, rfl⟩, .unresolved (h.mentioned _)⟩

/-- The accounts that texts name are named where they have moved. -/
theorem targets_moves (h : Moves σ names names') (texts : List String) :
    targets names' texts = (targets names texts).map fun found => found.map (List.map σ) := by
  induction texts with
  | nil => rfl
  | cons s rest ih =>
    rw [targets, targets]
    cases Expr.readText (beforeRemark s) with
    | error issues => rfl
    | ok e =>
      dsimp only
      rw [h.path, ih]
      cases (if e.kind = .path then names.idxOf? e.root else none) with
      | none => rfl
      | some index =>
        cases targets names rest with
        | error issues => rfl
        | ok found => cases found <;> rfl

theorem exists_ofReference (h : Moves σ names names') (said : ofReference names raw = .ok value) :
    ∃ value', ofReference names' raw = .ok value' ∧ value.Reorders σ value' := by
  unfold ofReference at said ⊢
  split at said
  · exact exists_ofUnknown h said
  · exact exists_ofUnknown h said
  · rename_i texts nonempty given
    rw [targets_moves h]
    cases found : targets names texts with
    | error issues => simp [found] at said
    | ok result =>
      cases result with
      | error s =>
        simp only [found] at said
        exact exists_ofUnknown h said
      | ok indices =>
        simp only [found, Except.ok.injEq] at said
        subst said
        exact ⟨_, rfl, .reference (matched_map σ indices)⟩

theorem exists_ofCondition (h : Moves σ names names') (said : ofCondition names raw = .ok value) :
    ∃ value', ofCondition names' raw = .ok value' ∧ value.Reorders σ value' := by
  unfold ofCondition at said ⊢
  cases found : conditions (items raw) with
  | error reason =>
    simp only [found] at said
    exact exists_ofUnknown h said
  | ok exprs =>
    simp only [found, Except.ok.injEq] at said
    subst said
    exact ⟨_, rfl, .expression (h.mentioned _)⟩

/-- An attribute says the same of accounts that have moved. -/
theorem exists_ofAttribute (h : Moves σ names names') {kind : String}
    (said : ofAttribute names kind raw = .ok value) :
    ∃ value', ofAttribute names' kind raw = .ok value' ∧ value.Reorders σ value' := by
  unfold ofAttribute at said ⊢
  by_cases refers : kind ∈ referenceKinds
  · rw [if_pos refers] at said ⊢
    exact exists_ofReference h said
  · rw [if_neg refers] at said ⊢
    cases given : flag? raw with
    | some on =>
      simp only [given, Except.ok.injEq] at said
      subst said
      exact ⟨_, rfl, .flag on⟩
    | none =>
      simp only [given] at said ⊢
      by_cases flag : kind ∈ flagKinds
      · rw [if_pos flag] at said ⊢
        exact exists_ofUnknown h said
      · rw [if_neg flag] at said ⊢
        exact exists_ofCondition h said

namespace Reorders

variable {value' : Resolved}

theorem isUnknown (h : value.Reorders σ value') : value'.isUnknown = value.isUnknown := by
  cases h <;> rfl

theorem isTrue (h : value.Reorders σ value') : value'.isTrue = value.isTrue := by
  cases h <;> rfl

theorem exprs (h : value.Reorders σ value') : value'.exprs = value.exprs := by
  cases h <;> rfl

theorem reason (h : value.Reorders σ value') : value'.reason = value.reason := by
  cases h <;> rfl

theorem refs (h : value.Reorders σ value') : Moved σ value.refs value'.refs := by
  cases h with
  | flag on => exact matched_of_forall₂ .nil
  | reference moved => exact moved
  | expression moved => exact moved
  | unresolved moved => exact moved

end Reorders

end Resolved

/-! ## Accounts -/

namespace AccountFact

theorem exists_attributes? (h : Moves σ names names') {raws : List (String × Value)}
    {attributes : List (String × Resolved)} (made : attributes? names raws = .ok attributes) :
    ∃ attributes', attributes? names' raws = .ok attributes' ∧
      Assoc.Alike (Resolved.Reorders σ) attributes attributes' := by
  induction raws generalizing attributes with
  | nil =>
    obtain rfl := Except.ok.inj made
    exact ⟨[], rfl, .nil⟩
  | cons entry rest ih =>
    rcases entry with ⟨kind, raw⟩
    rcases attributes?_cons_eq_ok.1 made with ⟨value, more, said, others, rfl⟩
    rcases Resolved.exists_ofAttribute h said with ⟨value', said', related⟩
    rcases ih others with ⟨more', others', alike⟩
    exact ⟨_, attributes?_cons_eq_ok.2 ⟨value', more', said', others', rfl⟩,
      .cons ⟨rfl, related⟩ alike⟩

theorem isSet_eq {attributes attributes' : List (String × Resolved)}
    (h : Assoc.Alike (Resolved.Reorders σ) attributes attributes') (kind : String) :
    isSet attributes' kind = isSet attributes kind :=
  any_eq_of_rel (Assoc.rel_lookup h kind) fun _ _ related => related.isTrue

/-- The attributes that were not understood. -/
theorem Reorders.unknown {account account' : AccountFact} (h : account.Reorders σ account') :
    Assoc.Alike (Resolved.Reorders σ) (account.attributes.filter (·.2.isUnknown))
      (account'.attributes.filter (·.2.isUnknown)) :=
  forall₂_filter h.attributes fun _ _ related => related.2.isUnknown

/-- What was not understood of an account is said in the same words. -/
theorem Reorders.diagnostic? {account account' : AccountFact} (h : account.Reorders σ account') :
    account'.diagnostic? = account.diagnostic? := by
  have none := (matched_of_forall₂ h.unknown).isEmpty_eq
  have detail := map_eq_of_forall₂ h.unknown
    (f := fun said => "`" ++ said.1 ++ "` (" ++ said.2.reason ++ ")")
    (g := fun said => "`" ++ said.1 ++ "` (" ++ said.2.reason ++ ")")
    fun _ _ related => by rw [related.1, related.2.reason]
  rw [AccountFact.diagnostic?, none, detail, h.same, AccountFact.diagnostic?]

variable {u u' : ProgramUnit} {handler handler' : Handler}

/-- The facts of an account that has moved. -/
theorem exists_ofAccount (same : u'.location = u.location) (name : handler'.name = handler.name)
    (h : Moves σ handler.accountNames handler'.accountNames) {index : Nat} {account : Account}
    {fact : AccountFact} (made : ofAccount u handler index account = .ok fact) :
    ∃ fact', ofAccount u' handler' (σ index) account = .ok fact' ∧ fact.Reorders σ fact' := by
  rcases ofAccount_eq_ok.1 made with ⟨attributes, resolved, rfl⟩
  rcases exists_attributes? h resolved with ⟨attributes', resolved', alike⟩
  refine ⟨_, ofAccount_eq_ok.2 ⟨attributes', resolved', rfl⟩, ?_, alike⟩
  simp only [isSet_eq alike, same, name]

/-- The diagnostic about an account, which does not depend on its position. -/
def declaredDiagnostic? (u : ProgramUnit) (handler : Handler) (account : Account) : Option Finding :=
  (ofAccount u handler 0 account).toOption.bind diagnostic?

theorem diagnostic?_of_ofAccount {index : Nat} {account : Account} {fact : AccountFact}
    (made : ofAccount u handler index account = .ok fact) :
    fact.diagnostic? = declaredDiagnostic? u handler account := by
  rcases ofAccount_eq_ok.1 made with ⟨attributes, resolved, rfl⟩
  rw [declaredDiagnostic?, ofAccount_eq_ok.2 ⟨attributes, resolved, rfl⟩]
  rfl

theorem diagnostic?_of_moves (same : u'.location = u.location) (name : handler'.name = handler.name)
    (h : Moves σ handler.accountNames handler'.accountNames) {index : Nat} {account : Account}
    {fact' : AccountFact} (made : ofAccount u' handler' index account = .ok fact') :
    fact'.diagnostic? = declaredDiagnostic? u handler account := by
  rcases exists_ofAccount same.symm name.symm h.symm made with ⟨fact, extracted, related⟩
  rw [← related.diagnostic?, diagnostic?_of_ofAccount extracted]

end AccountFact

/-! ## Bodies -/

theorem InvokeSite.ofProgram_moves (h : Moves σ names names') (seq : Nat) (location : Location)
    (target : Expr) (signed : Bool) :
    ofProgram names' seq location target signed =
      (ofProgram names seq location target signed).move σ := by
  simp only [ofProgram, move, h.path, Option.isNone_map]

theorem Operand.ofExpr_moves (h : Moves σ names names') (argNames : List String) (e : Expr) :
    ofExpr names' argNames e = (ofExpr names argNames e).move σ := by
  rw [ofExpr, ofExpr, h.idxOf?]
  split
  · rfl
  · split
    · cases names.idxOf? e.root <;> rfl
    · rfl

namespace ArithmeticSite

variable {checks checks' : List CheckFact}

/-- Bounds are checked of paths, wherever their accounts stand. -/
theorem isGuarded_eq (h : List.Forall₂ (CheckFact.Reorders σ) checks checks') (seq : Nat)
    (operands : List Operand) :
    isGuarded checks' seq (operands.map (Operand.move σ)) = isGuarded checks seq operands := by
  have live : (operands.map (Operand.move σ)).filter (·.provenance != .literal) =
      (operands.filter (·.provenance != .literal)).map (Operand.move σ) := by
    rw [List.filter_map]
    rfl
  have checked : ∀ paths, (checks'.any fun check => check.seq < seq && bounds check paths) =
      checks.any fun check => check.seq < seq && bounds check paths := by
    intro paths
    refine any_eq_of_forall₂ h fun check check' related => ?_
    rw [related.same]
    rfl
  rw [isGuarded, isGuarded, live, checked, List.all_map, List.isEmpty_map, List.map_map]
  rfl

theorem ofOperation_moves (h : Moves σ names names')
    (related : List.Forall₂ (CheckFact.Reorders σ) checks checks') (argNames : List String)
    (seq : Nat) (location : Location) (op : String) (lhs rhs : Expr) (wrapper : Option String) :
    ofOperation names' argNames checks' seq location op lhs rhs wrapper =
      (ofOperation names argNames checks seq location op lhs rhs wrapper).move σ := by
  have guarded := isGuarded_eq related seq
    [Operand.ofExpr names argNames lhs, Operand.ofExpr names argNames rhs]
  rw [ofOperation, ofOperation, Operand.ofExpr_moves h, Operand.ofExpr_moves h]
  simp only [List.map_cons, List.map_nil] at guarded
  simp only [move, guarded, List.map_cons, List.map_nil]

end ArithmeticSite

namespace Handler

variable {u u' : ProgramUnit}

theorem rel_checkFact? (same : u'.location = u.location) (h : Moves σ names names')
    (node : PlacedNode) :
    Option.Rel (CheckFact.Reorders σ) (checkFact? u names node) (checkFact? u' names' node) := by
  rcases node with ⟨⟨span, action⟩, seq⟩
  rw [checkFact?_congr same]
  cases action with
  | check condition => exact .some ⟨rfl, h.mentioned _⟩
  | _ => exact .none

theorem rel_callFact? (same : u'.location = u.location) (h : Moves σ names names')
    (node : PlacedNode) :
    Option.Rel (CallFact.Reorders σ) (callFact? u names node) (callFact? u' names' node) := by
  rcases node with ⟨⟨span, action⟩, seq⟩
  rw [callFact?_congr same]
  cases action with
  | call func typeName args => exact .some ⟨rfl, h.mentioned _⟩
  | _ => exact .none

theorem invokeSite?_moves (same : u'.location = u.location) (h : Moves σ names names')
    (node : PlacedNode) :
    invokeSite? u' names' node = (invokeSite? u names node).map (InvokeSite.move σ) := by
  rcases node with ⟨⟨span, action⟩, seq⟩
  rw [invokeSite?_congr same]
  cases action with
  | invoke program signed => exact congrArg some (InvokeSite.ofProgram_moves h _ _ _ _)
  | _ => rfl

theorem assignFact?_moves (same : u'.location = u.location) (h : Moves σ names names')
    (node : PlacedNode) :
    assignFact? u' names' node = (assignFact? u names node).map (AssignFact.move σ) := by
  rcases node with ⟨⟨span, action⟩, seq⟩
  rw [assignFact?_congr same]
  cases action with
  | assign target value =>
    simp only [assignFact?, h.idxOf?]
    rfl
  | _ => rfl

theorem arithmeticSite?_moves (same : u'.location = u.location) (h : Moves σ names names')
    {checks checks' : List CheckFact}
    (related : List.Forall₂ (CheckFact.Reorders σ) checks checks') (argNames : List String)
    (node : PlacedNode) :
    arithmeticSite? u' names' argNames checks' node =
      (arithmeticSite? u names argNames checks node).map (ArithmeticSite.move σ) := by
  rcases node with ⟨⟨span, action⟩, seq⟩
  rw [arithmeticSite?_congr same]
  cases action with
  | arith op lhs rhs wrapper =>
    exact congrArg some (ArithmeticSite.ofOperation_moves h related _ _ _ _ _ _ _)
  | _ => rfl

/-- Facts that move with the accounts make a list that does. -/
theorem filterMap_moves {α : Type} {f f' : PlacedNode → Option α} {move : α → α}
    (moves : ∀ node, f' node = (f node).map move) (nodes : List PlacedNode) :
    nodes.filterMap f' = (nodes.filterMap f).map move := by
  rw [List.map_filterMap]
  exact List.filterMap_congr fun node _ => moves node

end Handler

/-! ## Handlers -/

namespace Handler

variable {u u' : ProgramUnit} {handler handler' : Handler}

/-- The names of the accounts move with the accounts. -/
theorem Reorders.exists_moves (h : handler.Reorders handler') :
    ∃ σ : Equiv.Perm Nat, Moves σ handler.accountNames handler'.accountNames ∧
      ∀ i, handler'.params[σ i]? = handler.params[i]? := by
  rcases AccountAudit.exists_moves h.params with ⟨σ, moves⟩
  refine ⟨σ, ⟨fun i => ?_, handler.params_distinct, handler'.params_distinct⟩, moves⟩
  rw [accountNames, accountNames, List.getElem?_map, List.getElem?_map, moves]

/-- A handler has facts whatever the order of its accounts. -/
theorem exists_facts_of_moves (same : u'.location = u.location) (h : handler.Reorders handler')
    (names : Moves σ handler.accountNames handler'.accountNames) {facts : HandlerFacts}
    (made : handler.facts u = .ok facts) : ∃ facts', handler'.facts u' = .ok facts' := by
  refine exists_facts_iff.2 fun account inside => ?_
  rcases List.getElem?_of_mem (h.params.mem_iff.2 inside) with ⟨index, here⟩
  rcases exists_right_of_rel (rel_accounts made index) here with ⟨fact, -, extracted⟩
  rcases AccountFact.exists_ofAccount same h.name names extracted with ⟨fact', extracted', -⟩
  exact (AccountFact.exists_ofAccount_iff u' handler' (σ index) account).1 ⟨fact', extracted'⟩

/-- The facts of the accounts stand where the accounts have moved. -/
theorem rel_accounts_of_moves (same : u'.location = u.location) (name : handler'.name = handler.name)
    (names : Moves σ handler.accountNames handler'.accountNames)
    (params : ∀ i, handler'.params[σ i]? = handler.params[i]?) {facts facts' : HandlerFacts}
    (made : handler.facts u = .ok facts) (made' : handler'.facts u' = .ok facts') (i : Nat) :
    Option.Rel (AccountFact.Reorders σ) facts.accounts[i]? facts'.accounts[σ i]? := by
  have after := rel_accounts made' (σ i)
  rw [params] at after
  -- At both positions stands what is made of the same declaration.
  rcases rel_cases (rel_accounts made i) with ⟨absent, none⟩ | ⟨account, fact, declared, found, extracted⟩
  · rw [none, eq_none_of_rel after absent]
    exact .none
  · rcases exists_right_of_rel after declared with ⟨fact', found', extracted'⟩
    rcases AccountFact.exists_ofAccount same name names extracted with ⟨again, extracted'', related⟩
    obtain rfl := Except.ok.inj (extracted''.symm.trans extracted')
    rw [found, found']
    exact .some related

/-- The facts of a handler whose accounts stand in another order. -/
theorem exists_facts_of_reorders (same : u'.location = u.location) (h : handler.Reorders handler')
    {facts : HandlerFacts} (made : handler.facts u = .ok facts) :
    ∃ facts', handler'.facts u' = .ok facts' ∧ ∃ σ, facts.Reorders σ facts' := by
  rcases h.exists_moves with ⟨σ, names, params⟩
  rcases exists_facts_of_moves same h names made with ⟨facts', made'⟩
  refine ⟨facts', made', σ, ?_⟩
  have accounts := rel_accounts_of_moves same h.name names params made made'
  have moved := names
  rw [← names_of_facts made, ← names_of_facts made'] at moved
  rcases facts_eq_ok.1 made with ⟨_, -, rfl⟩
  rcases facts_eq_ok.1 made' with ⟨_, -, rfl⟩
  have placed : handler'.placed = handler.placed := by rw [placed, placed, h.body]
  -- Arithmetic looks up its bounds among the checks, so these come first.
  have checks : List.Forall₂ (CheckFact.Reorders σ)
      (handler.placed.filterMap (checkFact? u handler.accountNames))
      (handler'.placed.filterMap (checkFact? u' handler'.accountNames)) := by
    rw [placed]
    exact forall₂_filterMap_of_rel fun node => rel_checkFact? same names node
  exact
    { name := h.name
      location := by rw [same, h.span]
      accounts
      names := moved
      args := by rw [h.args]
      invokes := by rw [placed, filterMap_moves (invokeSite?_moves same names)]
      arithmetic := by
        rw [h.args, filterMap_moves (arithmeticSite?_moves same names checks _), placed]
      checks
      calls := by
        rw [placed]
        exact forall₂_filterMap_of_rel fun node => rel_callFact? same names node
      assignments := by rw [placed, filterMap_moves (assignFact?_moves same names)] }

theorem nodeDiagnostic?_congr (same : u'.location = u.location) (name : handler'.name = handler.name) :
    nodeDiagnostic? u' handler' = nodeDiagnostic? u handler := by
  funext node
  unfold nodeDiagnostic?
  simp only [same, name]

/-- The diagnostics are the same, those of accounts in another order. -/
theorem perm_diagnostics (same : u'.location = u.location) (h : handler.Reorders handler')
    {facts facts' : HandlerFacts} (made : handler.facts u = .ok facts)
    (made' : handler'.facts u' = .ok facts') :
    (handler'.diagnostics u' facts').Perm (handler.diagnostics u facts) := by
  rcases h.exists_moves with ⟨σ, names, -⟩
  rw [diagnostics, diagnostics, nodeDiagnostic?_congr same h.name, h.body,
    filterMap_accounts made fun _ _ _ => AccountFact.diagnostic?_of_ofAccount,
    filterMap_accounts made' fun _ _ _ => AccountFact.diagnostic?_of_moves same h.name names]
  -- What is said of the body is the same now, and of each account it does not depend on its position.
  exact (h.params.symm.filterMap _).append_right _

end Handler

/-! ## Units -/

namespace FactBase

variable {u u' : ProgramUnit}

theorem exists_handlersOf_of_reorders (same : u'.location = u.location)
    {handlers handlers' : List Handler} (h : List.Forall₂ Handler.Reorders handlers handlers')
    {facts : List HandlerFacts} (made : handlersOf u handlers = .ok facts) :
    ∃ facts', handlersOf u' handlers' = .ok facts' ∧
      List.Forall₂ (fun fact fact' => ∃ σ, HandlerFacts.Reorders σ fact fact') facts facts' ∧
      ((handlers'.zip facts').flatMap fun (handler, facts) => handler.diagnostics u' facts).Perm
        ((handlers.zip facts).flatMap fun (handler, facts) => handler.diagnostics u facts) := by
  induction h generalizing facts with
  | nil =>
    obtain rfl := Except.ok.inj made
    exact ⟨[], rfl, .nil, .refl _⟩
  | @cons handler handler' _ _ head _ ih =>
    rcases handlersOf_cons_eq_ok.1 made with ⟨fact, more, extracted, showable, others, rfl⟩
    rcases Handler.exists_facts_of_reorders same head extracted with ⟨fact', extracted', related⟩
    rcases ih others with ⟨more', others', alike, perm⟩
    have showable' : handler'.isReportable = true := by
      rw [Handler.isReportable, head.body]
      exact showable
    exact ⟨_, handlersOf_cons_eq_ok.2 ⟨fact', more', extracted', showable', others', rfl⟩,
      .cons related alike, (Handler.perm_diagnostics same head extracted extracted').append perm⟩

/-- The facts of a unit whose accounts stand in another order: the same ones of accounts that have
moved. -/
structure Reorders (facts facts' : FactBase) : Prop where
  structs : facts'.structs = facts.structs
  sizeGroups : facts'.sizeGroups = facts.sizeGroups
  handlers : List.Forall₂ (fun fact fact' => ∃ σ, HandlerFacts.Reorders σ fact fact') facts.handlers
    facts'.handlers
  diagnostics : facts'.diagnostics.Perm facts.diagnostics

/-- A unit has facts whatever the order of its accounts. -/
theorem exists_reordered (h : u.Reorders u') {facts : FactBase} (made : ofUnit u = .ok facts) :
    ∃ facts', ofUnit u' = .ok facts' ∧ facts.Reorders facts' := by
  have location : u'.location = u.location :=
    ProgramUnit.location_congr h.file h.source h.sources
  rcases ofUnit_eq_ok.1 made with ⟨handlers, structs, extracted, sized, rfl⟩
  rcases exists_handlersOf_of_reorders location h.handlers extracted with
    ⟨handlers', extracted', related, perm⟩
  refine ⟨_, ofUnit_eq_ok.2 ⟨handlers', structs, extracted', ?_, rfl⟩, rfl, rfl, related, perm⟩
  rw [h.structs, sized]

end FactBase

end AccountAudit
