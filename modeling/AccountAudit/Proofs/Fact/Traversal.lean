import AccountAudit.Proofs.Assoc
import AccountAudit.Proofs.Fact.Consistency
import AccountAudit.Proofs.Fact.Diagnostic

/-!
# Following and showing facts

Whoever reads the facts of a handler follows positions of accounts, takes operands apart and prints
expressions. None of these steps has a result for all arguments. They have one for the facts that are
extracted from a unit, unless an integer with too many digits stands in it
(`Handler.isTraversable_of_facts`).
-/

namespace AccountAudit

/-! ## Literals -/

namespace Expr

/-- The values of the literals among some nodes. -/
def literalsOf (nodes : List Expr) : List Value :=
  (nodes.filter (·.kind == .literal)).map (·.head.value)

/-- All literals in an expression can be written. -/
def hasShortLiterals (e : Expr) : Bool :=
  (literalsOf e.walk).all Value.isWritable

theorem literalsOf_append (front back : List Expr) :
    literalsOf (front ++ back) = literalsOf front ++ literalsOf back := by
  simp [literalsOf]

theorem literalsOf_cons (node : Expr) (rest : List Expr) :
    literalsOf (node :: rest) = literalsOf [node] ++ literalsOf rest :=
  literalsOf_append [node] rest

theorem mem_literalsOf {nodes : List Expr} {node : Expr} (inside : node ∈ nodes)
    (literal : node.kind = .literal) : node.head.value ∈ literalsOf nodes :=
  List.mem_map_of_mem (List.mem_filter.2 ⟨inside, by simp [literal]⟩)

mutual

/-- The text of an expression shows literals of its nodes only. -/
theorem mem_literals_of_mem_shown {v : Value} :
    (e : Expr) → v ∈ e.shown → v ∈ literalsOf e.walk
  | .node head lhs rhs args, inside => by
    have own : head.kind = .literal → head.value ∈ literalsOf (walk (.node head lhs rhs args)) :=
      mem_literalsOf (self_mem_walk (.node head lhs rhs args))
    have inner : v ∈ shownOption lhs ∨ v ∈ shownOption rhs ∨ v ∈ shownAll args →
        v ∈ literalsOf (walk (.node head lhs rhs args)) := by
      rw [walk, literalsOf_cons, literalsOf_append, literalsOf_append]
      rintro (left | right | arguments)
      · simp [mem_literals_of_mem_shownOption lhs left]
      · simp [mem_literals_of_mem_shownOption rhs right]
      · simp [mem_literals_of_mem_shownAll args arguments]
    rw [shown] at inside
    split at inside
    · rename_i literal
      exact List.mem_singleton.1 inside ▸ own literal
    · exact inner (.inl inside)
    · exact inner (.inl inside)
    · exact inner ((List.mem_append.1 inside).imp_right .inl)
    · exact inner (.inr (.inr inside))
    · exact inner (.inr (.inr inside))
    · cases inside
    · cases inside

theorem mem_literals_of_mem_shownOption {v : Value} :
    (e? : Option Expr) → v ∈ shownOption e? → v ∈ literalsOf (walkOption e?)
  | none, inside => by cases inside
  | some e, inside => mem_literals_of_mem_shown e inside

theorem mem_literals_of_mem_shownAll {v : Value} :
    (es : List Expr) → v ∈ shownAll es → v ∈ literalsOf (walkAll es)
  | [], inside => by cases inside
  | e :: rest, inside => by
    rw [walkAll, literalsOf_append, List.mem_append]
    exact (List.mem_append.1 inside).imp (mem_literals_of_mem_shown e)
      (mem_literals_of_mem_shownAll rest)

end

theorem isWritable_of_hasShortLiterals {e : Expr} (short : e.hasShortLiterals = true) :
    e.isWritable = true := by
  rw [hasShortLiterals, List.all_eq_true] at short
  exact List.all_eq_true.2 fun v inside => short v (mem_literals_of_mem_shown e inside)

end Expr

/-! ## Expressions -/

/-- The expressions of the fact. -/
def BodyFact.exprs : BodyFact → List Expr
  | arithmetic site => site.operands.map Operand.expr
  | invoke site => [site.target]
  | assign write => [write.target, write.value]
  | check guard => [guard.condition]
  | call called => called.args

/-- A fact has the expressions of its node. -/
theorem BodyFact.exprs_of_records {u : ProgramUnit} {node : BodyNode} {event : BodyFact}
    (records : Records u node event) : event.exprs = node.exprs := by
  cases records with
  | arithmetic _ _ operands _ => exact operands
  | invoke _ target _ => exact congrArg (fun e => [e]) target
  | assign _ sameTarget sameValue => exact congrArg₂ (fun a b => [a, b]) sameTarget sameValue
  | check _ sameCondition => exact congrArg (fun e => [e]) sameCondition
  | call _ _ _ sameArgs => exact sameArgs

/-- The expressions in the attributes of accounts and in the facts of the body. -/
def HandlerFacts.exprs (facts : HandlerFacts) : List Expr :=
  (facts.accounts.flatMap fun account => account.attributes.flatMap fun said => said.2.exprs) ++
    facts.events.flatMap BodyFact.exprs

namespace HandlerFacts

variable {facts : HandlerFacts}

theorem mem_events_of_arithmetic {site : ArithmeticSite} (member : site ∈ facts.arithmetic) :
    .arithmetic site ∈ facts.events := by
  simp [events, eventLists, member]

theorem mem_events_of_invoke {site : InvokeSite} (member : site ∈ facts.invokes) :
    .invoke site ∈ facts.events := by
  simp [events, eventLists, member]

theorem mem_events_of_assign {write : AssignFact} (member : write ∈ facts.assignments) :
    .assign write ∈ facts.events := by
  simp [events, eventLists, member]

theorem mem_events_of_call {called : CallFact} (member : called ∈ facts.calls) :
    .call called ∈ facts.events := by
  simp [events, eventLists, member]

theorem mem_exprs_of_event {event : BodyFact} (inside : event ∈ facts.events) {e : Expr}
    (stated : e ∈ event.exprs) : e ∈ facts.exprs :=
  List.mem_append_right _ (List.mem_flatMap.2 ⟨event, inside, stated⟩)

theorem mem_exprs_of_attr? {account : AccountFact} (inside : account ∈ facts.accounts)
    {kind : String} {value : Resolved} (said : account.attr? kind = some value) {e : Expr}
    (stated : e ∈ value.exprs) : e ∈ facts.exprs := by
  have carried : (kind, value) ∈ account.attributes := Assoc.mem_of_lookup said
  exact List.mem_append_left _
    (List.mem_flatMap.2 ⟨account, inside, List.mem_flatMap.2 ⟨_, carried, stated⟩⟩)

theorem mem_storedIndices_of_event {event : BodyFact} (inside : event ∈ facts.events) {i : Nat}
    (stored : i ∈ event.indices) : i ∈ facts.storedIndices :=
  List.mem_append_right _ (List.mem_flatMap.2 ⟨event, inside, stored⟩)

end HandlerFacts

/-- The expression is stated by an attribute of an account of the handler, or stands in its body. -/
inductive Handler.Holds (handler : Handler) : Expr → Prop where
  | ofAttribute {account : Account} {kind : String} {raw item : Value} {e : Expr}
      (declared : account ∈ handler.params) (carried : (kind, raw) ∈ account.attributes)
      (listed : item ∈ Resolved.items raw) (stated : Resolved.States item e) : Holds handler e
  | ofNode {node : BodyNode} {e : Expr} (within : node ∈ handler.body) (inside : e ∈ node.exprs) :
      Holds handler e

/-! ## Traversable facts -/

/-- Positions of accounts can be followed, operations have two operands, and all expressions can be
shown. -/
structure HandlerFacts.IsTraversable (facts : HandlerFacts) : Prop where
  followed : ∀ i ∈ facts.storedIndices, ∃ account, facts.account? i = some account
  placed : ∀ account ∈ facts.accounts, facts.account? account.index = some account
  paired : ∀ site ∈ facts.arithmetic, ∃ lhs rhs, site.operands = [lhs, rhs]
  short : ∀ e ∈ facts.exprs, e.hasShortLiterals = true

namespace HandlerFacts.IsTraversable

variable {facts : HandlerFacts}

theorem shortCalls (h : facts.IsTraversable) :
    ∀ call ∈ facts.calls, ∀ e ∈ call.args, e.hasShortLiterals = true :=
  fun _ member e stated => h.short e (mem_exprs_of_event (mem_events_of_call member) stated)

/-- A field that is written is that of an account. -/
theorem followed_target (h : facts.IsTraversable) {write : AssignFact}
    (member : write ∈ facts.assignments) {i : Nat} (target : write.targetRef = some i) :
    ∃ account, facts.account? i = some account := by
  have stored : i ∈ (BodyFact.assign write).indices := by simp [BodyFact.indices, target]
  exact h.followed i (mem_storedIndices_of_event (mem_events_of_assign member) stored)

end HandlerFacts.IsTraversable

namespace Handler

variable {u : ProgramUnit} {handler : Handler} {facts : HandlerFacts}

/-- The expressions of an attribute are stated by its items. -/
theorem exists_stated {names : List String} {kind : String} {raw : Value} {value : Resolved}
    (said : Resolved.ofAttribute names kind raw = .ok value) {e : Expr} (inside : e ∈ value.exprs) :
    ∃ item ∈ Resolved.items raw, Resolved.States item e := by
  rcases Resolved.settles_of_ofAttribute said with means | ⟨-, reason, rfl⟩
  · cases means with
    | flag _ _ => cases inside
    | reference _ _ _ _ => cases inside
    | condition _ _ _ stated => exact exists_left_of_forall₂ stated inside
  · cases inside

/-- Nothing is made up: the expressions of the facts are those of the handler. -/
theorem holds_of_mem_exprs (made : handler.facts u = .ok facts) {e : Expr}
    (member : e ∈ facts.exprs) : handler.Holds e := by
  rcases List.mem_append.1 member with inAttribute | inBody
  · rcases List.mem_flatMap.1 inAttribute with ⟨account, inside, inAccount⟩
    rcases List.mem_flatMap.1 inAccount with ⟨said, among, stated⟩
    rcases List.getElem?_of_mem inside with ⟨place, here⟩
    rcases exists_left_of_rel (rel_accounts made place) here with ⟨declared, there, extracted⟩
    rcases AccountFact.ofAccount_eq_ok.1 extracted with ⟨attributes, resolved, rfl⟩
    rcases exists_left_of_forall₂ (AccountFact.forall₂_of_attributes? resolved) among with
      ⟨raw, carried, -, meant⟩
    rcases exists_stated meant stated with ⟨item, listed, states⟩
    exact .ofAttribute (List.mem_of_getElem? there) carried listed states
  · rcases List.mem_flatMap.1 inBody with ⟨event, inside, stated⟩
    rcases (isConsistent_of_facts made).recorded event inside with ⟨node, here, records⟩
    rw [BodyFact.exprs_of_records records] at stated
    exact .ofNode (List.mem_of_getElem? here) stated

/-- An operation has the two operands of its node. -/
theorem exists_operands (made : handler.facts u = .ok facts) {site : ArithmeticSite}
    (member : site ∈ facts.arithmetic) : ∃ lhs rhs, site.operands = [lhs, rhs] := by
  have inside := HandlerFacts.mem_events_of_arithmetic member
  rcases (isConsistent_of_facts made).recorded _ inside with ⟨node, -, records⟩
  cases records with
  | arithmetic _ _ operands _ =>
    have two : site.operands.length = 2 := by simpa using congrArg List.length operands
    exact List.length_eq_two.1 two

/-- Every step through the facts of a handler has a result if all its literals are short. -/
theorem isTraversable_of_facts (made : handler.facts u = .ok facts)
    (short : ∀ e, handler.Holds e → e.hasShortLiterals = true) : facts.IsTraversable where
  followed i member := by
    have inRange := (isConsistent_of_facts made).inRange i member
    exact ⟨facts.accounts[i], List.getElem?_eq_getElem inRange⟩
  placed account member := by
    rcases List.getElem?_of_mem member with ⟨place, here⟩
    rw [(isConsistent_of_facts made).numbered place account here]
    exact here
  paired _ := exists_operands made
  short e member := short e (holds_of_mem_exprs made member)

end Handler
end AccountAudit
