import AccountAudit.Proofs.Detector.Prefix
import AccountAudit.Proofs.Fact.Resolution
import Mathlib.Data.List.Perm.Basic

/-!
# The facts of a unit fit together

Rules look accounts up by name or by position, follow the positions that facts store, and compare the
positions of body events, without asking whether any of these exist. They need not ask: the facts of a
handler that were extracted from a unit are consistent (`HandlerFacts.IsConsistent`). Names and
positions of accounts agree, every node of the body has exactly one fact, which stands under the kind
of the node in the order of the body, and every stored position is that of an account.
-/

namespace AccountAudit

/-! ## Body events of all kinds -/

/-- The fact of a body node. -/
inductive BodyFact where
  | arithmetic (site : ArithmeticSite)
  | invoke (site : InvokeSite)
  | assign (write : AssignFact)
  | check (guard : CheckFact)
  | call (called : CallFact)
  deriving DecidableEq, Repr

namespace BodyFact

/-- The position of the node. -/
def seq : BodyFact → Nat
  | arithmetic site => site.seq
  | invoke site => site.seq
  | assign write => write.seq
  | check guard => guard.seq
  | call called => called.seq

/-- The positions of accounts that the fact stores. -/
def indices : BodyFact → List Nat
  | arithmetic site => site.operands.filterMap Operand.ref
  | invoke site => site.targetRef.toList
  | assign write => write.targetRef.toList
  | check guard => guard.refs
  | call called => called.refs

/-- The fact says what the node says, and where it says it. -/
inductive Records (u : ProgramUnit) : BodyNode → BodyFact → Prop where
  | arithmetic {span : Span} {op : String} {lhs rhs : Expr} {wrapper : Option String}
      {site : ArithmeticSite} (location : site.location = u.location span) (sameOp : site.op = op)
      (operands : site.operands.map Operand.expr = [lhs, rhs])
      (sameWrapper : site.wrapper = wrapper) :
      Records u ⟨span, .arith op lhs rhs wrapper⟩ (.arithmetic site)
  | invoke {span : Span} {program : Expr} {signed : Bool} {site : InvokeSite}
      (location : site.location = u.location span) (target : site.target = program)
      (sameSigned : site.signed = signed) :
      Records u ⟨span, .invoke program signed⟩ (.invoke site)
  | assign {span : Span} {target value : Expr} {write : AssignFact}
      (location : write.location = u.location span) (sameTarget : write.target = target)
      (sameValue : write.value = value) :
      Records u ⟨span, .assign target value⟩ (.assign write)
  | check {span : Span} {condition : Expr} {guard : CheckFact}
      (location : guard.location = u.location span) (sameCondition : guard.condition = condition) :
      Records u ⟨span, .check condition⟩ (.check guard)
  | call {span : Span} {func typeName : String} {args : List Expr} {called : CallFact}
      (location : called.location = u.location span) (sameFunc : called.func = func)
      (sameTypeName : called.typeName = typeName) (sameArgs : called.args = args) :
      Records u ⟨span, .call func typeName args⟩ (.call called)

end BodyFact

namespace HandlerFacts

/-- The facts of the body, one list for each kind. -/
def eventLists (facts : HandlerFacts) : List (List BodyFact) :=
  [facts.arithmetic.map .arithmetic, facts.invokes.map .invoke, facts.assignments.map .assign,
    facts.checks.map .check, facts.calls.map .call]

/-- The facts of the body, kind by kind. -/
def events (facts : HandlerFacts) : List BodyFact :=
  facts.eventLists.flatten

/-- The positions of accounts that are stored in attributes and in facts of the body. -/
def storedIndices (facts : HandlerFacts) : List Nat :=
  (facts.accounts.flatMap fun account => account.attributes.flatMap fun said => said.2.refs) ++
    facts.events.flatMap BodyFact.indices

/-- The facts of a handler fit together and fit the handler. -/
structure IsConsistent (u : ProgramUnit) (handler : Handler) (facts : HandlerFacts) : Prop where
  /-- There is one fact for each account. -/
  names : facts.accounts.map AccountFact.name = handler.accountNames
  /-- The accounts are numbered by their positions. -/
  numbered : ∀ i account, facts.account? i = some account → account.index = i
  /-- A name has the position of the account of that name. -/
  position : ∀ name i, handler.accountNames.idxOf? name = some i ↔
    ∃ account, facts.account? i = some account ∧ account.name = name
  /-- To look an account up by its name is to look it up by its position. -/
  lookUp : ∀ name, facts.accountNamed? name =
    (handler.accountNames.idxOf? name).bind facts.account?
  /-- The facts of each kind follow the body. -/
  increasing : ∀ events ∈ facts.eventLists, (events.map BodyFact.seq).Pairwise (· < ·)
  /-- Each position of the body is that of exactly one fact. -/
  covered : (facts.events.map BodyFact.seq).Perm (List.range handler.body.length)
  /-- The fact at a position is that of the node at the position. -/
  recorded : ∀ event ∈ facts.events,
    ∃ node, handler.body[event.seq]? = some node ∧ BodyFact.Records u node event
  /-- No stored position is out of range. -/
  inRange : ∀ i ∈ facts.storedIndices, i < facts.accounts.length

end HandlerFacts

/-! ## One fact for each node -/

/-- What several partial functions make of a list is, up to the order, what they make of each item. -/
theorem perm_flatten_filterMap {α β : Type} (fs : List (α → Option β)) (items : List α) :
    (fs.map fun f => items.filterMap f).flatten.Perm
      (items.flatMap fun a => fs.filterMap fun f => f a) := by
  -- By induction on the functions: the first one's results can be moved to the items they are made of.
  induction fs with
  | nil => simp
  | cons f fs ih =>
    have heads : ∀ a, (f :: fs).filterMap (fun g => g a) =
        (f a).toList ++ fs.filterMap fun g => g a := by
      intro a
      cases made : f a <;> simp [made]
    simp only [heads]
    rw [List.map_cons, List.flatten_cons, List.filterMap_eq_flatMap_toList]
    exact (ih.append_left _).trans (List.flatMap_append_perm items _ _)

namespace Handler

variable {u : ProgramUnit} {handler : Handler} {facts : HandlerFacts}

/-- The fact of a node, given what the handler checks. -/
def bodyFact (u : ProgramUnit) (handler : Handler) (checks : List CheckFact) :
    PlacedNode → BodyFact
  | (⟨span, .arith op lhs rhs wrapper⟩, seq) =>
    .arithmetic (.ofOperation handler.accountNames (handler.args.map Argument.name) checks seq
      (u.location span) op lhs rhs wrapper)
  | (⟨span, .invoke program signed⟩, seq) =>
    .invoke (.ofProgram handler.accountNames seq (u.location span) program signed)
  | (⟨span, .assign target value⟩, seq) =>
    .assign { seq, location := u.location span, target, value,
              targetRef := handler.accountNames.idxOf? target.root }
  | (⟨span, .check condition⟩, seq) =>
    .check (.ofCondition handler.accountNames seq (u.location span) condition)
  | (⟨span, .call func typeName args⟩, seq) =>
    .call (.ofCall handler.accountNames seq (u.location span) func typeName args)

/-- The ways in which facts are made of nodes, one for each kind. -/
def bodyReaders (u : ProgramUnit) (handler : Handler) (checks : List CheckFact) :
    List (PlacedNode → Option BodyFact) :=
  [fun placed => (arithmeticSite? u handler.accountNames (handler.args.map Argument.name) checks
      placed).map .arithmetic,
    fun placed => (invokeSite? u handler.accountNames placed).map .invoke,
    fun placed => (assignFact? u handler.accountNames placed).map .assign,
    fun placed => (checkFact? u handler.accountNames placed).map .check,
    fun placed => (callFact? u handler.accountNames placed).map .call]

theorem eventLists_of_facts (made : handler.facts u = .ok facts) :
    facts.eventLists = (bodyReaders u handler facts.checks).map fun reader =>
      handler.placed.filterMap reader := by
  rcases facts_eq_ok.1 made with ⟨accounts, -, rfl⟩
  simp only [HandlerFacts.eventLists, List.map_filterMap]
  rfl

/-- Exactly one of the ways applies to a node. -/
theorem filterMap_bodyReaders (checks : List CheckFact) (placed : PlacedNode) :
    ((bodyReaders u handler checks).filterMap fun reader => reader placed) =
      [bodyFact u handler checks placed] := by
  rcases placed with ⟨⟨span, action⟩, seq⟩
  cases action <;> rfl

theorem seq_bodyFact (checks : List CheckFact) (placed : PlacedNode) :
    (bodyFact u handler checks placed).seq = placed.2 := by
  rcases placed with ⟨⟨span, action⟩, seq⟩
  cases action <;> rfl

theorem expr_ofExpr (names argNames : List String) (e : Expr) :
    (Operand.ofExpr names argNames e).expr = e := by
  unfold Operand.ofExpr
  split
  · rfl
  · split
    · split <;> rfl
    · rfl

theorem records_bodyFact (checks : List CheckFact) (placed : PlacedNode) :
    BodyFact.Records u placed.1 (bodyFact u handler checks placed) := by
  rcases placed with ⟨⟨span, action⟩, seq⟩
  cases action with
  | arith op lhs rhs wrapper =>
    refine .arithmetic rfl rfl ?_ rfl
    simp only [ArithmeticSite.ofOperation, List.map_cons, List.map_nil, expr_ofExpr]
  | invoke program signed => exact .invoke rfl rfl rfl
  | assign target value => exact .assign rfl rfl rfl
  | check condition => exact .check rfl rfl
  | call func typeName args => exact .call rfl rfl rfl rfl

/-- A way that applies to a node gives its fact. -/
theorem eq_bodyFact {checks : List CheckFact} {reader : PlacedNode → Option BodyFact}
    (known : reader ∈ bodyReaders u handler checks) {placed : PlacedNode} {event : BodyFact}
    (read : reader placed = some event) : event = bodyFact u handler checks placed := by
  have inside : event ∈ (bodyReaders u handler checks).filterMap fun reader => reader placed :=
    List.mem_filterMap.2 ⟨reader, known, read⟩
  rw [filterMap_bodyReaders] at inside
  exact List.mem_singleton.1 inside

/-- The facts of the body are those of its nodes. -/
theorem perm_events (made : handler.facts u = .ok facts) :
    facts.events.Perm (handler.placed.map (bodyFact u handler facts.checks)) := by
  rw [HandlerFacts.events, eventLists_of_facts made]
  have each := perm_flatten_filterMap (bodyReaders u handler facts.checks) handler.placed
  simp only [filterMap_bodyReaders] at each
  rwa [← List.map_eq_flatMap] at each

theorem pairwise_placed (handler : Handler) :
    handler.placed.Pairwise fun first second => first.2 < second.2 := by
  have positions : (handler.placed.map Prod.snd).Pairwise (· < ·) := by
    rw [placed, List.zipIdx_map_snd]
    exact List.pairwise_lt_range'
  exact List.pairwise_map.1 positions

/-- The facts of one kind follow the body. -/
theorem pairwise_seq_of_mem_eventLists (made : handler.facts u = .ok facts)
    {events : List BodyFact} (member : events ∈ facts.eventLists) :
    (events.map BodyFact.seq).Pairwise (· < ·) := by
  rw [eventLists_of_facts made] at member
  rcases List.mem_map.1 member with ⟨reader, known, rfl⟩
  rw [List.pairwise_map]
  refine handler.pairwise_placed.filterMap reader ?_
  intro first second before event here event' there
  rw [eq_bodyFact known here, eq_bodyFact known there, seq_bodyFact, seq_bodyFact]
  exact before

/-! ## Stored positions -/

theorem lt_of_mem_mentioned {names words : List String} {i : Nat}
    (member : i ∈ mentioned names words) : i < names.length := by
  rcases mem_mentioned.1 member with ⟨name, here, -⟩
  exact (List.getElem?_eq_some_iff.1 here).1

theorem lt_of_idxOf? {names : List String} {name : String} {i : Nat}
    (found : names.idxOf? name = some i) : i < names.length :=
  (List.idxOf?_eq_some_iff.1 found).1

/-- What an attribute means, or mentions, is in range. -/
theorem lt_of_mem_refs {names : List String} {kind : String} {raw : Value} {value : Resolved}
    (said : Resolved.ofAttribute names kind raw = .ok value) {i : Nat} (member : i ∈ value.refs) :
    i < names.length := by
  rcases Resolved.settles_of_ofAttribute said with means | ⟨-, reason, rfl⟩
  · cases means with
    | flag _ _ => cases member
    | reference _ _ _ named =>
      rcases exists_left_of_forall₂ named member with ⟨s, -, e, -, -, place⟩
      exact lt_of_idxOf? place
    | condition _ _ _ _ => exact lt_of_mem_mentioned member
  · exact lt_of_mem_mentioned member

theorem lt_of_operandRef {names argNames : List String} {e : Expr} {i : Nat}
    (stored : (Operand.ofExpr names argNames e).ref = some i) : i < names.length := by
  unfold Operand.ofExpr at stored
  split at stored
  · cases stored
  · split at stored
    · split at stored
      · rename_i found
        obtain rfl := Option.some.inj stored
        exact lt_of_idxOf? found
      · cases stored
    · cases stored

theorem lt_of_mem_indices {checks : List CheckFact} {placed : PlacedNode} {i : Nat}
    (member : i ∈ (bodyFact u handler checks placed).indices) :
    i < handler.accountNames.length := by
  rcases placed with ⟨⟨span, action⟩, seq⟩
  cases action with
  | arith op lhs rhs wrapper =>
    rcases List.mem_filterMap.1 member with ⟨operand, inside, stored⟩
    rcases List.mem_pair.1 inside with rfl | rfl
    · exact lt_of_operandRef stored
    · exact lt_of_operandRef stored
  | invoke program signed =>
    have stored := Option.mem_toList.1 member
    simp only [InvokeSite.ofProgram, Option.ite_none_right_eq_some] at stored
    exact lt_of_idxOf? stored.2
  | assign target value => exact lt_of_idxOf? (Option.mem_toList.1 member)
  | check condition => exact lt_of_mem_mentioned member
  | call func typeName args => exact lt_of_mem_mentioned member

theorem lt_of_mem_storedIndices (made : handler.facts u = .ok facts) {i : Nat}
    (member : i ∈ facts.storedIndices) : i < handler.accountNames.length := by
  rcases List.mem_append.1 member with inAttribute | inBody
  · rcases List.mem_flatMap.1 inAttribute with ⟨account, inside, inAccount⟩
    rcases List.mem_flatMap.1 inAccount with ⟨said, among, stored⟩
    rcases List.getElem?_of_mem inside with ⟨place, here⟩
    rcases exists_left_of_rel (rel_accounts made place) here with ⟨declared, -, extracted⟩
    rcases AccountFact.ofAccount_eq_ok.1 extracted with ⟨attributes, resolved, rfl⟩
    rcases exists_left_of_forall₂ (AccountFact.forall₂_of_attributes? resolved) among with
      ⟨raw, -, -, meant⟩
    exact lt_of_mem_refs meant stored
  · rcases List.mem_flatMap.1 inBody with ⟨event, inside, stored⟩
    rcases List.mem_map.1 ((perm_events made).mem_iff.1 inside) with ⟨placed, -, rfl⟩
    exact lt_of_mem_indices stored

/-! ## Handlers and units -/

theorem isConsistent_of_facts (made : handler.facts u = .ok facts) :
    facts.IsConsistent u handler where
  names := names_of_facts made
  numbered i account here := by
    rcases exists_left_of_rel (rel_accounts made i) here with ⟨declared, -, extracted⟩
    obtain ⟨attributes, -, rfl⟩ := AccountFact.ofAccount_eq_ok.1 extracted
    rfl
  position name i := idxOf?_accountNames_iff made
  lookUp name := by
    rw [HandlerFacts.accountNamed?, find?_eq_bind_idxOf? AccountFact.name, names_of_facts made]
    rfl
  increasing events := pairwise_seq_of_mem_eventLists made
  covered := by
    have positions : (handler.placed.map (bodyFact u handler facts.checks)).map BodyFact.seq =
        List.range handler.body.length := by
      rw [List.map_map, placed, List.range_eq_range', ← List.zipIdx_map_snd]
      exact List.map_congr_left fun placed _ => seq_bodyFact facts.checks placed
    rw [← positions]
    exact (perm_events made).map BodyFact.seq
  recorded event inside := by
    rcases List.mem_map.1 ((perm_events made).mem_iff.1 inside) with ⟨placed, here, rfl⟩
    refine ⟨placed.1, ?_, records_bodyFact facts.checks placed⟩
    rw [seq_bodyFact]
    exact List.mem_zipIdx_iff_getElem?.1 here
  inRange i member := by
    have named : facts.accounts.length = handler.accountNames.length := by
      rw [← names_of_facts made, List.length_map]
    rw [named]
    exact lt_of_mem_storedIndices made member

end Handler

namespace FactBase

/-- **Consistency.** The facts that are extracted from a unit fit together, handler by handler. -/
theorem isConsistent_of_ofUnit {u : ProgramUnit} {facts : FactBase} (made : ofUnit u = .ok facts) :
    List.Forall₂ (fun handler found => found.IsConsistent u handler) u.handlers facts.handlers := by
  rcases ofUnit_eq_ok.1 made with ⟨handlers, structs, extracted, -, rfl⟩
  exact (forall₂_of_handlersOf extracted).imp fun _ _ => Handler.isConsistent_of_facts

/-! ### A body with a node of each kind -/

/-- The fee of an exchange is checked, taken, noted, paid out and logged. -/
def exchange : Handler :=
  { name := "exchange"
    span := .ofLength 0 20
    params :=
      [{ name := "pool", typeTag := "Account<'info, Pool>", attributes := [("signer", .text "owner")],
         span := .ofLength 0 1 },
       { name := "owner", typeTag := "Signer<'info>", span := .ofLength 1 1 }]
    body :=
      [⟨.ofLength 2 1, .check (.ofBinary ">=" (.ofPath "pool.fees") (.ofPath "owner.fee"))⟩,
       ⟨.ofLength 3 1, .arith "-" (.ofPath "pool.fees") (.ofPath "owner.fee") none⟩,
       ⟨.ofLength 4 1, .assign (.ofPath "pool.fees") (.ofPath "rest")⟩,
       ⟨.ofLength 5 1, .invoke (.ofPath "pool") true⟩,
       ⟨.ofLength 6 1, .call "log" "" [.ofPath "owner"]⟩]
    params_distinct := by simp }

def bureau : ProgramUnit :=
  { name := "bureau", file := "bureau.json", handlers := [exchange], handlers_distinct := by simp }

/-- The facts of such a body are sorted by kind; their positions are those of the body. -/
theorem isConsistent_of_ofUnit_bureau :
    ∃ facts found, ofUnit bureau = .ok facts ∧ facts.handlers = [found] ∧
      found.events.map BodyFact.seq = [1, 3, 2, 0, 4] ∧
      found.storedIndices = [1, 0, 1, 0, 0, 0, 1, 1] ∧ found.IsConsistent bureau exchange := by
  have made : ∃ facts found, ofUnit bureau = .ok facts ∧ facts.handlers = [found] ∧
      found.events.map BodyFact.seq = [1, 3, 2, 0, 4] ∧
      found.storedIndices = [1, 0, 1, 0, 0, 0, 1, 1] := ⟨_, _, rfl, rfl, rfl, rfl⟩
  rcases made with ⟨facts, found, made, only, events, stored⟩
  have consistent := isConsistent_of_ofUnit made
  rw [only] at consistent
  cases consistent with
  | cons consistent _ => exact ⟨facts, found, made, only, events, stored, consistent⟩

end FactBase

end AccountAudit
