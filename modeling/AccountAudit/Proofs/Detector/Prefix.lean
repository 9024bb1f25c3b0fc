import AccountAudit.Proofs.Detector.NodeRule
import AccountAudit.Proofs.Guard.Gain

/-!
# What stands behind a node does not matter for it

The verdict about a node is decided by the accounts, the arguments and the body up to the node. Two
handlers that differ only behind a position have the same facts up to it (`Handler.facts_upTo`), and
about equal facts every rule says the same (`NodeRule.verdictsUpTo_congr`): a check that is written
behind a dangerous operation neither guards it nor changes anything that is said about it.
-/

namespace AccountAudit

/-! ## Lists up to a position -/

/-- The nodes at positions up to `k`, each with its position. -/
theorem filter_zipIdx_le {α : Type} (body : List α) (k : Nat) :
    (body.zipIdx.filter fun placed => decide (placed.2 ≤ k)) = (body.take (k + 1)).zipIdx := by
  have split : body.zipIdx =
      (body.take (k + 1)).zipIdx ++ (body.drop (k + 1)).zipIdx (body.take (k + 1)).length := by
    rw [← Nat.zero_add (body.take (k + 1)).length, ← List.zipIdx_append, List.take_append_drop]
  have kept : ∀ placed ∈ (body.take (k + 1)).zipIdx, decide (placed.2 ≤ k) = true := by
    rintro ⟨a, i⟩ member
    have inFront : i < (body.take (k + 1)).length := by simpa using List.snd_lt_of_mem_zipIdx member
    rw [List.length_take] at inFront
    simpa using (by omega : i ≤ k)
  have dropped : ∀ placed ∈ (body.drop (k + 1)).zipIdx (body.take (k + 1)).length,
      ¬ decide (placed.2 ≤ k) = true := by
    rintro ⟨a, i⟩ member
    have behind := List.le_snd_of_mem_zipIdx member
    have inside := List.snd_lt_of_mem_zipIdx member
    simp only [List.length_take, List.length_drop] at behind inside
    simpa using (by omega : k < i)
  rw [split, List.filter_append, List.filter_eq_self.2 kept, List.filter_eq_nil_iff.2 dropped,
    List.append_nil]

/-- What is made of the nodes of two bodies that agree up to `k`, by functions that agree up to `k`
and keep the positions, agrees up to `k`. -/
theorem filterMap_placed_upTo {α : Type} {seq : α → Nat} {f f' : PlacedNode → Option α} {k : Nat}
    {body body' : List BodyNode} (same : body'.take (k + 1) = body.take (k + 1))
    (places : ∀ node i a, f (node, i) = some a → seq a = i)
    (places' : ∀ node i a, f' (node, i) = some a → seq a = i)
    (agree : ∀ node i, i ≤ k → f' (node, i) = f (node, i)) :
    ((body'.zipIdx.filterMap f').filter fun a => decide (seq a ≤ k)) =
      (body.zipIdx.filterMap f).filter fun a => decide (seq a ≤ k) := by
  -- To choose among the facts is to choose among the nodes, since the facts keep the positions.
  have choose : ∀ {g : PlacedNode → Option α} (nodes : List BodyNode),
      (∀ node i a, g (node, i) = some a → seq a = i) →
      ((nodes.zipIdx.filterMap g).filter fun a => decide (seq a ≤ k)) =
        (nodes.take (k + 1)).zipIdx.filterMap g := by
    intro g nodes places
    rw [← filter_zipIdx_le, List.filterMap_filter, List.filter_filterMap]
    refine List.filterMap_congr fun ⟨node, i⟩ _ => ?_
    cases made : g (node, i) with
    | none => simp
    | some a => simp [Option.filter, places node i a made]
  rw [choose body' places', choose body places, same]
  refine List.filterMap_congr fun ⟨node, i⟩ member => agree node i ?_
  have inFront : i < (body.take (k + 1)).length := by simpa using List.snd_lt_of_mem_zipIdx member
  rw [List.length_take] at inFront
  omega

/-! ## Handlers and facts up to a position -/

/-- The handlers differ in nodes behind position `k` only. -/
structure Handler.AgreesUpTo (h h' : Handler) (k : Nat) : Prop where
  name : h'.name = h.name
  span : h'.span = h.span
  params : h'.params = h.params
  args : h'.args = h.args
  body : h'.body.take (k + 1) = h.body.take (k + 1)

namespace HandlerFacts

/-- The facts differ in what is known of nodes behind position `k` only. -/
structure AgreesUpTo (facts facts' : HandlerFacts) (k : Nat) : Prop where
  name : facts'.name = facts.name
  accounts : facts'.accounts = facts.accounts
  args : facts'.args = facts.args
  invokes : (facts'.invokes.filter fun site => decide (site.seq ≤ k)) =
    facts.invokes.filter fun site => decide (site.seq ≤ k)
  arithmetic : (facts'.arithmetic.filter fun site => decide (site.seq ≤ k)) =
    facts.arithmetic.filter fun site => decide (site.seq ≤ k)
  checks : (facts'.checks.filter fun check => decide (check.seq ≤ k)) =
    facts.checks.filter fun check => decide (check.seq ≤ k)
  calls : (facts'.calls.filter fun call => decide (call.seq ≤ k)) =
    facts.calls.filter fun call => decide (call.seq ≤ k)

/-- What stands in front of a position up to `k` stands at positions up to `k`. -/
theorem filter_lt_eq {α : Type} {seq : α → Nat} {as bs : List α} {i k : Nat} (le : i ≤ k)
    (same : (bs.filter fun a => decide (seq a ≤ k)) = as.filter fun a => decide (seq a ≤ k)) :
    (bs.filter fun a => decide (seq a < i)) = as.filter fun a => decide (seq a < i) := by
  have nested : ∀ cs : List α, (cs.filter fun a => decide (seq a < i)) =
      (cs.filter fun a => decide (seq a ≤ k)).filter fun a => decide (seq a < i) := by
    intro cs
    rw [List.filter_filter]
    refine List.filter_congr fun a _ => ?_
    by_cases front : seq a < i
    · simp [front, (by omega : seq a ≤ k)]
    · simp [front]
  rw [nested bs, same, ← nested as]

end HandlerFacts

/-! ## Extraction -/

namespace ArithmeticSite

/-- Only checks in front of an operation may guard it. -/
theorem isGuarded_eq_of_front {checks checks' : List CheckFact} {seq : Nat}
    (same : (checks'.filter fun check => decide (check.seq < seq)) =
      checks.filter fun check => decide (check.seq < seq)) (operands : List Operand) :
    isGuarded checks' seq operands = isGuarded checks seq operands := by
  have front : ∀ (cs : List CheckFact) (p : CheckFact → Bool),
      (cs.any fun check => check.seq < seq && p check) =
        (cs.filter fun check => decide (check.seq < seq)).any p := by
    intro cs p
    rw [List.any_filter]
  simp only [isGuarded, front, same]

end ArithmeticSite

namespace Handler

variable {u u' : ProgramUnit} {h h' : Handler} {k : Nat}

/-! ### A fact about a node has the position of the node -/

/-- If facts have the positions of their nodes, there is one at most at each position. -/
theorem mem_placed_iff {α : Type} {seq : α → Nat} {read : PlacedNode → Option α}
    (places : ∀ node i a, read (node, i) = some a → seq a = i) {node : BodyNode} {i : Nat} {a b : α}
    (here : h.body[i]? = some node) (made : read (node, i) = some a) :
    b ∈ h.placed.filterMap read ∧ seq b = i ↔ b = a := by
  rw [List.mem_filterMap]
  constructor
  · rintro ⟨⟨⟨node', i'⟩, inside, made'⟩, position⟩
    obtain rfl : i' = i := (places node' i' b made').symm.trans position
    obtain rfl : node' = node :=
      Option.some.inj ((List.mem_zipIdx_iff_getElem?.1 inside).symm.trans here)
    exact Option.some.inj (made'.symm.trans made)
  · rintro rfl
    exact ⟨⟨(node, i), List.mem_zipIdx_iff_getElem?.2 here, made⟩, places node i b made⟩

theorem eq_of_placed {α : Type} {seq : α → Nat} {read : PlacedNode → Option α}
    (places : ∀ node i a, read (node, i) = some a → seq a = i) {a b : α}
    (first : a ∈ h.placed.filterMap read) (second : b ∈ h.placed.filterMap read)
    (same : seq b = seq a) : b = a := by
  rcases List.mem_filterMap.1 first with ⟨⟨node, i⟩, inside, made⟩
  have here : h.body[i]? = some node := List.mem_zipIdx_iff_getElem?.1 inside
  exact (mem_placed_iff places here made).1 ⟨second, same.trans (places node i a made)⟩

section Places

variable {names argNames : List String} {checks : List CheckFact} {node : BodyNode} {i : Nat}

theorem seq_of_checkFact? {check : CheckFact} (made : checkFact? u names (node, i) = some check) :
    check.seq = i := by
  rcases node with ⟨span, action⟩
  cases action <;> cases made
  rfl

theorem seq_of_callFact? {call : CallFact} (made : callFact? u names (node, i) = some call) :
    call.seq = i := by
  rcases node with ⟨span, action⟩
  cases action <;> cases made
  rfl

theorem seq_of_invokeSite? {site : InvokeSite} (made : invokeSite? u names (node, i) = some site) :
    site.seq = i := by
  rcases node with ⟨span, action⟩
  cases action <;> cases made
  rfl

theorem seq_of_arithmeticSite? {site : ArithmeticSite}
    (made : arithmeticSite? u names argNames checks (node, i) = some site) : site.seq = i := by
  rcases node with ⟨span, action⟩
  cases action <;> cases made
  rfl

end Places

/-- There is one call at most at each position. -/
theorem eq_of_callSeq {facts : HandlerFacts} (extracted : h.facts u = .ok facts)
    {call other : CallFact} (inside : call ∈ facts.calls) (inside' : other ∈ facts.calls)
    (same : other.seq = call.seq) : other = call := by
  rcases facts_eq_ok.1 extracted with ⟨accounts, -, rfl⟩
  exact eq_of_placed (fun _ _ _ => seq_of_callFact?) inside inside' same

/-- So where calls of some functions are reported with their positions, a call is not reported
exactly if nothing has its position. -/
theorem forall_ne_callSeq_iff {facts : HandlerFacts} (extracted : h.facts u = .ok facts)
    {names : List String} {report? : CallFact → Option Finding} {call : CallFact}
    (inside : call ∈ facts.calls) (named : call.shortName ∈ names) :
    (∀ verdict ∈ (facts.callsNamed names).filterMap fun call =>
        (report? call).map fun f => (call.seq, f), verdict.1 ≠ call.seq) ↔
      report? call = none := by
  have listed : call ∈ facts.callsNamed names :=
    List.mem_filter.2 ⟨inside, List.contains_iff_mem.2 named⟩
  rw [forall_ne_seq_iff]
  constructor
  · exact fun silent => silent call ⟨listed, rfl⟩
  · rintro none other ⟨listed', same⟩
    obtain rfl := eq_of_callSeq extracted inside (List.mem_filter.1 listed').1 same
    exact none

/-- Arithmetic up to a position looks at the checks up to it. -/
theorem arithmeticSite?_congr_front {names argNames : List String} {checks checks' : List CheckFact}
    (front : (checks'.filter fun check => decide (check.seq ≤ k)) =
      checks.filter fun check => decide (check.seq ≤ k)) (node : BodyNode) {i : Nat} (le : i ≤ k) :
    arithmeticSite? u names argNames checks' (node, i) =
      arithmeticSite? u names argNames checks (node, i) := by
  have same : (checks'.filter fun check => decide (check.seq < i)) =
      checks.filter fun check => decide (check.seq < i) := HandlerFacts.filter_lt_eq le front
  rcases node with ⟨span, action⟩
  cases action with
  | arith op lhs rhs wrapper =>
    simp only [arithmeticSite?, ArithmeticSite.ofOperation,
      ArithmeticSite.isGuarded_eq_of_front same]
  | _ => rfl

/-- Handlers that agree up to a position have facts that agree up to it, or fail alike: the accounts
decide whether there are facts. -/
theorem facts_upTo (same : u'.location = u.location) (agree : h.AgreesUpTo h' k) :
    (∃ issues, h.facts u = .error issues ∧ h'.facts u' = .error issues) ∨
    ∃ facts facts', h.facts u = .ok facts ∧ h'.facts u' = .ok facts' ∧ facts.AgreesUpTo facts' k := by
  have names : h'.accountNames = h.accountNames := by rw [accountNames, agree.params, accountNames]
  have accounts : accountFacts u' h' 0 h'.params = accountFacts u h 0 h.params := by
    rw [accountFacts_congr same agree.name names, agree.params]
  cases made : accountFacts u h 0 h.params with
  | error issues =>
    refine .inl ⟨issues, ?_, ?_⟩
    · simp [Handler.facts, made, Except.map]
    · simp [Handler.facts, accounts, made, Except.map]
  | ok facts =>
    refine .inr ⟨_, _, facts_eq_ok.2 ⟨facts, made, rfl⟩,
      facts_eq_ok.2 ⟨facts, accounts.trans made, rfl⟩, ?_⟩
    rw [names, checkFact?_congr same, callFact?_congr same, invokeSite?_congr same,
      arithmeticSite?_congr same, agree.args]
    have checks := filterMap_placed_upTo agree.body (fun _ _ _ => seq_of_checkFact?)
      (fun _ _ _ => seq_of_checkFact?)
      fun node i _ => (rfl : checkFact? u h.accountNames (node, i) = _)
    exact
      { name := agree.name
        accounts := rfl
        args := rfl
        checks
        invokes := filterMap_placed_upTo agree.body (fun _ _ _ => seq_of_invokeSite?)
          (fun _ _ _ => seq_of_invokeSite?) fun _ _ _ => rfl
        calls := filterMap_placed_upTo agree.body (fun _ _ _ => seq_of_callFact?)
          (fun _ _ _ => seq_of_callFact?) fun _ _ _ => rfl
        arithmetic := filterMap_placed_upTo agree.body (fun _ _ _ => seq_of_arithmeticSite?)
          (fun _ _ _ => seq_of_arithmeticSite?) fun node _ le =>
            arithmeticSite?_congr_front checks node le }

end Handler

/-! ## Rules -/

namespace HandlerFacts.AgreesUpTo

variable {facts facts' : HandlerFacts} {k : Nat}

theorem checksBefore (agree : facts.AgreesUpTo facts' k) {i : Nat} (le : i ≤ k) :
    facts'.checksBefore i = facts.checksBefore i :=
  filter_lt_eq le agree.checks

theorem callsBefore (agree : facts.AgreesUpTo facts' k) {i : Nat} (le : i ≤ k) :
    (facts'.calls.filter fun call => decide (call.seq < i)) =
      facts.calls.filter fun call => decide (call.seq < i) :=
  filter_lt_eq le agree.calls

theorem evidenceBefore (agree : facts.AgreesUpTo facts' k) {i : Nat} (le : i ≤ k) :
    facts'.evidenceBefore i = facts.evidenceBefore i := by
  rw [HandlerFacts.evidenceBefore, agree.checksBefore le, HandlerFacts.constraints, agree.accounts]
  rfl

end HandlerFacts.AgreesUpTo

namespace NodeRule

/-- The rules that look at nodes of a body. -/
def all : List NodeRule :=
  [arithmetic, invocation, derivation]

/-- What the rule says of the nodes at positions up to `k`. -/
def verdictsUpTo (rule : NodeRule) (k : Nat) (handler : HandlerFacts) : List (Nat × Finding) :=
  (rule.verdicts handler).filter fun verdict => decide (verdict.1 ≤ k)

/-- Up to position `k` the rule looks at the same events and says the same about each. -/
structure SeesAlike (rule : NodeRule) (facts facts' : HandlerFacts) (k : Nat) : Prop where
  events : ((rule.events facts').filter fun event => decide (rule.seq event ≤ k)) =
    (rule.events facts).filter fun event => decide (rule.seq event ≤ k)
  report? : ∀ event, rule.seq event ≤ k → rule.report? facts' event = rule.report? facts event

variable {rule : NodeRule} {facts facts' : HandlerFacts} {k : Nat}

theorem verdictsUpTo_eq_filterMap (rule : NodeRule) (k : Nat) (handler : HandlerFacts) :
    rule.verdictsUpTo k handler =
      ((rule.events handler).filter fun event => decide (rule.seq event ≤ k)).filterMap fun event =>
        (rule.report? handler event).map fun f => (rule.seq event, f) := by
  rw [verdictsUpTo, verdicts, List.filter_filterMap, List.filterMap_filter]
  refine List.filterMap_congr fun event _ => ?_
  cases rule.report? handler event with
  | none => simp
  | some f => simp [Option.filter]

theorem SeesAlike.verdictsUpTo (alike : rule.SeesAlike facts facts' k) :
    rule.verdictsUpTo k facts' = rule.verdictsUpTo k facts := by
  rw [verdictsUpTo_eq_filterMap, verdictsUpTo_eq_filterMap, alike.events]
  refine List.filterMap_congr fun event member => ?_
  have le : rule.seq event ≤ k := by simpa using (List.mem_filter.1 member).2
  rw [alike.report? event le]

/-! ### One lemma for each rule -/

theorem seesAlike_arithmetic (agree : facts.AgreesUpTo facts' k) :
    arithmetic.SeesAlike facts facts' k where
  events := agree.arithmetic
  report? site _ := by simp only [arithmetic, UncheckedArithmetic.finding, agree.name]

theorem seesAlike_invocation (agree : facts.AgreesUpTo facts' k) :
    invocation.SeesAlike facts facts' k where
  events := agree.invokes
  report? := by
    intro (site : InvokeSite) (le : site.seq ≤ k)
    -- A target is pinned by its account, or by evidence in front of the invocation.
    have account : facts'.account? = facts.account? := by
      funext index
      rw [HandlerFacts.account?, agree.accounts, HandlerFacts.account?]
    have pinned : ArbitraryInvocation.isPinned facts' site =
        ArbitraryInvocation.isPinned facts site := by
      simp only [ArbitraryInvocation.isPinned, account, agree.evidenceBefore le]
    simp only [invocation, pinned, ArbitraryInvocation.finding, agree.name]

theorem seesAlike_derivation (agree : facts.AgreesUpTo facts' k) :
    derivation.SeesAlike facts facts' k where
  events := by
    have named : ∀ handler : HandlerFacts,
        ((handler.callsNamed AddressDerivation.rawDeriveCalls).filter fun call =>
          decide (call.seq ≤ k)) =
        (handler.calls.filter fun call => decide (call.seq ≤ k)).filter fun call =>
          AddressDerivation.rawDeriveCalls.contains call.shortName :=
      fun handler => List.filter_comm _ _ handler.calls
    exact (named facts').trans ((congrArg _ agree.calls).trans (named facts).symm)
  report? := by
    intro (call : CallFact) (le : call.seq ≤ k)
    have supplied : AddressDerivation.suppliedAmong facts' = AddressDerivation.suppliedAmong facts := by
      funext names
      rw [AddressDerivation.suppliedAmong, agree.args, AddressDerivation.suppliedAmong]
    -- Only calls and checks in front of the derivation make its address canonical.
    simp only [derivation, AddressDerivation.callFinding?, supplied, agree.callsBefore le,
      agree.checksBefore le, agree.name]

theorem seesAlike_of_mem_all (known : rule ∈ all) (agree : facts.AgreesUpTo facts' k) :
    rule.SeesAlike facts facts' k := by
  simp only [all, List.mem_cons, List.not_mem_nil, or_false] at known
  rcases known with rfl | rfl | rfl
  · exact seesAlike_arithmetic agree
  · exact seesAlike_invocation agree
  · exact seesAlike_derivation agree

/-- A handler that takes something away from an account. -/
def withdraw (body : List BodyNode) : Handler :=
  { name := "withdraw"
    span := .ofLength 0 9
    params := [{ name := "vault", typeTag := "Account<'info, Vault>", span := .ofLength 0 1 }]
    args := [{ name := "amount" }]
    body
    params_distinct := by simp }

def subtraction : BodyNode :=
  ⟨.ofLength 2 1, .arith "-" (.ofPath "vault.balance") (.ofPath "amount") none⟩

def sufficient : BodyNode :=
  ⟨.ofLength 4 1, .check (.ofBinary ">=" (.ofPath "vault.balance") (.ofPath "amount"))⟩

def till : ProgramUnit :=
  { name := "till", file := "till.json", handlers := [], handlers_distinct := List.nodup_nil }

end NodeRule

end AccountAudit
