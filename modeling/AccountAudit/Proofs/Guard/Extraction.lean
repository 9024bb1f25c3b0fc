import AccountAudit.Proofs.Assoc
import AccountAudit.Proofs.Guard.Gain

/-!
# Extraction keeps guards

The facts of a unit that gains a guard gain guards, handler by handler
(`FactBase.gainsGuards_of_ofUnit`). A handler that is not edited keeps its facts; an account with a
new `constraint` keeps what its other attributes say; a new check moves the facts of the nodes
behind it and may guard arithmetic, which looks at the checks in front of it.
-/

namespace AccountAudit

/-! ## A new `constraint` -/

namespace AccountFact

theorem isSet_insert {key kind : String} {value : Resolved} {front back : List (String × Resolved)}
    (other : kind ≠ key) :
    isSet (front ++ (key, value) :: back) kind = isSet (front ++ back) kind := by
  simp only [isSet, Assoc.lookup_insert other]

/-- The attributes of an account with a new `constraint` are the old ones with one more. -/
theorem gainsGuards_of_ofAccount {u : ProgramUnit} {handler : Handler} {index : Nat}
    {account account' : Account} {fact fact' : AccountFact}
    (gains : account.GainsConstraint account')
    (before : ofAccount u handler index account = .ok fact)
    (after : ofAccount u handler index account' = .ok fact') : fact.GainsGuards fact' := by
  rcases gains with ⟨front, back, raw, lacks, split, rfl⟩
  rcases ofAccount_eq_ok.1 before with ⟨attributes, resolved, rfl⟩
  rcases ofAccount_eq_ok.1 after with ⟨attributes', resolved', rfl⟩
  rw [split] at resolved lacks
  -- Resolving keeps the kinds, so the facts lack a `constraint` too.
  rw [← mem_kinds_iff resolved] at lacks
  rcases attributes?_append_eq_ok.1 resolved with ⟨first, rest, hfirst, hrest, rfl⟩
  rcases attributes?_append_eq_ok.1 resolved' with ⟨first', tail, hfirst', htail, rfl⟩
  rcases attributes?_cons_eq_ok.1 htail with ⟨value, rest', -, hrest', rfl⟩
  -- The attributes in front and behind are resolved one by one, and so as before; what the new one
  -- resolves to does not matter.
  obtain rfl : first = first' := Except.ok.inj (hfirst.symm.trans hfirst')
  obtain rfl : rest = rest' := Except.ok.inj (hrest.symm.trans hrest')
  have kept : ∀ kind, kind ≠ "constraint" →
      isSet (first ++ ("constraint", value) :: rest) kind = isSet (first ++ rest) kind :=
    fun kind other => isSet_insert other
  refine ⟨?_, ?_, ?_, ?_⟩
  · simp only [Account.typeKind, Account.innerType?, kept "mut" (by decide),
      kept "init" (by decide), kept "signer" (by decide)]
  · intro kind other
    exact Assoc.lookup_insert other
  · intro value found
    -- An account that lacks a `constraint` has none to keep.
    exact absurd (List.mem_map_of_mem (Assoc.mem_of_lookup found)) lacks
  · intro entry member
    rcases List.mem_append.1 member with inFirst | inRest
    · exact List.mem_append_left _ inFirst
    · exact List.mem_append_right _ (List.mem_cons_of_mem _ inRest)

end AccountFact

/-! ## A new check -/

/-- Where the node at a position has gone to after a node was put in at `k`. -/
def placeAfterInsert (k i : Nat) : Nat :=
  if i < k then i else i + 1

theorem strictMono_placeAfterInsert (k : Nat) : StrictMono (placeAfterInsert k) := by
  intro i j less
  unfold placeAfterInsert
  split <;> split <;> omega

/-- The nodes of a body with one more node, apart from that node, stand at their new positions. -/
theorem zipIdx_insert {α : Type} (front back : List α) (a : α) :
    ∃ first rest, (front ++ a :: back).zipIdx = first ++ (a, front.length) :: rest ∧
      first ++ rest = (front ++ back).zipIdx.map fun (b, i) =>
        (b, placeAfterInsert front.length i) := by
  refine ⟨front.zipIdx, back.zipIdx (front.length + 1), ?_, ?_⟩
  · simp [List.zipIdx_append, List.zipIdx_cons]
  · rw [List.zipIdx_append, List.map_append, Nat.zero_add]
    congr 1
    · symm
      refine (List.map_congr_left ?_).trans (List.map_id _)
      rintro ⟨b, i⟩ member
      -- In front of the new node nothing moves,
      have inFront : i < front.length := by simpa using List.snd_lt_of_mem_zipIdx member
      simp [placeAfterInsert, inFront]
    · rw [List.zipIdx_succ]
      refine List.map_congr_left ?_
      rintro ⟨b, i⟩ member
      -- and behind it everything does.
      have behind := List.le_snd_of_mem_zipIdx member
      have : ¬ i < front.length := by simpa using behind
      simp [placeAfterInsert, this]

section Body

variable {front back : List BodyNode} {node : BodyNode}

/-- Facts made of the same nodes are related if a new node gives none. -/
theorem forall₂_filterMap_placed_insert {α : Type} {r : α → α → Prop} {f g : PlacedNode → Option α}
    (related : ∀ b i, Option.Rel r (f (b, i)) (g (b, placeAfterInsert front.length i)))
    (ignores : g (node, front.length) = none) :
    List.Forall₂ r ((front ++ back).zipIdx.filterMap f)
      ((front ++ node :: back).zipIdx.filterMap g) := by
  rcases zipIdx_insert front back node with ⟨first, rest, placed, moved⟩
  have skipped : (first ++ (node, front.length) :: rest).filterMap g =
      (first ++ rest).filterMap g := by
    simp [List.filterMap_append, ignores]
  rw [placed, skipped, moved, List.filterMap_map]
  refine List.rel_filterMap (R := Eq) ?_ (List.forall₂_eq_eq_eq ▸ rfl)
  rintro ⟨b, i⟩ - rfl
  exact related b i

/-- Facts that follow their nodes and ignore the new one only move. -/
theorem filterMap_placed_insert {α : Type} {f : PlacedNode → Option α} {move : α → α}
    (follows : ∀ b i, f (b, placeAfterInsert front.length i) = (f (b, i)).map move)
    (ignores : f (node, front.length) = none) :
    (front ++ node :: back).zipIdx.filterMap f =
      ((front ++ back).zipIdx.filterMap f).map move := by
  -- Moving is a relation between a fact and its copy, so this is a case of the lemma on related
  -- facts.
  have moved : List.Forall₂ (fun a a' => a' = move a) ((front ++ back).zipIdx.filterMap f)
      ((front ++ node :: back).zipIdx.filterMap f) := by
    refine forall₂_filterMap_placed_insert (fun b i => ?_) ignores
    rw [follows]
    cases f (b, i) with
    | none => exact .none
    | some a => exact .some rfl
  symm
  rw [← List.forall₂_eq_eq_eq, List.forall₂_map_left_iff]
  exact moved.imp fun a a' h => h.symm

/-- Facts that follow their nodes stay, whatever is made of the new node. -/
theorem mem_filterMap_placed_insert {α : Type} {f : PlacedNode → Option α} {move : α → α}
    (follows : ∀ b i, f (b, placeAfterInsert front.length i) = (f (b, i)).map move)
    {a : α} (member : a ∈ (front ++ back).zipIdx.filterMap f) :
    move a ∈ (front ++ node :: back).zipIdx.filterMap f := by
  rcases zipIdx_insert front back node with ⟨first, rest, placed, moved⟩
  rcases List.mem_filterMap.1 member with ⟨⟨b, i⟩, inBody, made⟩
  have stays : (b, placeAfterInsert front.length i) ∈ first ++ rest := by
    rw [moved]
    exact List.mem_map_of_mem inBody
  refine List.mem_filterMap.2 ⟨(b, placeAfterInsert front.length i), ?_, ?_⟩
  · rw [placed]
    rcases List.mem_append.1 stays with inFirst | inRest
    · exact List.mem_append_left _ inFirst
    · exact List.mem_append_right _ (List.mem_cons_of_mem _ inRest)
  · rw [follows, made]
    rfl

end Body

/-! ## Arithmetic in front of more checks -/

namespace ArithmeticSite

variable {place : Nat → Nat} {checks checks' : List CheckFact}

theorem isGuarded_of_checks (order : StrictMono place)
    (kept : ∀ check ∈ checks, { check with seq := place check.seq } ∈ checks')
    {seq : Nat} {operands : List Operand} (h : isGuarded checks seq operands = true) :
    isGuarded checks' (place seq) operands = true := by
  unfold isGuarded at *
  simp only [Bool.and_eq_true, List.any_eq_true] at *
  rcases h with ⟨live, check, member, earlier, bounded⟩
  refine ⟨live, _, kept check member, ?_, bounded⟩
  -- The check was in front of the operation, and `place` keeps the order.
  simpa using order (by simpa using earlier)

/-- An operation at its new position, in front of which no check is missing. -/
theorem gainsGuards_of_checks (order : StrictMono place)
    (kept : ∀ check ∈ checks, { check with seq := place check.seq } ∈ checks')
    (u : ProgramUnit) (names argNames : List String) (b : BodyNode) (i : Nat) :
    Option.Rel (GainsGuards place) (Handler.arithmeticSite? u names argNames checks (b, i))
      (Handler.arithmeticSite? u names argNames checks' (b, place i)) := by
  rcases b with ⟨span, action⟩
  cases action with
  | arith op lhs rhs wrapper =>
    exact .some ⟨rfl, isGuarded_of_checks order kept⟩
  | invoke program signed => exact .none
  | assign target value => exact .none
  | check condition => exact .none
  | call func typeName args => exact .none

end ArithmeticSite

/-! ## Handlers -/

namespace Handler

theorem accountNames_of_gainsGuard {handler handler' : Handler}
    (gains : handler.GainsGuard handler') : handler'.accountNames = handler.accountNames := by
  cases gains with
  | check front back span condition body result =>
    rw [result]
    rfl
  | constraint front back account account' gains params params' =>
    rcases gains with ⟨_, _, _, _, _, rfl⟩
    simp only [accountNames, params, params', List.map_append, List.map_cons]

/-- A new check moves what stands behind it and guards more. -/
theorem gainsGuards_of_check {u : ProgramUnit} {handler handler' : Handler}
    {front back : List BodyNode} {span : Span} {condition : Expr} {facts facts' : HandlerFacts}
    (body : handler.body = front ++ back)
    (result : handler' = { handler with body := front ++ ⟨span, .check condition⟩ :: back })
    (before : handler.facts u = .ok facts) (after : handler'.facts u = .ok facts') :
    facts.GainsGuards (placeAfterInsert front.length) facts' := by
  subst result
  rcases facts_eq_ok.1 before with ⟨accounts, resolved, rfl⟩
  rcases facts_eq_ok.1 after with ⟨accounts', resolved', rfl⟩
  -- Accounts are read with the parameters of the handler and not with its body, so their facts are the
  -- same list.
  have same : accounts = accounts' := by
    have congr : accountFacts u { handler with body := front ++ ⟨span, .check condition⟩ :: back } 0
        handler.params = accountFacts u handler 0 handler.params := by
      apply accountFacts_congr
      · rfl
      · rfl
      · rfl
    exact Except.ok.inj (resolved.symm.trans (congr.symm.trans resolved'))
  subst same
  have order := strictMono_placeAfterInsert front.length
  have placed : handler.placed = (front ++ back).zipIdx := by rw [Handler.placed, body]
  -- Checks are not ignored: here the new node may give a fact, and the old facts are among all.
  have kept : ∀ check ∈ (front ++ back).zipIdx.filterMap (checkFact? u handler.accountNames),
      { check with seq := placeAfterInsert front.length check.seq } ∈
        (front ++ ⟨span, .check condition⟩ :: back).zipIdx.filterMap
          (checkFact? u handler.accountNames) := by
    intro check member
    apply mem_filterMap_placed_insert _ member
    rintro ⟨span, action⟩ i
    cases action <;> rfl
  rw [placed]
  refine
    { order
      name := rfl
      args := rfl
      accounts := List.forall₂_same.2 fun account _ => .refl account
      invokes := filterMap_placed_insert ?_ rfl
      calls := filterMap_placed_insert ?_ rfl
      assignments := filterMap_placed_insert ?_ rfl
      checks := kept
      arithmetic := forall₂_filterMap_placed_insert
        (ArithmeticSite.gainsGuards_of_checks order kept u _ _) rfl }
  -- No other kind of fact is made of a check.
  all_goals
    rintro ⟨span, action⟩ i
    cases action <;> rfl

/-- A new `constraint` changes the facts of its account only. -/
theorem gainsGuards_of_constraint {u : ProgramUnit} {handler handler' : Handler}
    {front back : List Account} {account account' : Account} {facts facts' : HandlerFacts}
    (gains : account.GainsConstraint account') (params : handler.params = front ++ account :: back)
    (params' : handler'.params = front ++ account' :: back) (name : handler'.name = handler.name)
    (args : handler'.args = handler.args) (body : handler'.body = handler.body)
    (names : handler'.accountNames = handler.accountNames)
    (before : handler.facts u = .ok facts) (after : handler'.facts u = .ok facts') :
    facts.GainsGuards id facts' := by
  rcases facts_eq_ok.1 before with ⟨accounts, resolved, rfl⟩
  rcases facts_eq_ok.1 after with ⟨accounts', resolved', rfl⟩
  rw [accountFacts_congr rfl name names] at resolved'
  have placed : handler'.placed = handler.placed := by rw [Handler.placed, body, Handler.placed]
  rw [placed, args, names, name]
  have gained : List.Forall₂ AccountFact.GainsGuards accounts accounts' := by
    -- The accounts of both handlers stand at the same positions, and one of them is edited.
    have pairs : List.Forall₂ (fun a b : Account × Nat =>
        a.2 = b.2 ∧ (a.1 = b.1 ∨ a.1.GainsConstraint b.1))
        handler.params.zipIdx handler'.params.zipIdx := by
      rw [params, params', List.zipIdx_append, List.zipIdx_append]
      exact List.rel_append (List.forall₂_same.2 fun _ _ => ⟨rfl, .inl rfl⟩)
        (.cons ⟨rfl, .inr gains⟩ (List.forall₂_same.2 fun _ _ => ⟨rfl, .inl rfl⟩))
    refine forall₂_square ?_ pairs (forall₂_of_accountFacts resolved)
      (forall₂_of_accountFacts resolved')
    rintro ⟨a, i⟩ ⟨b, j⟩ fact fact' ⟨rfl, same | gains⟩ made made'
    · obtain rfl : a = b := same
      obtain rfl : fact = fact' := Except.ok.inj (made.symm.trans made')
      exact .refl fact
    · exact AccountFact.gainsGuards_of_ofAccount gains made made'
  exact
    { order := strictMono_id
      name := rfl
      args := rfl
      accounts := gained
      invokes := by simp
      calls := by simp
      assignments := by simp
      checks := fun _ member => member
      arithmetic := List.forall₂_same.2 fun _ _ => ⟨rfl, fun h => h⟩ }

/-- The facts of a handler that gains a guard gain guards. -/
theorem gainsGuards_of_facts {u : ProgramUnit} {handler handler' : Handler}
    {facts facts' : HandlerFacts} (gains : handler.GainsGuard handler')
    (before : handler.facts u = .ok facts) (after : handler'.facts u = .ok facts') :
    ∃ place, facts.GainsGuards place facts' := by
  have names := accountNames_of_gainsGuard gains
  cases gains with
  | check front back span condition body result =>
    exact ⟨_, gainsGuards_of_check body result before after⟩
  | constraint front back account account' gains params params' name span args body =>
    exact ⟨id, gainsGuards_of_constraint gains params params' name args body names before after⟩

end Handler

/-! ## Units -/

namespace FactBase

/-- The facts of a unit that gains a guard gain guards, and the layouts stay the same. -/
theorem gainsGuards_of_ofUnit {u u' : ProgramUnit} {facts facts' : FactBase}
    (gains : u.GainsGuard u') (before : ofUnit u = .ok facts) (after : ofUnit u' = .ok facts') :
    facts'.structs = facts.structs ∧ facts'.sizeGroups = facts.sizeGroups ∧
      List.Forall₂ (fun handler handler' => ∃ place, handler.GainsGuards place handler')
        facts.handlers facts'.handlers := by
  have location := gains.location_eq
  rcases ofUnit_eq_ok.1 before with ⟨handlers, structs, extracted, sizes, rfl⟩
  rcases ofUnit_eq_ok.1 after with ⟨handlers', structs', extracted', sizes', rfl⟩
  -- The layouts are read from the declarations, which are the same.
  rw [gains.structs] at sizes'
  obtain rfl : structs = structs' := Except.ok.inj (sizes.symm.trans sizes')
  refine ⟨rfl, rfl, ?_⟩
  rcases gains.handlers with ⟨front, back, edited, edited', gains, split, split'⟩
  -- All handlers but the edited one are paired with themselves.
  have pairs : List.Forall₂ (fun a b : Handler => a = b ∨ a.GainsGuard b)
      u.handlers u'.handlers := by
    rw [split, split']
    exact List.rel_append (List.forall₂_same.2 fun _ _ => .inl rfl)
      (.cons (.inr gains) (List.forall₂_same.2 fun _ _ => .inl rfl))
  refine forall₂_square ?_ pairs (forall₂_of_handlersOf extracted)
    (forall₂_of_handlersOf extracted')
  intro a b fact fact' related made made'
  rw [Handler.facts_congr location] at made'
  rcases related with rfl | gains
  · obtain rfl : fact = fact' := Except.ok.inj (made.symm.trans made')
    exact ⟨id, .refl fact⟩
  · exact Handler.gainsGuards_of_facts gains made made'

end FactBase

end AccountAudit
