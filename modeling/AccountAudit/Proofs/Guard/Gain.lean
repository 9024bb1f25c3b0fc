import AccountAudit.Guard
import AccountAudit.Proofs.Fact.Extraction
import Mathlib.Order.Monotone.Basic

/-!
# Gaining a guard

A program unit gains a guard when a check is put anywhere into the body of one of its handlers, or
when one of its accounts that has no `constraint` gets one (`ProgramUnit.GainsGuard`).

The facts of the two units are related handler by handler (`HandlerFacts.GainsGuards`): every guard
stays, and everything that is no guard stays as it is. A check that is put into the body moves the
nodes behind it by one position; `place` says where the node at a position has gone to, and keeps
their order.
-/

namespace AccountAudit

/-! ## Edits of a unit -/

/-- The account with a `constraint`, which it did not have, anywhere among its attributes. -/
inductive Account.GainsConstraint (account account' : Account) : Prop where
  | intro (front back : List (String × Value)) (value : Value)
      (lacks : "constraint" ∉ account.attributes.map Prod.fst)
      (attributes : account.attributes = front ++ back)
      (result : account' = { account with attributes := front ++ ("constraint", value) :: back })

/-- The handler with one more check in its body, or with one more `constraint`. -/
inductive Handler.GainsGuard (handler handler' : Handler) : Prop where
  | check (front back : List BodyNode) (span : Span) (condition : Expr)
      (body : handler.body = front ++ back)
      (result : handler' = { handler with body := front ++ ⟨span, .check condition⟩ :: back })
  | constraint (front back : List Account) (account account' : Account)
      (gains : account.GainsConstraint account')
      (params : handler.params = front ++ account :: back)
      (params' : handler'.params = front ++ account' :: back)
      (name : handler'.name = handler.name) (span : handler'.span = handler.span)
      (args : handler'.args = handler.args) (body : handler'.body = handler.body)

/-- The unit with one more guard in one of its handlers. -/
structure ProgramUnit.GainsGuard (u u' : ProgramUnit) : Prop where
  handlers : ∃ front back handler handler', Handler.GainsGuard handler handler' ∧
    u.handlers = front ++ handler :: back ∧ u'.handlers = front ++ handler' :: back
  name : u'.name = u.name
  file : u'.file = u.file
  programId : u'.programId = u.programId
  source : u'.source = u.source
  sources : u'.sources = u.sources
  structs : u'.structs = u.structs

/-! ## Facts with more guards -/

/-- The account with more guards: only its `constraint` may be new. -/
structure AccountFact.GainsGuards (account account' : AccountFact) : Prop where
  same : account' = { account with attributes := account'.attributes }
  attr_eq : ∀ kind, kind ≠ "constraint" → account'.attr? kind = account.attr? kind
  constraint : ∀ value, account.attr? "constraint" = some value →
    account'.attr? "constraint" = some value
  kept : account.attributes ⊆ account'.attributes

/-- The arithmetic site at its new position, which more checks may guard. -/
structure ArithmeticSite.GainsGuards (place : Nat → Nat) (site site' : ArithmeticSite) : Prop where
  same : site' = { site with seq := place site.seq, guarded := site'.guarded }
  guarded : site.guarded = true → site'.guarded = true

/-- The handler with more guards, whose body nodes have gone to new positions. -/
structure HandlerFacts.GainsGuards (place : Nat → Nat) (handler handler' : HandlerFacts) : Prop where
  order : StrictMono place
  name : handler'.name = handler.name
  args : handler'.args = handler.args
  accounts : List.Forall₂ AccountFact.GainsGuards handler.accounts handler'.accounts
  invokes : handler'.invokes = handler.invokes.map fun site => { site with seq := place site.seq }
  calls : handler'.calls = handler.calls.map fun call => { call with seq := place call.seq }
  assignments : handler'.assignments =
    handler.assignments.map fun assign => { assign with seq := place assign.seq }
  checks : ∀ check ∈ handler.checks, { check with seq := place check.seq } ∈ handler'.checks
  arithmetic : List.Forall₂ (ArithmeticSite.GainsGuards place) handler.arithmetic handler'.arithmetic

namespace AccountFact.GainsGuards

theorem refl (account : AccountFact) : account.GainsGuards account :=
  ⟨rfl, fun _ _ => rfl, fun _ h => h, fun _ h => h⟩

end AccountFact.GainsGuards

namespace HandlerFacts.GainsGuards

theorem refl (handler : HandlerFacts) : handler.GainsGuards id handler where
  order := strictMono_id
  name := rfl
  args := rfl
  accounts := List.forall₂_same.2 fun account _ => .refl account
  invokes := by simp
  calls := by simp
  assignments := by simp
  checks := fun _ member => member
  arithmetic := List.forall₂_same.2 fun _ _ => ⟨rfl, fun h => h⟩

end HandlerFacts.GainsGuards

/-! ## Facts depend on the unit through locations only -/

/-- Where spans lie depends on the file and the sources of the unit only. -/
theorem ProgramUnit.location_congr {u u' : ProgramUnit} (file : u'.file = u.file)
    (source : u'.source = u.source) (sources : u'.sources = u.sources) :
    u'.location = u.location := by
  rcases u with ⟨name, _, programId, _, _, handlers, structs, distinct⟩
  rcases u' with ⟨name', _, programId', _, _, handlers', structs', distinct'⟩
  dsimp only at file source sources
  subst file source sources
  rfl

theorem ProgramUnit.GainsGuard.location_eq {u u' : ProgramUnit} (gains : u.GainsGuard u') :
    u'.location = u.location :=
  location_congr gains.file gains.source gains.sources

namespace Handler

variable {u u' : ProgramUnit}

theorem ofAccount_congr (same : u'.location = u.location) {handler handler' : Handler}
    (name : handler'.name = handler.name) (names : handler'.accountNames = handler.accountNames) :
    AccountFact.ofAccount u' handler' = AccountFact.ofAccount u handler := by
  funext index account
  rw [accountNames, accountNames] at names
  simp only [AccountFact.ofAccount, same, name, names]

theorem accountFacts_congr (same : u'.location = u.location) {handler handler' : Handler}
    (name : handler'.name = handler.name) (names : handler'.accountNames = handler.accountNames)
    (index : Nat) (accounts : List Account) :
    accountFacts u' handler' index accounts = accountFacts u handler index accounts := by
  -- The position grows along the list, so it has to vary in the induction.
  induction accounts generalizing index with
  | nil => rfl
  | cons account rest ih => simp only [accountFacts, ofAccount_congr same name names, ih]

theorem checkFact?_congr (same : u'.location = u.location) : checkFact? u' = checkFact? u := by
  funext names node
  unfold checkFact?
  simp only [same]

theorem callFact?_congr (same : u'.location = u.location) : callFact? u' = callFact? u := by
  funext names node
  unfold callFact?
  simp only [same]

theorem invokeSite?_congr (same : u'.location = u.location) : invokeSite? u' = invokeSite? u := by
  funext names node
  unfold invokeSite?
  simp only [same]

theorem assignFact?_congr (same : u'.location = u.location) : assignFact? u' = assignFact? u := by
  funext names node
  unfold assignFact?
  simp only [same]

theorem arithmeticSite?_congr (same : u'.location = u.location) :
    arithmeticSite? u' = arithmeticSite? u := by
  funext names argNames checks node
  unfold arithmeticSite?
  simp only [same]

theorem facts_congr (same : u'.location = u.location) (handler : Handler) :
    handler.facts u' = handler.facts u := by
  simp only [Handler.facts, accountFacts_congr same rfl rfl, checkFact?_congr same,
    callFact?_congr same, invokeSite?_congr same, assignFact?_congr same,
    arithmeticSite?_congr same, same]

end Handler

end AccountAudit
