import AccountAudit.Proofs.Detector.Relation
import AccountAudit.Proofs.Flag.Duplicate

/-!
# Every pair of accounts is accounted for

Of a handler's mutable accounts those of one type form a group, and two accounts of a group are an
open pair if nothing tells that they differ (`IsOpen`). The detector gathers the groups, goes through
all pairs of each, and asks about each pair by itself.

The main statement `pairs_accounted_for` says that on this way nothing is left out and nothing is said
twice: there is one finding for each group with an open pair, in the order of the first accounts of
the groups, and it lists all open pairs of its group in the order of declaration.
-/

namespace AccountAudit

/-- The account is declared in front of the other one. -/
def AccountFact.Precedes (a b : AccountFact) : Prop :=
  a.index < b.index

/-- The accounts of a handler are numbered in the order of declaration. -/
theorem Handler.pairwise_precedes {u : ProgramUnit} {h : Handler} {facts : HandlerFacts}
    (extracted : h.facts u = .ok facts) : facts.accounts.Pairwise AccountFact.Precedes := by
  have numbered : ∀ (i : Nat) (inRange : i < facts.accounts.length),
      facts.accounts[i].index = i := by
    intro i inRange
    rcases exists_left_of_rel (rel_accounts extracted i) (List.getElem?_eq_getElem inRange) with
      ⟨declared, -, made⟩
    obtain ⟨attributes, -, account⟩ := AccountFact.ofAccount_eq_ok.1 made
    rw [account]
  rw [List.pairwise_iff_getElem]
  intro i j first second less
  rw [AccountFact.Precedes, numbered, numbered]
  exact less

namespace DuplicateAccounts

variable {u : ProgramUnit} {h : Handler} {base : FactBase} {handler : HandlerFacts}
  {a b first : AccountFact} {group : List AccountFact}

/-! ## Pairs of an ordered list -/

section Ordered

variable {α : Type} {r : α → α → Prop} {items : List α}

/-- The pairs of a list in ascending order are those of a smaller and a greater member. -/
theorem mem_pairs_iff (asymmetric : ∀ x y, r x y → ¬ r y x) (ordered : items.Pairwise r) {x y : α} :
    (x, y) ∈ pairs items ↔ x ∈ items ∧ y ∈ items ∧ r x y := by
  have irreflexive : ∀ x, ¬ r x x := fun x less => asymmetric x x less less
  induction ordered with
  | nil => simp [pairs]
  | @cons least rest below ordered ih =>
    simp only [pairs, List.mem_append, List.mem_map, Prod.mk.injEq, List.mem_cons, ih]
    constructor
    · rintro (⟨z, inside, rfl, rfl⟩ | ⟨first, second, less⟩)
      · exact ⟨.inl rfl, .inr inside, below z inside⟩
      · exact ⟨.inr first, .inr second, less⟩
    · rintro ⟨rfl | first, rfl | second, less⟩
      · exact absurd less (irreflexive _)
      · exact .inl ⟨y, second, rfl, rfl⟩
      -- Nothing stands in front of the least member.
      · exact absurd (below _ first) (asymmetric _ _ less)
      · exact .inr ⟨first, second, less⟩

/-- The pairs of a list in ascending order are in ascending order themselves. -/
theorem pairwise_pairs (ordered : items.Pairwise r) : (pairs items).Pairwise (Prod.Lex r r) := by
  induction ordered with
  | nil => exact .nil
  | @cons least rest below ordered ih =>
    refine List.pairwise_append.2 ⟨?_, ih, ?_⟩
    · exact List.pairwise_map.2 (ordered.imp fun less => .right least less)
    · intro pair opened pair' later
      rcases List.mem_map.1 opened with ⟨y, -, rfl⟩
      exact .left _ _ (below pair'.1 (mem_of_mem_pairs later).1)

end Ordered

/-! ## Open pairs -/

/-- A mutable account that holds data and is neither a signer nor created here. -/
structure Eligible (account : AccountFact) : Prop where
  mutable : account.isMut = true
  notSigner : account.isSigner = false
  holdsData : account.typeKind ∉ ["Signer", "Program", "Sysvar", "Interface"]
  notCreated : ∀ kind ∈ ["init", "init_if_needed", "zero"], account.has kind = false

/-- Two eligible accounts of one type, in the order of declaration, of which nothing tells that they
differ: neither may be guarded by something that was not understood, and no guard that was understood
refers to both and has the operator `!=`. -/
structure IsOpen (handler : HandlerFacts) (a b : AccountFact) : Prop where
  first : a ∈ handler.accounts
  second : b ∈ handler.accounts
  order : a.Precedes b
  eligible : Eligible a
  eligible' : Eligible b
  type : typeOf a = typeOf b
  unguarded : handler.possiblyGuarded a = false
  unguarded' : handler.possiblyGuarded b = false
  uncompared : ∀ ev ∈ handler.evidence, ev.unknown = false → "!=" ∈ ev.ops →
    ¬ (a.index ∈ ev.refs ∧ b.index ∈ ev.refs)

theorem isEligible_iff : isEligible a = true ↔ Eligible a := by
  have created : AccountKind.isCreated a = false ↔
      ∀ kind ∈ ["init", "init_if_needed", "zero"], a.has kind = false := by
    simp [AccountKind.isCreated, AccountKind.creation]
  have holdsData : AccountKind.withoutData.contains a.typeKind = false ↔
      a.typeKind ∉ ["Signer", "Program", "Sysvar", "Interface"] := by
    simp only [AccountKind.withoutData, ← Bool.not_eq_true, List.contains_iff_mem, List.mem_cons,
      List.not_mem_nil, or_false]
    tauto
  simp only [isEligible, Bool.and_eq_true, Bool.not_eq_true', holdsData, created]
  constructor
  · rintro ⟨⟨⟨mutable, notSigner⟩, holdsData⟩, notCreated⟩
    exact ⟨mutable, notSigner, holdsData, notCreated⟩
  · rintro ⟨mutable, notSigner, holdsData, notCreated⟩
    exact ⟨⟨⟨mutable, notSigner⟩, holdsData⟩, notCreated⟩

theorem requiresDistinct_iff {ev : Evidence} :
    requiresDistinct ev a b = true ↔
      ev.unknown = false ∧ "!=" ∈ ev.ops ∧ a.index ∈ ev.refs ∧ b.index ∈ ev.refs := by
  simp only [requiresDistinct, Bool.and_eq_true, Bool.not_eq_true', List.contains_iff_mem, and_assoc]

theorem areDistinct_eq_false_iff :
    areDistinct handler a b = false ↔ handler.possiblyGuarded a = false ∧
      handler.possiblyGuarded b = false ∧ ∀ ev ∈ handler.evidence, ev.unknown = false →
        "!=" ∈ ev.ops → ¬ (a.index ∈ ev.refs ∧ b.index ∈ ev.refs) := by
  rw [areDistinct, Bool.or_eq_false_iff, Bool.or_eq_false_iff, and_assoc, List.any_eq_false]
  simp only [requiresDistinct_iff, not_and]

theorem isOpen_iff : IsOpen handler a b ↔ a.Precedes b ∧ Confusable handler a b := by
  constructor
  · intro opened
    exact ⟨opened.order, opened.first, opened.second, isEligible_iff.2 opened.eligible,
      isEligible_iff.2 opened.eligible', opened.type, areDistinct_eq_false_iff.2
        ⟨opened.unguarded, opened.unguarded', opened.uncompared⟩⟩
  · rintro ⟨order, confusable⟩
    rcases areDistinct_eq_false_iff.1 confusable.bare with ⟨unguarded, unguarded', uncompared⟩
    exact ⟨confusable.first, confusable.second, order, isEligible_iff.1 confusable.eligible,
      isEligible_iff.1 confusable.eligible', confusable.type, unguarded, unguarded', uncompared⟩

/-! ## Groups -/

/-- The account is the first one of its group. -/
structure IsFirst (handler : HandlerFacts) (a : AccountFact) : Prop where
  inside : a ∈ handler.accounts
  eligible : Eligible a
  least : ∀ b ∈ handler.accounts, Eligible b → typeOf b = typeOf a → a.index ≤ b.index

/-- The finding stands for the group of `first`: it is located there and lists all open pairs of the
group, each of them once and in the order of declaration. -/
structure AccountsFor (handler : HandlerFacts) (first : AccountFact) (f : Finding) : Prop where
  named : f.handler = handler.name
  located : f.location = first.location
  pairs : ∃ listed : List (AccountFact × AccountFact),
    f.metadata.lookup "uncovered_pairs" =
      some (.list (listed.map fun (a, b) => .texts [a.name, b.name])) ∧
    listed.Pairwise (Prod.Lex AccountFact.Precedes AccountFact.Precedes) ∧
    ∀ a b, (a, b) ∈ listed ↔ IsOpen handler a b ∧ typeOf a = typeOf first

section Groups

variable (extracted : h.facts u = .ok handler) {type : String × Option String}

include extracted

theorem pairwise_ofType (type : String × Option String) :
    (ofType handler type).Pairwise AccountFact.Precedes :=
  (Handler.pairwise_precedes extracted).filter _

theorem mem_uncovered_iff :
    (a, b) ∈ uncovered handler (ofType handler type) ↔ IsOpen handler a b ∧ typeOf a = type := by
  have asymmetric : ∀ x y : AccountFact, x.Precedes y → ¬ y.Precedes x :=
    fun x y => Nat.lt_asymm
  rw [uncovered, List.mem_filter, mem_pairs_iff asymmetric (pairwise_ofType extracted type),
    Bool.not_eq_true', mem_ofType, mem_ofType, isOpen_iff]
  constructor
  · rintro ⟨⟨⟨first, eligible, typed⟩, ⟨second, eligible', typed'⟩, order⟩, bare⟩
    exact ⟨⟨order, first, second, eligible, eligible', typed.trans typed'.symm, bare⟩, typed⟩
  · rintro ⟨⟨order, confusable⟩, typed⟩
    exact ⟨⟨⟨confusable.first, confusable.eligible, typed⟩,
      ⟨confusable.second, confusable.eligible', confusable.type.symm.trans typed⟩, order⟩,
      confusable.bare⟩

theorem head?_ofType_iff :
    (ofType handler type).head? = some first ↔ IsFirst handler first ∧ typeOf first = type := by
  have ordered := pairwise_ofType extracted type
  constructor
  · intro head
    rcases mem_ofType.1 (List.mem_of_head? head) with ⟨inside, eligible, rfl⟩
    refine ⟨⟨inside, isEligible_iff.1 eligible, fun b present eligible' same => ?_⟩, rfl⟩
    have member := mem_ofType.2 ⟨present, isEligible_iff.2 eligible', same⟩
    obtain ⟨rest, whole⟩ := List.head?_eq_some_iff.1 head
    rw [whole] at ordered member
    rcases List.mem_cons.1 member with rfl | later
    · exact Nat.le_refl _
    · exact Nat.le_of_lt (List.rel_of_pairwise_cons ordered later)
  · rintro ⟨isFirst, rfl⟩
    have member := mem_ofType.2 ⟨isFirst.inside, isEligible_iff.2 isFirst.eligible, rfl⟩
    obtain ⟨least, rest, whole⟩ := List.exists_cons_of_ne_nil (List.ne_nil_of_mem member)
    have here : least ∈ ofType handler (typeOf first) := whole ▸ List.mem_cons_self
    rcases mem_ofType.1 here with ⟨inside, eligible, typed⟩
    rw [whole] at ordered member
    -- Neither of the two accounts stands in front of the other one.
    have front := isFirst.least least inside (isEligible_iff.1 eligible) typed
    rcases List.mem_cons.1 member with rfl | later
    · rw [whole, List.head?_cons]
    · exact absurd (List.rel_of_pairwise_cons ordered later) (Nat.not_lt.2 front)

theorem accountsFor_finding (first : AccountFact) (names : List String) :
    AccountsFor handler first
      (finding handler first names (uncovered handler (ofType handler (typeOf first)))) where
  named := rfl
  located := rfl
  pairs := by
    refine ⟨uncovered handler (ofType handler (typeOf first)), rfl, ?_, fun a b => ?_⟩
    · exact (pairwise_pairs (pairwise_ofType extracted _)).filter _
    · exact mem_uncovered_iff extracted

end Groups

/-! ## Findings -/

/-- The first accounts of the groups with an open pair. -/
def firstsOfOpen (handler : HandlerFacts) : List AccountFact :=
  (Assoc.gather (typed handler)).filterMap fun entry =>
    if (uncovered handler entry.2).isEmpty then none else entry.2.head?

/-- A group that is gathered and has an open pair consists of all eligible accounts of its type. -/
theorem eq_ofType_of_mem_gather {type : String × Option String}
    (gathered : (type, group) ∈ Assoc.gather (typed handler))
    (opened : uncovered handler group ≠ []) : group = ofType handler type := by
  have nonempty : group ≠ [] := by
    rintro rfl
    exact opened rfl
  rw [(Assoc.mem_gather nonempty).1 gathered, valuesOf_typed]

theorem pairwise_firstsOfOpen (extracted : h.facts u = .ok handler) :
    (firstsOfOpen handler).Pairwise AccountFact.Precedes := by
  have accounts : (typed handler).map Prod.snd = handler.accounts.filter isEligible := by
    rw [typed, List.map_map]
    exact List.map_id _
  have among : (firstsOfOpen handler).Sublist (handler.accounts.filter isEligible) := by
    have fewer : firstsOfOpen handler = ((Assoc.gather (typed handler)).filter fun entry =>
        !(uncovered handler entry.2).isEmpty).filterMap fun entry => entry.2.head? := by
      rw [firstsOfOpen, List.filterMap_filter]
      refine List.filterMap_congr fun entry _ => ?_
      cases (uncovered handler entry.2).isEmpty <;> rfl
    rw [fewer, ← accounts]
    exact (List.filter_sublist.filterMap _).trans (Assoc.firsts_gather_sublist _)
  exact ((Handler.pairwise_precedes extracted).sublist List.filter_sublist).sublist among

theorem mem_firstsOfOpen_iff (extracted : h.facts u = .ok handler) :
    first ∈ firstsOfOpen handler ↔
      IsFirst handler first ∧ ∃ a b, IsOpen handler a b ∧ typeOf a = typeOf first := by
  rw [firstsOfOpen, List.mem_filterMap]
  constructor
  · rintro ⟨⟨type, group⟩, gathered, found⟩
    dsimp only at found
    split at found
    · cases found
    · rename_i opened
      rw [List.isEmpty_iff] at opened
      obtain rfl := eq_ofType_of_mem_gather gathered opened
      rcases (head?_ofType_iff extracted).1 found with ⟨isFirst, rfl⟩
      rcases List.exists_mem_of_ne_nil _ opened with ⟨⟨a, b⟩, bare⟩
      exact ⟨isFirst, a, b, (mem_uncovered_iff extracted).1 bare⟩
  · rintro ⟨isFirst, a, b, opened⟩
    have bare := (mem_uncovered_iff extracted).2 opened
    have head := (head?_ofType_iff extracted).2 ⟨isFirst, rfl⟩
    have nonempty : ofType handler (typeOf first) ≠ [] :=
      List.ne_nil_of_mem (List.mem_of_head? head)
    refine ⟨(typeOf first, ofType handler (typeOf first)), ?_, ?_⟩
    · exact (Assoc.mem_gather nonempty).2 (valuesOf_typed _).symm
    · dsimp only
      rw [if_neg (by simpa using List.ne_nil_of_mem bare), head]

/-- There is one finding for each group with an open pair. -/
theorem forall₂_scan (extracted : h.facts u = .ok handler) :
    List.Forall₂ (AccountsFor handler) (firstsOfOpen handler) (scan handler) := by
  rw [scan_eq_gather, firstsOfOpen]
  refine forall₂_filterMap_of_mem fun ⟨type, group⟩ gathered => ?_
  dsimp only
  by_cases covered : uncovered handler group = []
  · have silent : typeFinding? handler (type, group) = none := by
      rw [typeFinding?, groupFinding?_eq_none handler group covered, ite_self]
    rw [if_pos (List.isEmpty_iff.2 covered), silent]
    exact .none
  · obtain rfl := eq_ofType_of_mem_gather gathered covered
    have several := one_lt_length_of_uncovered covered
    rw [if_neg (by simpa using covered), typeFinding?, if_pos several]
    cases whole : ofType handler type with
    | nil => simp [whole] at several
    | cons first rest =>
      have head : (ofType handler type).head? = some first := by rw [whole, List.head?_cons]
      rcases (head?_ofType_iff extracted).1 head with ⟨-, rfl⟩
      rw [whole] at covered
      rw [groupFinding?_cons handler first rest covered, ← whole, head]
      exact .some (accountsFor_finding extracted first _)

/-- **Duplicate accounts.** The findings about a handler stand for its groups with an open pair, one
for each, in the order of the groups' first accounts; and each lists all open pairs of its group. -/
theorem pairs_accounted_for (made : FactBase.ofUnit u = .ok base) :
    detector.detect u base = .ok (base.handlers.flatMap scan) ∧
      ∀ handler ∈ base.handlers, ∃ firsts : List AccountFact,
        firsts.Pairwise AccountFact.Precedes ∧
        (∀ first, first ∈ firsts ↔
          IsFirst handler first ∧ ∃ a b, IsOpen handler a b ∧ typeOf a = typeOf first) ∧
        List.Forall₂ (AccountsFor handler) firsts (scan handler) := by
  refine ⟨rfl, fun handler present => ?_⟩
  rcases FactBase.exists_handler_of_mem made present with ⟨h, -, extracted⟩
  exact ⟨firstsOfOpen handler, pairwise_firstsOfOpen extracted,
    fun _ => mem_firstsOfOpen_iff extracted, forall₂_scan extracted⟩

/-! ### Two groups -/

/-- A handler with three accounts of one type, two of which have to differ, and two accounts of
another type between them. -/
def settle : Handler :=
  { name := "settle"
    span := .ofLength 0 9
    params :=
      [vaultAt "source" 0,
        { name := "old", typeTag := "Account<'info, Config>", isMut := true, span := .ofLength 1 1 },
        vaultAt "target" 2,
        { name := "new", typeTag := "Account<'info, Config>", isMut := true, span := .ofLength 3 1 },
        vaultAt "fees" 4]
    body := [⟨.ofLength 6 1, .check sourceIsNotTarget⟩]
    params_distinct := by simp [vaultAt] }

def settling : ProgramUnit :=
  { name := "settling", file := "settling.json", handlers := [settle]
    handlers_distinct := by simp }

/-- The fees may go to the source or to the target, and the two configurations may be one. -/
theorem pairs_accounted_for_settling :
    ∃ base handler firsts, FactBase.ofUnit settling = .ok base ∧ base.handlers = [handler] ∧
      (detector.detect settling base).toOption.map (fun findings =>
        findings.map fun f => (f.location.start, f.uncoveredPairs)) =
          some [(0, [.texts ["source", "fees"], .texts ["target", "fees"]]),
            (1, [.texts ["old", "new"]])] ∧
      firsts.Pairwise AccountFact.Precedes ∧
      List.Forall₂ (AccountsFor handler) firsts (scan handler) ∧ firsts.length = 2 := by
  have made : ∃ base handler, FactBase.ofUnit settling = .ok base ∧ base.handlers = [handler] ∧
      (scan handler).map (fun f => (f.location.start, f.uncoveredPairs)) =
        [(0, [.texts ["source", "fees"], .texts ["target", "fees"]]),
          (1, [.texts ["old", "new"]])] :=
    ⟨_, _, rfl, rfl, by decide +kernel⟩
  rcases made with ⟨base, handler, made, only, found⟩
  rcases pairs_accounted_for made with ⟨detected, accounted⟩
  rcases accounted handler (only ▸ List.mem_singleton_self handler) with
    ⟨firsts, ordered, -, related⟩
  refine ⟨base, handler, firsts, made, only, ?_, ordered, related, ?_⟩
  · rw [detected, only, List.flatMap_singleton, ← found]
    rfl
  · rw [related.length_eq, ← List.length_map, found]
    rfl

end DuplicateAccounts

end AccountAudit
