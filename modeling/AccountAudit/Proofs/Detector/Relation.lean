import AccountAudit.Detector.DuplicateAccounts
import AccountAudit.Proofs.Detector.Comparison

/-!
# When two accounts count as related

A guard relates two accounts if it has three things somewhere in it: one of the operators that are
asked for, a path to the one account, and a path to the other one (`Evidence.joins`). A comparison of
the two accounts has all three (`Evidence.joins_of_compares`), but a guard can have them without it:
in `a != payer && b != payer` both accounts are compared, and neither with the other.

The main statement `relatesBy_links_and_areDistinct` says for two questions that detectors ask about
a pair of accounts, whether they are linked and whether they are known to differ, when the answer is
yes, and that it can be trusted where each guard is one plain comparison.
-/

namespace AccountAudit

/-! ## Comparisons of two paths -/

namespace Expr

/-- One operand of the node fulfils `p` and the other one `q`. -/
def opposes (p q : Expr → Bool) (node : Expr) : Bool :=
  match node.lhs, node.rhs with
  | some lhs, some rhs => (p lhs && q rhs) || (p rhs && q lhs)
  | _, _ => false

theorem exists_operands {p q : Expr → Bool} {node : Expr} (h : node.opposes p q = true) :
    ∃ x y : Expr, (node.lhs = some x ∨ node.rhs = some x) ∧
      (node.lhs = some y ∨ node.rhs = some y) ∧ p x = true ∧ q y = true := by
  unfold opposes at h
  split at h
  · rename_i lhs rhs left right
    rw [Bool.or_eq_true, Bool.and_eq_true, Bool.and_eq_true] at h
    rcases h with ⟨first, second⟩ | ⟨first, second⟩
    · exact ⟨lhs, rhs, .inl left, .inr right, first, second⟩
    · exact ⟨rhs, lhs, .inr right, .inl left, first, second⟩
  · cases h

/-- The node compares, by one of the operators, a path from `a` in one operand with a path from `b`
in the other one. -/
def compares (ops : List String) (a b : String) (node : Expr) : Bool :=
  node.kind == .binary && ops.contains node.head.op && node.opposes (startsAt a) (startsAt b)

/-- The expression is a path or a literal. -/
inductive IsLeaf : Expr → Prop where
  | path (path : String) : IsLeaf (.ofPath path)
  | value (value : Value) : IsLeaf (.ofValue value)

theorem IsLeaf.walk {e : Expr} (leaf : e.IsLeaf) : e.walk = [e] := by
  cases leaf <;> rfl

theorem walk_ofBinary (op : String) (lhs rhs : Expr) :
    (ofBinary op lhs rhs).walk = ofBinary op lhs rhs :: (lhs.walk ++ rhs.walk) := by
  simp [ofBinary, Expr.walk, walkOption, walkAll]

/-- The paths of a comparison are those of its operands. -/
theorem startsAt_ofBinary (root op : String) (lhs rhs : Expr) :
    (ofBinary op lhs rhs).startsAt root = (lhs.startsAt root || rhs.startsAt root) := by
  rw [startsAt, walk_ofBinary, List.any_cons, List.any_append]
  rfl

theorem operators_ofBinary (op : String) {lhs rhs : Expr} (left : lhs.IsLeaf) (right : rhs.IsLeaf) :
    (ofBinary op lhs rhs).operators = [op] := by
  cases left <;> cases right <;> rfl

/-- A leaf is one path at most. -/
theorem IsLeaf.root_unique {e : Expr} (leaf : e.IsLeaf) {a b : String}
    (first : e.startsAt a = true) (second : e.startsAt b = true) : a = b := by
  simp only [startsAt, leaf.walk, List.any_cons, List.any_nil, Bool.or_false, Bool.and_eq_true,
    beq_iff_eq] at first second
  exact first.2.symm.trans second.2

end Expr

namespace Evidence

/-- A guard that was understood compares a path from `a` with a path from `b`. -/
def compares (ops : List String) (a b : String) (ev : Evidence) : Bool :=
  !ev.unknown && ev.nodes.any (Expr.compares ops a b)

/-- A guard that was understood has one of the operators, a path from `a` and a path from `b`, each
of them anywhere. -/
def joins (ops : List String) (a b : String) (ev : Evidence) : Bool :=
  !ev.unknown && ev.usesAny ops && ev.startsAt a && ev.startsAt b

/-- A guard is plain if it is one comparison of leaves at most. -/
structure IsPlain (ev : Evidence) : Prop where
  single : ev.exprs.length ≤ 1
  comparison : ∀ e ∈ ev.exprs, ∃ op lhs rhs, e = .ofBinary op lhs rhs ∧ lhs.IsLeaf ∧ rhs.IsLeaf

/-- A comparison of two paths has all that is looked for. -/
theorem joins_of_compares {ops : List String} {a b : String} {ev : Evidence}
    (h : ev.compares ops a b = true) : ev.joins ops a b = true := by
  rw [compares, Bool.and_eq_true, List.any_eq_true] at h
  rcases h with ⟨known, node, inside, compares⟩
  rw [Expr.compares, Bool.and_eq_true, Bool.and_eq_true] at compares
  rcases compares with ⟨⟨binary, op⟩, operands⟩
  have operator : ev.usesAny ops = true :=
    usesAny_of_mem_nodes inside (by simpa using binary) (List.contains_iff_mem.1 op)
  rcases Expr.exists_operands operands with ⟨x, y, inX, inY, first, second⟩
  have one : ev.startsAt a = true := List.any_eq_true.2 (any_of_operand inside inX first)
  have other : ev.startsAt b = true := List.any_eq_true.2 (any_of_operand inside inY second)
  simp [joins, known, operator, one, other]

/-- A plain guard that has all that is looked for compares the two paths. -/
theorem compares_of_joins {ops : List String} {a b : String} {ev : Evidence} (plain : ev.IsPlain)
    (distinct : a ≠ b) (h : ev.joins ops a b = true) : ev.compares ops a b = true := by
  simp only [joins, Bool.and_eq_true] at h
  rcases h with ⟨⟨⟨known, operator⟩, one⟩, other⟩
  rcases List.any_eq_true.1 one with ⟨e, stated, one⟩
  obtain ⟨op, lhs, rhs, rfl, left, right⟩ := plain.comparison e stated
  have only : ev.exprs = [.ofBinary op lhs rhs] := by
    rcases List.length_eq_one_iff.1 (Nat.le_antisymm plain.single (List.length_pos_of_mem stated))
      with ⟨e, only⟩
    rw [only, List.mem_singleton] at stated
    rw [only, ← stated]
  -- The operator and both paths are those of the one comparison,
  have asked : op ∈ ops := by
    rcases List.any_eq_true.1 operator with ⟨found, inside, asked⟩
    rw [Evidence.ops, only, Text.mem_distinctSorted, List.flatMap_singleton,
      Expr.operators_ofBinary op left right, List.mem_singleton] at inside
    rw [← inside]
    exact List.contains_iff_mem.1 asked
  have other : (Expr.ofBinary op lhs rhs).startsAt b = true := by
    simpa [startsAt, only] using other
  rw [Expr.startsAt_ofBinary, Bool.or_eq_true] at one other
  -- and a leaf is not two paths, so the paths stand in different operands.
  have opposed : (Expr.ofBinary op lhs rhs).opposes (Expr.startsAt a) (Expr.startsAt b) = true := by
    rw [Expr.opposes]
    dsimp only [Expr.ofBinary, Expr.lhs, Expr.rhs]
    rcases one with one | one <;> rcases other with other | other
    · exact absurd (left.root_unique one other) distinct
    · simp [one, other]
    · simp [one, other]
    · exact absurd (right.root_unique one other) distinct
  have compared : (Expr.ofBinary op lhs rhs).compares ops a b = true := by
    have listed : ops.contains (Expr.ofBinary op lhs rhs).head.op = true :=
      List.contains_iff_mem.2 asked
    rw [Expr.compares, opposed, listed]
    rfl
  have inside : Expr.ofBinary op lhs rhs ∈ ev.nodes :=
    List.mem_flatMap.2 ⟨_, stated, Expr.self_mem_walk _⟩
  rw [compares, known, Bool.true_and, List.any_eq_true]
  exact ⟨_, inside, compared⟩

end Evidence

/-! ## Pairs of accounts -/

namespace HandlerFacts

/-- A guard compares, by one of the operators, a path from `a` with a path from `b`. -/
def Compares (facts : HandlerFacts) (ops : List String) (a b : String) : Prop :=
  ∃ ev ∈ facts.evidence, ev.compares ops a b = true

/-- A guard has one of the operators, a path from `a` and a path from `b`. -/
def Joins (facts : HandlerFacts) (ops : List String) (a b : String) : Prop :=
  ∃ ev ∈ facts.evidence, ev.joins ops a b = true

instance (facts : HandlerFacts) (ops : List String) (a b : String) :
    Decidable (facts.Compares ops a b) :=
  inferInstanceAs (Decidable (∃ ev ∈ facts.evidence, ev.compares ops a b = true))

/-- A question about two accounts is decided by guards that join them. So a comparison of the two
settles it, and what settled it was a comparison, unless a guard joins them and none compares them;
and this does not happen if every guard that was understood is plain. -/
structure RelatesBy (facts : HandlerFacts) (ops : List String) (a b : String) (yes : Prop) : Prop where
  joins : yes ↔ facts.Joins ops a b
  compared : facts.Compares ops a b → yes
  trusted : (yes → facts.Compares ops a b) ↔ (facts.Joins ops a b → facts.Compares ops a b)
  plain : (∀ ev ∈ facts.evidence, ev.unknown = false → ev.IsPlain) →
    (yes ↔ facts.Compares ops a b)

theorem relatesBy_of_joins {facts : HandlerFacts} {ops : List String} {a b : String} {yes : Prop}
    (distinct : a ≠ b) (decided : yes ↔ facts.Joins ops a b) : facts.RelatesBy ops a b yes := by
  have joins : facts.Compares ops a b → facts.Joins ops a b := by
    rintro ⟨ev, member, compares⟩
    exact ⟨ev, member, Evidence.joins_of_compares compares⟩
  refine ⟨decided, fun compares => decided.2 (joins compares), by rw [decided], fun plain => ?_⟩
  rw [decided]
  refine ⟨?_, joins⟩
  rintro ⟨ev, member, joined⟩
  have known : ev.unknown = false := by
    simp only [Evidence.joins, Bool.and_eq_true, Bool.not_eq_true'] at joined
    exact joined.1.1.1
  exact ⟨ev, member, Evidence.compares_of_joins (plain ev member known) distinct joined⟩

variable {u : ProgramUnit} {h : Handler} {facts : HandlerFacts} {a b : AccountFact}

/-- A guard that was understood refers to an account by a path from its name. -/
theorem contains_index (extracted : h.facts u = .ok facts) (inside : a ∈ facts.accounts)
    {ev : Evidence} (member : ev ∈ facts.evidence) (known : ev.unknown = false) :
    ev.refs.contains a.index = ev.startsAt a.name :=
  contains_refs_iff extracted member known (Handler.getElem?_accountNames extracted inside)

/-- Two accounts are linked if a guard joins them. -/
theorem links_iff (extracted : h.facts u = .ok facts) (first : a ∈ facts.accounts)
    (second : b ∈ facts.accounts) (distinct : a.index ≠ b.index) (ops : List String) :
    facts.links a.index [b.index] ops = true ↔ facts.Joins ops a.name b.name := by
  rw [links, List.any_eq_true, Joins]
  refine exists_congr fun ev => and_congr_right fun member => ?_
  cases known : ev.unknown with
  | true => simp [Evidence.joins, known]
  | false =>
    -- The only other account that is asked for is `b`.
    have other : (ev.refs.any fun i => [b.index].contains i && i != a.index) =
        ev.refs.contains b.index := by
      rw [Bool.eq_iff_iff, List.any_eq_true, List.contains_iff_mem]
      simp [Ne.symm distinct]
    rw [other, contains_index extracted first member known,
      contains_index extracted second member known, Evidence.joins, known]
    simp only [Bool.not_false, Bool.true_and, Bool.and_eq_true]
    tauto

end HandlerFacts

namespace DuplicateAccounts

open HandlerFacts

variable {u : ProgramUnit} {h : Handler} {facts : HandlerFacts} {a b : AccountFact}

/-- Two accounts that no guard may mention unseen are known to differ if a guard with `!=` joins
them. -/
theorem areDistinct_iff (extracted : h.facts u = .ok facts) (first : a ∈ facts.accounts)
    (second : b ∈ facts.accounts) (exposed : facts.possiblyGuarded a = false)
    (exposed' : facts.possiblyGuarded b = false) :
    areDistinct facts a b = true ↔ facts.Joins ["!="] a.name b.name := by
  rw [areDistinct, exposed, exposed', Bool.or_self, Bool.false_or, List.any_eq_true, Joins]
  refine exists_congr fun ev => and_congr_right fun member => ?_
  cases known : ev.unknown with
  | true => simp [requiresDistinct, Evidence.joins, known]
  | false =>
    have operator : ev.usesAny ["!="] = ev.ops.contains "!=" := by
      rw [Bool.eq_iff_iff, Evidence.usesAny, List.any_eq_true, List.contains_iff_mem]
      simp
    rw [requiresDistinct, contains_index extracted first member known,
      contains_index extracted second member known, Evidence.joins, operator]

/-- **Related accounts.** Whether two accounts are linked, and whether two accounts that no guard may
mention unseen are known to differ, is decided by guards that join them; see `RelatesBy` for what
this says about comparisons. -/
theorem relatesBy_links_and_areDistinct (extracted : h.facts u = .ok facts)
    (first : a ∈ facts.accounts) (second : b ∈ facts.accounts) (distinct : a ≠ b) :
    facts.RelatesBy equalityOps a.name b.name (facts.links a.index [b.index] equalityOps = true) ∧
      (facts.possiblyGuarded a = false → facts.possiblyGuarded b = false →
        facts.RelatesBy ["!="] a.name b.name (areDistinct facts a b = true)) := by
  have index : a.index ≠ b.index := mt (Handler.eq_of_index extracted first second) distinct
  have name : a.name ≠ b.name := mt (Handler.eq_of_name extracted first second) distinct
  refine ⟨relatesBy_of_joins name (links_iff extracted first second index equalityOps), ?_⟩
  intro exposed exposed'
  exact relatesBy_of_joins name (areDistinct_iff extracted first second exposed exposed')

/-! ### Two accounts that differ from a third one -/

def vaultAt (name : String) (place : Nat) : Account :=
  { name, typeTag := "Account<'info, Vault>", isMut := true, span := .ofLength place 1 }

/-- A handler that takes two accounts of one type and a signer, and checks something. -/
def exchange (condition : Expr) : Handler :=
  { name := "exchange"
    span := .ofLength 0 9
    params := [vaultAt "source" 0, vaultAt "target" 1,
      { name := "payer", typeTag := "Signer<'info>", span := .ofLength 2 1 }]
    body := [⟨.ofLength 4 1, .check condition⟩]
    params_distinct := by simp [vaultAt] }

def exchanger : ProgramUnit :=
  { name := "exchanger", file := "exchange.json", handlers := [], handlers_distinct := List.nodup_nil }

/-- `source.key() != target.key()` -/
def sourceIsNotTarget : Expr :=
  .ofBinary "!=" (.ofPath "source.key()") (.ofPath "target.key()")

/-- `source.key() != payer.key() && target.key() != payer.key()` -/
def neitherIsPayer : Expr :=
  .ofBinary "&&" (.ofBinary "!=" (.ofPath "source.key()") (.ofPath "payer.key()"))
    (.ofBinary "!=" (.ofPath "target.key()") (.ofPath "payer.key()"))

/-- A comparison of the two accounts links them and tells that they differ. -/
theorem relatesBy_links_and_areDistinct_exchange :
    ∃ facts source target, (exchange sourceIsNotTarget).facts exchanger = .ok facts ∧
      source ∈ facts.accounts ∧ target ∈ facts.accounts ∧ source ≠ target ∧
      facts.possiblyGuarded source = false ∧ facts.possiblyGuarded target = false ∧
      facts.Compares equalityOps source.name target.name ∧
      facts.links source.index [target.index] equalityOps = true ∧
      facts.Compares ["!="] source.name target.name ∧ areDistinct facts source target = true := by
  refine ⟨_, _, _, rfl, .head _, .tail _ (.head _), by decide, by decide, by decide, by decide, ?_,
    by decide, ?_⟩
  · exact (relatesBy_links_and_areDistinct (h := exchange sourceIsNotTarget) (u := exchanger) rfl
      (.head _) (.tail _ (.head _)) (by decide)).1.compared (by decide)
  · exact ((relatesBy_links_and_areDistinct (h := exchange sourceIsNotTarget) (u := exchanger) rfl
      (.head _) (.tail _ (.head _)) (by decide)).2 (by decide) (by decide)).compared (by decide)

/-- Two comparisons with a third account link the two as well, and are taken to tell that they
differ. -/
theorem exchange_related_without_comparison :
    ∃ facts source target, (exchange neitherIsPayer).facts exchanger = .ok facts ∧
      facts.account? 0 = some source ∧ facts.account? 1 = some target ∧
      facts.possiblyGuarded source = false ∧ facts.possiblyGuarded target = false ∧
      facts.links source.index [target.index] equalityOps = true ∧
      ¬ facts.Compares equalityOps source.name target.name ∧
      areDistinct facts source target = true ∧ ¬ facts.Compares ["!="] source.name target.name :=
  ⟨_, _, _, rfl, rfl, rfl, by decide, by decide, by decide, by decide, by decide, by decide⟩

end DuplicateAccounts

end AccountAudit
