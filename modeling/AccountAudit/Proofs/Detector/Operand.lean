import AccountAudit.Proofs.Detector.Prefix
import AccountAudit.Proofs.Fact.Consistency
import AccountAudit.Proofs.Guard.Reference

/-!
# Which operands are taken for constant

A raw operator is reported if an operand is not constant, unless a check in front bounds all operands
that are not. Whether an operand is constant is decided by how it is written: a path through a module
or with a root in capitals is taken for constant, even if an account or an argument has the name of
the root. So what matters for a report are the operands that do not look constant, and not all those
that the state or the caller supplies (`Handler.IsLive`).

The main statement `arithmetic_reported_iff` says which operations are reported, and so for which of
them the two come to the same.
-/

namespace AccountAudit

/-- An operand that an account holds or the caller supplies, or that does not look constant. -/
def Handler.IsLive (h : Handler) (e : Expr) : Prop :=
  (e.kind = .path ∧ (e.root ∈ h.accountNames ∨ e.root ∈ h.args.map Argument.name)) ∨
    e.isConstant = false

instance (h : Handler) : DecidablePred h.IsLive :=
  fun e => inferInstanceAs (Decidable (_ ∨ e.isConstant = false))

namespace UncheckedArithmetic

open ArithmeticSite

/-- All operands are paths, and a check in front of position `seq` has an ordering operator and
mentions all of them. -/
def BoundedBefore (facts : HandlerFacts) (seq : Nat) (operands : List Expr) : Prop :=
  (∀ e ∈ operands, e.kind = .path) ∧
    ∃ check ∈ facts.checks, check.seq < seq ∧
      (∃ op ∈ check.condition.operators, op ∈ rangeOps) ∧
      ∀ e ∈ operands, ∃ p ∈ check.condition.paths, p.pathKey = e.pathKey

/-- There are operands of a kind, and no check bounds them. -/
def Exposed (facts : HandlerFacts) (seq : Nat) (operands : List Expr) : Prop :=
  operands ≠ [] ∧ ¬ BoundedBefore facts seq operands

instance (facts : HandlerFacts) (seq : Nat) (operands : List Expr) :
    Decidable (Exposed facts seq operands) :=
  inferInstanceAs (Decidable (operands ≠ [] ∧ ¬ ((∀ e ∈ operands, e.kind = .path) ∧ _)))

/-- The operands that do not look constant. -/
def varying (operands : List Expr) : List Expr :=
  operands.filter (!·.isConstant)

/-- The live operands. -/
def live (h : Handler) (operands : List Expr) : List Expr :=
  operands.filter fun e => decide (h.IsLive e)

variable {u : ProgramUnit} {h : Handler} {facts : HandlerFacts} {seq : Nat} {operands : List Expr}

/-! ## Bounds -/

theorem BoundedBefore.mono {some : List Expr} (fewer : some ⊆ operands)
    (bounded : BoundedBefore facts seq operands) : BoundedBefore facts seq some := by
  rcases bounded with ⟨paths, check, inside, front, ordering, mentioned⟩
  exact ⟨fun e member => paths e (fewer member), check, inside, front, ordering,
    fun e member => mentioned e (fewer member)⟩

theorem Exposed.mono {some : List Expr} (fewer : some ⊆ operands)
    (exposed : Exposed facts seq some) : Exposed facts seq operands := by
  refine ⟨?_, fun bounded => exposed.2 (bounded.mono fewer)⟩
  rintro rfl
  exact exposed.1 (List.subset_nil.1 fewer)

/-- What does not look constant is live. -/
theorem varying_subset_live : varying operands ⊆ live h operands := by
  intro e member
  rcases List.mem_filter.1 member with ⟨inside, varies⟩
  exact List.mem_filter.2 ⟨inside, decide_eq_true (.inr (by simpa using varies))⟩

theorem live_eq_varying (plain : ∀ e ∈ operands, h.IsLive e → e.isConstant = false) :
    live h operands = varying operands := by
  refine List.filter_congr fun e inside => ?_
  rw [Bool.eq_iff_iff, decide_eq_true_eq, Bool.not_eq_true']
  exact ⟨plain e inside, .inr⟩

theorem provenance_ofExpr (names argNames : List String) (e : Expr) :
    ((Operand.ofExpr names argNames e).provenance != .literal) = !e.isConstant := by
  unfold Operand.ofExpr
  split
  · simp_all
  · split
    · split
      · simp_all
      · split <;> simp_all
    · simp_all

/-- Operands are told apart by how they are written. -/
theorem filter_ofExpr (names argNames : List String) :
    ((operands.map (Operand.ofExpr names argNames)).filter (·.provenance != .literal)) =
      (varying operands).map (Operand.ofExpr names argNames) := by
  rw [List.filter_map, varying]
  refine congrArg _ (List.filter_congr fun e _ => ?_)
  exact provenance_ofExpr names argNames e

/-- The checks in front are asked about the operands that do not look constant. -/
theorem isGuarded_iff (extracted : h.facts u = .ok facts) (names argNames : List String) (seq : Nat)
    (operands : List Expr) :
    isGuarded facts.checks seq (operands.map (Operand.ofExpr names argNames)) = true ↔
      varying operands ≠ [] ∧ BoundedBefore facts seq (varying operands) := by
  rw [isGuarded, filter_ofExpr]
  simp only [Bool.and_eq_true, List.all_eq_true, List.any_eq_true, List.forall_mem_map,
    Handler.expr_ofExpr, beq_iff_eq, Bool.not_eq_true', List.isEmpty_eq_false_iff, ne_eq,
    List.map_eq_nil_iff, List.map_map, decide_eq_true_eq, bounds, List.contains_iff_mem,
    Function.comp_apply]
  rw [and_comm (a := ∀ e ∈ varying operands, e.kind = .path), and_assoc]
  refine and_congr_right fun _ => and_congr_right fun _ => exists_congr fun check =>
    and_congr_right fun inside => and_congr_right fun _ => ?_
  rw [HandlerFacts.ops_of_mem_checks extracted inside,
    HandlerFacts.paths_of_mem_checks extracted inside]
  simp only [List.mem_map]

/-! ## Reports -/

variable {span : Span} {op : String} {lhs rhs : Expr} {wrapper : Option String}

/-- The sites at a position are made from the node there. -/
theorem mem_arithmetic_iff (extracted : h.facts u = .ok facts)
    (node : h.body[seq]? = some ⟨span, .arith op lhs rhs wrapper⟩) {site : ArithmeticSite} :
    site ∈ facts.arithmetic ∧ site.seq = seq ↔
      site = .ofOperation h.accountNames (h.args.map Argument.name) facts.checks seq
        (u.location span) op lhs rhs wrapper := by
  rcases Handler.facts_eq_ok.1 extracted with ⟨accounts, -, rfl⟩
  exact Handler.mem_placed_iff (fun _ _ _ => Handler.seq_of_arithmeticSite?) node rfl

/-- A raw operator that may overflow is reported unless its operands are constant or bounded. -/
theorem reports_ofOperation (extracted : h.facts u = .ok facts) (names argNames : List String)
    (location : Location) (overflows : op ∈ overflowingOps)
    (unwrapped : ∀ name ∈ wrapper, name = "") :
    reports (.ofOperation names argNames facts.checks seq location op lhs rhs wrapper) = true ↔
      Exposed facts seq (varying [lhs, rhs]) := by
  have noSafe : wrapper.any isSafeWrapper = false ∧ wrapper.any (!·.isEmpty) = false := by
    cases wrapper with
    | none => exact ⟨rfl, rfl⟩
    | some name =>
      obtain rfl := unwrapped name rfl
      exact ⟨by decide, by decide⟩
  have some : ([lhs, rhs].map (Operand.ofExpr names argNames)).any (·.provenance != .literal) =
      true ↔ varying [lhs, rhs] ≠ [] := by
    rw [List.any_map, varying, ne_eq, List.filter_eq_nil_iff, List.any_eq_true]
    simp only [Function.comp_apply, provenance_ofExpr, not_forall, exists_prop, not_not]
  have guarded := isGuarded_iff extracted names argNames seq [lhs, rhs]
  simp only [List.map_cons, List.map_nil] at some guarded
  simp only [reports, ofOperation, isWrapped, ArithmeticSite.hasNonLiteral, noSafe.1, noSafe.2,
    Bool.not_false, Bool.and_true, Bool.and_eq_true, List.contains_iff_mem, some,
    Bool.not_eq_true', ← Bool.not_eq_true, guarded]
  rw [Exposed]
  tauto

/-- A handler that checks something about an account and then takes something away from it. -/
def withdraw (account : String) (checks : List Expr) (amount : Expr) : Handler :=
  { name := "withdraw"
    span := .ofLength 0 9
    params := [{ name := account, typeTag := "Account<'info, Vault>", isMut := true,
                 span := .ofLength 0 1 }]
    args := [{ name := "amount", typeTag := "u64" }]
    body := checks.map (fun condition => ⟨.ofLength 1 1, .check condition⟩) ++
      [⟨.ofLength 2 1, .arith "-" (.ofPath (account ++ ".balance")) amount none⟩]
    params_distinct := by simp }

/-- `amount <= 100` -/
def amountIsSmall : Expr :=
  .ofBinary "<=" (.ofPath "amount") (.ofValue (.int 100))

/-- What is live is exposed when something is taken away from a vault in capitals, but nothing is
reported. -/
def IsOverlooked (checks : List Expr) (amount : Expr) : Prop :=
  ∃ facts, (withdraw "VAULT" checks amount).facts NodeRule.till = .ok facts ∧
    (withdraw "VAULT" checks amount).body[checks.length]? =
      some ⟨.ofLength 2 1, .arith "-" (.ofPath "VAULT.balance") amount none⟩ ∧
    "-" ∈ overflowingOps ∧
    Exposed facts checks.length (live (withdraw "VAULT" checks amount)
      [.ofPath "VAULT.balance", amount]) ∧
    ¬ NodeRule.arithmetic.ReportsAt facts checks.length

end UncheckedArithmetic

end AccountAudit
