import AccountAudit.Proofs.Detector.Prefix
import AccountAudit.Proofs.Guard.Reference

/-!
# When an invocation is silenced

An invocation of a program that is no constant is not reported if the account of the program is
declared to be a known program, or if a guard in front has three things somewhere in it: an operator
that compares for being the same, a constant, and a path to the program (`Evidence.gathers`). A
comparison of the program with a constant has all three (`Evidence.gathers_of_comparesConstant`), but
a guard can have them without it: in `target != payer && amount > 0` the program is compared with
another account, and the constant with something else.

The main statement `silent_iff` says which invocations are silenced, and so for which of them silence
means that the program was compared with a constant.
-/

namespace AccountAudit

/-! ## Comparisons with a constant -/

namespace Expr

/-- A constant stands somewhere in the expression. -/
def hasConstant (e : Expr) : Bool :=
  e.walk.any isConstant

/-- The node says that its operands are the same, or that they are not. -/
def isEquality (node : Expr) : Bool :=
  node.kind == .binary && equalityOps.contains node.head.op

/-- The node compares a path from `root` in one operand with a constant in the other one. -/
def comparesConstant (root : String) (node : Expr) : Bool :=
  node.isEquality &&
    match node.lhs, node.rhs with
    | some lhs, some rhs =>
      (lhs.startsAt root && rhs.hasConstant) || (rhs.startsAt root && lhs.hasConstant)
    | _, _ => false

end Expr

namespace Evidence

/-- A guard that was understood has a comparison of a path from `root` with a constant. -/
def comparesConstant (root : String) (ev : Evidence) : Bool :=
  !ev.unknown && ev.nodes.any (Expr.comparesConstant root)

/-- A guard that was understood has an equality operator, a constant and a path from `root`, each of
them anywhere. -/
def gathers (root : String) (ev : Evidence) : Bool :=
  !ev.unknown && ev.usesAny equalityOps && ev.hasConstant && ev.startsAt root

theorem usesAny_of_mem_nodes {ev : Evidence} {node : Expr} (inside : node ∈ ev.nodes)
    (binary : node.kind = .binary) {ops : List String} (op : node.head.op ∈ ops) :
    ev.usesAny ops = true := by
  rcases List.mem_flatMap.1 inside with ⟨e, stated, part⟩
  have operator : node.head.op ∈ e.operators := by
    refine Text.mem_distinctSorted.2 (List.mem_map_of_mem (List.mem_filter.2 ⟨part, ?_⟩))
    simp [binary]
  refine List.any_eq_true.2 ⟨node.head.op, ?_, List.contains_iff_mem.2 op⟩
  exact Text.mem_distinctSorted.2 (List.mem_flatMap.2 ⟨e, stated, operator⟩)

/-- What stands in an operand of a node of the guard stands in the guard. -/
theorem any_of_operand {ev : Evidence} {node operand : Expr} (inside : node ∈ ev.nodes)
    (part : node.lhs = some operand ∨ node.rhs = some operand) {p : Expr → Bool}
    (holds : operand.walk.any p = true) : ∃ e ∈ ev.exprs, e.walk.any p = true := by
  rcases List.mem_flatMap.1 inside with ⟨e, stated, within⟩
  rcases List.any_eq_true.1 holds with ⟨leaf, below, holds⟩
  have partOfNode : leaf ∈ node.walk := by
    rcases part with left | right
    · exact Expr.mem_walk_of_lhs left below
    · exact Expr.mem_walk_of_rhs right below
  exact ⟨e, stated, List.any_eq_true.2 ⟨leaf, Expr.mem_walk_trans partOfNode e within, holds⟩⟩

/-- A comparison with a constant has all that is looked for. -/
theorem gathers_of_comparesConstant {root : String} {ev : Evidence}
    (h : ev.comparesConstant root = true) : ev.gathers root = true := by
  rw [comparesConstant, Bool.and_eq_true, List.any_eq_true] at h
  rcases h with ⟨known, node, inside, compares⟩
  rw [Expr.comparesConstant, Bool.and_eq_true, Expr.isEquality, Bool.and_eq_true] at compares
  rcases compares with ⟨⟨binary, op⟩, operands⟩
  have equality : ev.usesAny equalityOps = true :=
    usesAny_of_mem_nodes inside (by simpa using binary) (List.contains_iff_mem.1 op)
  -- The path is in one operand and the constant in the other, so both are in the guard.
  have both : ∃ a b : Expr, (node.lhs = some a ∨ node.rhs = some a) ∧
      (node.lhs = some b ∨ node.rhs = some b) ∧ a.startsAt root = true ∧ b.hasConstant = true := by
    split at operands
    · rename_i lhs rhs left right
      rw [Bool.or_eq_true, Bool.and_eq_true, Bool.and_eq_true] at operands
      rcases operands with ⟨path, constant⟩ | ⟨path, constant⟩
      · exact ⟨lhs, rhs, .inl left, .inr right, path, constant⟩
      · exact ⟨rhs, lhs, .inr right, .inl left, path, constant⟩
    · cases operands
  rcases both with ⟨a, b, inA, inB, path, constant⟩
  have starts : ev.startsAt root = true := List.any_eq_true.2 (any_of_operand inside inA path)
  have constants : ev.hasConstant = true := by
    rw [hasConstant, nodes, List.any_flatMap]
    exact List.any_eq_true.2 (any_of_operand inside inB constant)
  simp [gathers, known, equality, constants, starts]

end Evidence

/-! ## Invocations -/

namespace HandlerFacts

/-- The account of a name is declared to be a program, or its address is fixed. -/
def DeclaresProgram (facts : HandlerFacts) (name : String) : Prop :=
  ∃ account ∈ facts.accounts, account.name = name ∧
    ((account.typeKind = "Program" ∨ account.typeKind = "Interface") ∨
      (account.attr? "address").any (!·.isUnknown) = true)

/-- A guard that holds at position `seq` compares a path from `root` with a constant. -/
def ComparesBefore (facts : HandlerFacts) (seq : Nat) (root : String) : Prop :=
  ∃ ev ∈ facts.evidenceBefore seq, ev.comparesConstant root = true

/-- A guard that holds at position `seq` has an equality operator, a constant and a path from
`root`. -/
def GathersBefore (facts : HandlerFacts) (seq : Nat) (root : String) : Prop :=
  ∃ ev ∈ facts.evidenceBefore seq, ev.gathers root = true

instance (facts : HandlerFacts) (name : String) : Decidable (facts.DeclaresProgram name) :=
  inferInstanceAs (Decidable (∃ account ∈ facts.accounts, account.name = name ∧
    ((account.typeKind = "Program" ∨ account.typeKind = "Interface") ∨
      (account.attr? "address").any (!·.isUnknown) = true)))

instance (facts : HandlerFacts) (seq : Nat) (root : String) :
    Decidable (facts.ComparesBefore seq root) :=
  inferInstanceAs (Decidable (∃ ev ∈ facts.evidenceBefore seq, ev.comparesConstant root = true))

end HandlerFacts

namespace ArbitraryInvocation

/-- The detector reports nothing about the node at position `seq`. -/
def Silent (facts : HandlerFacts) (seq : Nat) : Prop :=
  ∀ verdict ∈ NodeRule.invocation.verdicts facts, verdict.1 ≠ seq

instance (facts : HandlerFacts) (seq : Nat) : Decidable (Silent facts seq) :=
  inferInstanceAs (Decidable (∀ verdict ∈ NodeRule.invocation.verdicts facts, verdict.1 ≠ seq))

variable {u : ProgramUnit} {h : Handler} {facts : HandlerFacts}

theorem isDeclaredProgram_iff {account : AccountFact} :
    isDeclaredProgram account = true ↔
      (account.typeKind = "Program" ∨ account.typeKind = "Interface") ∨
        (account.attr? "address").any (!·.isUnknown) = true := by
  simp [isDeclaredProgram, AccountKind.programs]

/-- The account of the target is looked up by position, which is to look it up by name. -/
theorem declared_iff (extracted : h.facts u = .ok facts) (name : String) :
    ((h.accountNames.idxOf? name).bind facts.account?).any isDeclaredProgram = true ↔
      facts.DeclaresProgram name := by
  rw [Option.any_eq_true]
  simp only [Option.bind_eq_some_iff, HandlerFacts.account?, isDeclaredProgram_iff,
    Handler.idxOf?_accountNames_iff extracted]
  constructor
  · rintro ⟨account, ⟨index, ⟨named, there, rfl⟩, here⟩, declared⟩
    obtain rfl : named = account := Option.some.inj (there.symm.trans here)
    exact ⟨named, List.mem_of_getElem? here, rfl, declared⟩
  · rintro ⟨account, inside, named, declared⟩
    rcases List.getElem?_of_mem inside with ⟨index, here⟩
    exact ⟨account, ⟨index, ⟨account, here, named⟩, here⟩, declared⟩

/-- A guard counts for a target if it gathers what is looked for. -/
theorem comparesTarget_eq (extracted : h.facts u = .ok facts) {site : InvokeSite}
    (ref : site.targetRef = h.accountNames.idxOf? site.target.root) {ev : Evidence}
    (member : ev ∈ facts.evidence) : comparesTarget site ev = ev.gathers site.target.root := by
  rw [comparesTarget, Evidence.gathers, Evidence.any_paths_iff]
  cases known : ev.unknown with
  | true => simp
  | false =>
    -- A reference to the account is a path that starts there, so it adds nothing.
    have byReference : site.targetRef.any ev.refs.contains = true →
        ev.startsAt site.target.root = true := by
      intro found
      rcases (Option.any_eq_true _ _).1 found with ⟨index, place, referred⟩
      rw [ref, List.idxOf?_eq_some_iff] at place
      rcases place with ⟨inRange, here, -⟩
      have placed := List.getElem?_eq_some_iff.2 ⟨inRange, here⟩
      rw [← HandlerFacts.contains_refs_iff extracted member known placed]
      exact referred
    rw [Bool.eq_iff_iff]
    simp only [Bool.and_eq_true, Bool.or_eq_true]
    exact and_congr_right fun _ => or_iff_right_of_imp byReference

variable {i : Nat} {span : Span} {program : Expr} {signed : Bool}

/-- The sites at a position are made from the node there. -/
theorem mem_invokes_iff (extracted : h.facts u = .ok facts)
    (node : h.body[i]? = some ⟨span, .invoke program signed⟩) {site : InvokeSite} :
    site ∈ facts.invokes ∧ site.seq = i ↔
      site = .ofProgram h.accountNames i (u.location span) program signed := by
  rcases Handler.facts_eq_ok.1 extracted with ⟨accounts, -, rfl⟩
  exact Handler.mem_placed_iff (fun _ _ _ => Handler.seq_of_invokeSite?) node rfl

/-- Nothing is said about a node if all sites at its position are pinned. -/
theorem silent_iff_forall_isPinned :
    Silent facts i ↔ ∀ site, site ∈ facts.invokes ∧ site.seq = i → isPinned facts site = true := by
  have silent : Silent facts i ↔ NodeRule.invocation.SilentAt facts i := Iff.rfl
  rw [silent, NodeRule.silentAt_iff]
  refine forall_congr' fun site => imp_congr_right fun _ => ?_
  cases pinned : isPinned facts site <;> simp [NodeRule.invocation, pinned]

/-- The site of a path. It is a constant only if no account has the name at which it starts. -/
theorem ofProgram_of_path {names : List String} {location : Location} (path : program.kind = .path) :
    InvokeSite.ofProgram names i location program signed =
      { seq := i, location, target := program
        isConstant := (names.idxOf? program.root).isNone && program.isConstant
        targetRef := names.idxOf? program.root, signed } := by
  simp [InvokeSite.ofProgram, path]

/-- Whether a path that is no constant is pinned depends on its account and the guards in front. -/
theorem isPinned_iff (extracted : h.facts u = .ok facts) (location : Location)
    (path : program.kind = .path)
    (notConstant : program.root ∈ h.accountNames ∨ program.isConstant = false) :
    isPinned facts (.ofProgram h.accountNames i location program signed) = true ↔
      facts.DeclaresProgram program.root ∨ facts.GathersBefore i program.root := by
  have noConstant : ((h.accountNames.idxOf? program.root).isNone && program.isConstant) = false := by
    rcases notConstant with inside | noConstant
    · have found : (h.accountNames.idxOf? program.root).isSome := List.isSome_idxOf?.2 inside
      simp [Option.isNone_eq_false_iff.2 found]
    · simp [noConstant]
  have guards : ∀ site : InvokeSite, site.targetRef = h.accountNames.idxOf? site.target.root →
      ((facts.evidenceBefore i).any (comparesTarget site) = true ↔
        facts.GathersBefore i site.target.root) := by
    intro site ref
    rw [List.any_eq_true, HandlerFacts.GathersBefore]
    refine exists_congr fun ev => and_congr_right fun member => ?_
    rw [comparesTarget_eq extracted ref (facts.evidenceBefore_subset i member)]
  rw [ofProgram_of_path path, isPinned, noConstant, Bool.false_or, path, beq_self_eq_true,
    Bool.true_and, Bool.or_eq_true, declared_iff extracted]
  exact or_congr_right (guards _ rfl)

/-- **Silence about an invocation.** An invocation of a path that is no constant is silenced exactly
if the account at which the path starts is declared to be a known program, or a guard in front
gathers an equality operator, a constant and a path to the account. So a comparison with a constant
silences it; and what silenced it was a comparison with a constant, unless a guard in front gathers
all three and none compares. -/
theorem silent_iff (extracted : h.facts u = .ok facts)
    (node : h.body[i]? = some ⟨span, .invoke program signed⟩) (path : program.kind = .path)
    (notConstant : program.root ∈ h.accountNames ∨ program.isConstant = false) :
    (Silent facts i ↔
        facts.DeclaresProgram program.root ∨ facts.GathersBefore i program.root) ∧
      (facts.DeclaresProgram program.root ∨ facts.ComparesBefore i program.root →
        Silent facts i) ∧
      ((Silent facts i →
          facts.DeclaresProgram program.root ∨ facts.ComparesBefore i program.root) ↔
        (facts.GathersBefore i program.root →
          facts.DeclaresProgram program.root ∨ facts.ComparesBefore i program.root)) := by
  have silent : Silent facts i ↔
      facts.DeclaresProgram program.root ∨ facts.GathersBefore i program.root := by
    rw [silent_iff_forall_isPinned]
    simp only [mem_invokes_iff extracted node, forall_eq]
    exact isPinned_iff extracted (u.location span) path notConstant
  have gathers : facts.ComparesBefore i program.root → facts.GathersBefore i program.root := by
    rintro ⟨ev, member, compares⟩
    exact ⟨ev, member, Evidence.gathers_of_comparesConstant compares⟩
  refine ⟨silent, ?_, ?_⟩
  · rintro (declared | compares)
    · exact silent.2 (.inl declared)
    · exact silent.2 (.inr (gathers compares))
  · rw [silent]
    constructor
    · exact fun meets found => meets (.inr found)
    · rintro meets (declared | found)
      · exact .inl declared
      · exact meets found

/-! ### A guard about something else -/

/-- A handler that checks something and then invokes one of its accounts. -/
def relay (condition : Expr) : Handler :=
  { name := "relay"
    span := .ofLength 0 9
    params := [{ name := "target", typeTag := "AccountInfo<'info>", span := .ofLength 0 1 },
      { name := "payer", typeTag := "Signer<'info>", span := .ofLength 1 1 }]
    args := [{ name := "amount", typeTag := "u64" }]
    body := [⟨.ofLength 2 1, .check condition⟩,
      ⟨.ofLength 4 1, .invoke (.ofPath "target") false⟩]
    params_distinct := by simp }

def relayer : ProgramUnit :=
  { name := "relayer", file := "relay.json", handlers := [], handlers_distinct := List.nodup_nil }

/-- `target.key() == spl_token::ID` -/
def targetIsKnown : Expr :=
  .ofBinary "==" (.ofPath "target.key()") (.ofPath "spl_token::ID")

/-- `target.key() != payer.key() && amount > 0` -/
def targetIsNoPayer : Expr :=
  .ofBinary "&&" (.ofBinary "!=" (.ofPath "target.key()") (.ofPath "payer.key()"))
    (.ofBinary ">" (.ofPath "amount") (.ofValue (.int 0)))

/-- A comparison of the target with a program silences its invocation. -/
theorem silent_iff_relay :
    ∃ facts, (relay targetIsKnown).facts relayer = .ok facts ∧
      (relay targetIsKnown).body[1]? =
        some ⟨.ofLength 4 1, .invoke (.ofPath "target") false⟩ ∧
      (Expr.ofPath "target").kind = .path ∧
      (Expr.ofPath "target").root ∈ (relay targetIsKnown).accountNames ∧
      facts.ComparesBefore 1 "target" ∧ Silent facts 1 := by
  have inside : (Expr.ofPath "target").root ∈ (relay targetIsKnown).accountNames := by decide
  refine ⟨_, rfl, rfl, rfl, inside, by decide, ?_⟩
  exact (silent_iff rfl rfl rfl (.inl inside)).2.1 (.inr (by decide))

/-- A comparison of the target with another account does so as well, once the guard has a constant
anywhere. -/
theorem relay_silent_without_comparison :
    ∃ facts, (relay targetIsNoPayer).facts relayer = .ok facts ∧
      (relay targetIsNoPayer).body[1]? =
        some ⟨.ofLength 4 1, .invoke (.ofPath "target") false⟩ ∧
      (Expr.ofPath "target").isConstant = false ∧ Silent facts 1 ∧
      ¬ (facts.DeclaresProgram "target" ∨ facts.ComparesBefore 1 "target") :=
  ⟨_, rfl, rfl, by decide, by decide, by decide⟩

end ArbitraryInvocation

end AccountAudit
