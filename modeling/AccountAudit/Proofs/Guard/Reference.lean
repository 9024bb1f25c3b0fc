import AccountAudit.Guard
import AccountAudit.Proofs.Assoc
import AccountAudit.Proofs.Fact.Extraction
import AccountAudit.Proofs.Fact.Resolution
import AccountAudit.Proofs.Text.Split

/-!
# What a guard refers to

A guard that was understood refers to the accounts at which its paths start, and to no others
(`HandlerFacts.refs_of_mem_evidence`). So a question about the accounts of a guard is a question about
the path nodes in its expressions (`contains_refs_iff`).
-/

namespace AccountAudit

/-! ## Paths -/

namespace Expr

/-- Some path in the expression starts at `root`. -/
def startsAt (root : String) (e : Expr) : Bool :=
  e.walk.any fun node => node.kind == .path && node.root == root

theorem segmentsOf_ne_nil (path : String) : segmentsOf path ≠ [] := by
  intro none
  have pieces := List.map_eq_nil_iff.1 none
  rw [Text.splitOn_singleton] at pieces
  exact List.splitOn_ne_nil _ _ pieces

/-- The first segment of a path is its root. -/
theorem head?_segments {e : Expr} (path : e.kind = .path) : e.segments.head? = some e.root := by
  rw [root, segments, if_pos path]
  cases pieces : segmentsOf e.head.path with
  | nil => exact absurd pieces (segmentsOf_ne_nil _)
  | cons first rest => rfl

theorem mem_roots_iff {root : String} {e : Expr} :
    root ∈ e.paths.map Expr.root ↔ e.startsAt root = true := by
  simp [paths, startsAt, and_assoc]

/-- No segment of a path has a separator in it. -/
theorem plain_of_mem_segments {e : Expr} {segment : String} (inside : segment ∈ e.segments) :
    '.' ∉ segment.toList := by
  rw [segments] at inside
  split at inside
  · rcases List.mem_map.1 inside with ⟨piece, member, rfl⟩
    rw [String.toList_ofList, Text.withoutEnd]
    split
    · exact fun found => Text.not_mem_of_mem_splitOn member (List.mem_of_mem_take found)
    · exact Text.not_mem_of_mem_splitOn member
  · cases inside

theorem segments_ne_nil {e : Expr} (path : e.kind = .path) : e.segments ≠ [] := by
  rw [segments, if_pos path]
  exact segmentsOf_ne_nil _

/-- The text of a path falls into its segments again. -/
theorem splitString_pathKey {e : Expr} (some : e.segments ≠ []) :
    Text.splitString "." e.pathKey = e.segments :=
  Text.splitString_intercalate (fun _ => plain_of_mem_segments) some

/-- The text of a path begins with its root. -/
theorem before_pathKey (e : Expr) :
    String.ofList (Text.before ['.'] e.pathKey.toList) = e.root := by
  by_cases none : e.segments = []
  · rw [pathKey, root, none]
    rfl
  · rw [root, ← splitString_pathKey none, Text.splitString, Text.before]
    cases whole : Text.splitOn ['.'] e.pathKey.toList with
    | nil => exact absurd whole (Text.splitOnFrom_ne_nil _ _ _ _)
    | cons first rest => simp [whole]

end Expr

namespace Evidence

/-- Some path in the guard starts at `root`. -/
def startsAt (root : String) (ev : Evidence) : Bool :=
  ev.exprs.any (Expr.startsAt root)

/-- The roots of the paths of the guard. -/
def roots (ev : Evidence) : List String :=
  ev.exprs.flatMap fun e => e.paths.map Expr.root

theorem mem_roots_iff {root : String} {ev : Evidence} :
    root ∈ ev.roots ↔ ev.startsAt root = true := by
  simp only [roots, startsAt, List.mem_flatMap, Expr.mem_roots_iff, List.any_eq_true]

theorem any_paths_iff {root : String} {ev : Evidence} :
    (ev.paths.any fun path => path.head? == some root) = ev.startsAt root := by
  have same : ∀ e : Expr, (e.paths.any fun path => path.segments.head? == some root) =
      e.startsAt root := by
    intro e
    rw [Expr.startsAt, Expr.paths, List.any_filter]
    refine congrArg (List.any e.walk) (funext fun node => ?_)
    by_cases path : node.kind = .path
    · simp [path, Expr.head?_segments path]
    · have other : (node.kind == .path) = false := by simpa using path
      simp [other]
  simp only [paths, List.any_flatMap, List.any_map, Function.comp_def, same, startsAt]

end Evidence

/-! ## Extracted guards -/

namespace Resolved

/-- A constraint that was understood mentions the accounts at which its paths start. -/
theorem refs_of_constraint {names : List String} {raw : Value} {value : Resolved}
    (resolved : ofAttribute names "constraint" raw = .ok value) (known : value.isUnknown = false) :
    value.refs = mentioned names (value.exprs.flatMap fun e => e.paths.map Expr.root) := by
  cases means_iff.2 ⟨resolved, known⟩ with
  -- A flag states no expression.
  | flag => simp [refs, exprs, mentioned]
  | reference refers => exact absurd refers (by decide)
  | condition => rfl

end Resolved

namespace CheckFact

/-- A condition that was understood has no words outside its paths. -/
theorem refs_of_known (names : List String) (seq : Nat) (location : Location) {condition : Expr}
    (known : condition.hasUnknown = false) :
    (ofCondition names seq location condition).refs =
      mentioned names (condition.paths.map Expr.root) := by
  have noUnknown : condition.walk.filter (·.kind == .unknown) = [] := by
    simpa [Expr.hasUnknown, List.filter_eq_nil_iff] using known
  simp [ofCondition, Expr.unknownWords, Expr.unknownTexts, noUnknown]

end CheckFact

namespace HandlerFacts

theorem mem_checksBefore {facts : HandlerFacts} {seq : Nat} {check : CheckFact} :
    check ∈ facts.checksBefore seq ↔ check ∈ facts.checks ∧ check.seq < seq := by
  simp [checksBefore]

/-- What holds at a position is a guard of the handler. -/
theorem evidenceBefore_subset (facts : HandlerFacts) (seq : Nat) :
    facts.evidenceBefore seq ⊆ facts.evidence := by
  intro ev member
  rcases List.mem_append.1 member with constraint | check
  · exact List.mem_append_left _ constraint
  · rcases List.mem_map.1 check with ⟨check, inside, rfl⟩
    exact List.mem_append_right _ (List.mem_map_of_mem (mem_checksBefore.1 inside).1)

variable {u : ProgramUnit} {h : Handler} {facts : HandlerFacts}

theorem refs_of_mem_constraints (extracted : h.facts u = .ok facts) {account : AccountFact}
    {value : Resolved} (member : (account, value) ∈ facts.constraints)
    (known : value.isUnknown = false) :
    value.refs = mentioned h.accountNames (value.exprs.flatMap fun e => e.paths.map Expr.root) := by
  rcases Handler.facts_eq_ok.1 extracted with ⟨accounts, made, rfl⟩
  rcases List.mem_filterMap.1 member with ⟨owner, inside, given⟩
  rcases Option.map_eq_some_iff.1 given with ⟨found, attr, pair⟩
  rcases Prod.mk.inj pair with ⟨rfl, rfl⟩
  -- The value is what the raw value of the attribute says.
  rcases exists_left_of_forall₂ (Handler.forall₂_of_accountFacts made) inside with
    ⟨placed, -, made⟩
  rcases AccountFact.ofAccount_eq_ok.1 made with ⟨attributes, resolved, rfl⟩
  rcases exists_left_of_forall₂ (AccountFact.forall₂_of_attributes? resolved)
    (Assoc.mem_of_lookup attr) with ⟨⟨kind, raw⟩, -, rfl, said⟩
  exact Resolved.refs_of_constraint said known

/-- A check records what its condition says. -/
theorem exists_eq_ofCondition (extracted : h.facts u = .ok facts) {check : CheckFact}
    (inside : check ∈ facts.checks) :
    ∃ seq location, check = .ofCondition h.accountNames seq location check.condition := by
  rcases Handler.facts_eq_ok.1 extracted with ⟨accounts, -, rfl⟩
  rcases List.mem_filterMap.1 inside with ⟨⟨⟨span, action⟩, seq⟩, -, made⟩
  cases action with
  | check condition =>
    obtain rfl := Option.some.inj made
    exact ⟨seq, u.location span, rfl⟩
  | _ => cases made

theorem paths_of_mem_checks (extracted : h.facts u = .ok facts) {check : CheckFact}
    (inside : check ∈ facts.checks) : check.paths = check.condition.paths.map Expr.pathKey := by
  rcases exists_eq_ofCondition extracted inside with ⟨seq, location, same⟩
  rw [same]
  rfl

theorem ops_of_mem_checks (extracted : h.facts u = .ok facts) {check : CheckFact}
    (inside : check ∈ facts.checks) : check.ops = check.condition.operators := by
  rcases exists_eq_ofCondition extracted inside with ⟨seq, location, same⟩
  rw [same]
  rfl

/-- A guard that was understood refers to the accounts at which its paths start. -/
theorem refs_of_mem_evidence (extracted : h.facts u = .ok facts) {ev : Evidence}
    (member : ev ∈ facts.evidence) (known : ev.unknown = false) :
    ev.refs = mentioned h.accountNames ev.roots := by
  rcases List.mem_append.1 member with constraint | checked
  · rcases List.mem_map.1 constraint with ⟨⟨account, value⟩, inside, rfl⟩
    exact refs_of_mem_constraints extracted inside known
  · rcases List.mem_map.1 checked with ⟨check, inside, rfl⟩
    have roots : (Evidence.ofCheck check).roots = check.condition.paths.map Expr.root := by
      simp [Evidence.roots, Evidence.ofCheck]
    rw [roots]
    rcases exists_eq_ofCondition extracted inside with ⟨seq, location, same⟩
    rw [same] at known ⊢
    exact CheckFact.refs_of_known h.accountNames seq location known

/-- A guard refers to an account if one of its paths starts there. -/
theorem contains_refs_iff (extracted : h.facts u = .ok facts) {ev : Evidence}
    (member : ev ∈ facts.evidence) (known : ev.unknown = false) {index : Nat} {name : String}
    (placed : h.accountNames[index]? = some name) :
    ev.refs.contains index = ev.startsAt name := by
  rw [Bool.eq_iff_iff, List.contains_iff_mem, refs_of_mem_evidence extracted member known,
    mem_mentioned, ← Evidence.mem_roots_iff]
  constructor
  · rintro ⟨other, found, inside⟩
    obtain rfl : name = other := Option.some.inj (placed.symm.trans found)
    exact inside
  · exact fun inside => ⟨name, placed, inside⟩

end HandlerFacts

end AccountAudit
