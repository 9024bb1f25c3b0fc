import AccountAudit.Fact.Extract
import Mathlib.Data.List.Forall2

/-!
# Paths written in full

An account can be named by itself, as in `vault.owner`, or through the instruction context, as in
`ctx.accounts.vault.owner`. The second way of writing is called *in full* here. Every expression has a
form in which all its paths are written in full (`Expr.inFull`), and any mixture of the two ways has the
same one (`Expr.Respells.inFull_eq`).

Nothing that is asked about an expression can tell it from this form: its paths have the same segments,
so the same roots and keys; its constants, operators and texts that were not understood are the same.
Only the text of a path and what is printed of it differ, and no question is about them, apart from the
one whether a path leads through a module (`occursIn_inFull`).
-/

namespace AccountAudit
namespace Expr

/-- The way through the instruction context. -/
def accountsPrefix : String := "ctx.accounts."

/-! ## Texts -/

/-- The text of a path, with the way through the instruction context. -/
def pathInFull (path : String) : String :=
  if accountsPrefix.toList.isPrefixOf path.toList then path else accountsPrefix ++ path

theorem withoutStart_append (start cs : List Char) : Text.withoutStart start (start ++ cs) = cs := by
  simp [Text.withoutStart]

theorem segmentsOf_inFull (path : String) : segmentsOf (pathInFull path) = segmentsOf path := by
  unfold pathInFull
  split
  · rfl
  · rename_i short
    have added : Text.withoutStart "ctx.accounts.".toList (accountsPrefix ++ path).toList =
        path.toList := by
      rw [String.toList_append]
      exact withoutStart_append _ _
    have kept : Text.withoutStart "ctx.accounts.".toList path.toList = path.toList :=
      if_neg short
    rw [segmentsOf, segmentsOf, added, kept]

theorem occursIn_append {front : List Char} (plain : ':' ∉ front) (cs : List Char) :
    Text.occursIn [':', ':'] (front ++ cs) = Text.occursIn [':', ':'] cs := by
  induction front with
  | nil => rfl
  | cons c front ih =>
    rw [List.mem_cons, not_or] at plain
    have here : [':', ':'].isPrefixOf (c :: (front ++ cs)) = false := by
      simp [List.isPrefixOf, plain.1]
    rw [List.cons_append, Text.occursIn, here, Bool.false_or]
    exact ih plain.2

/-- The sign of a module is not in the way through the context, nor does it begin there. -/
theorem occursIn_inFull (path : String) :
    Text.occursIn [':', ':'] (pathInFull path).toList = Text.occursIn [':', ':'] path.toList := by
  unfold pathInFull
  split
  · rfl
  · rw [String.toList_append]
    exact occursIn_append (by decide) _

/-- The parts of a node with its path in full, if it is a path. -/
def Head.inFull (head : Head) : Head :=
  if head.kind = .path then { head with path := pathInFull head.path } else head

/-! ## Expressions -/

mutual

/-- The expression with all its paths in full. -/
def inFull : Expr → Expr
  | .node head lhs rhs args =>
    .node head.inFull (inFullOption lhs) (inFullOption rhs) (inFullAll args)

def inFullOption : Option Expr → Option Expr
  | none => none
  | some e => some e.inFull

def inFullAll : List Expr → List Expr
  | [] => []
  | e :: rest => e.inFull :: inFullAll rest

end

theorem inFullAll_eq_map (es : List Expr) : inFullAll es = es.map inFull := by
  induction es with
  | nil => rfl
  | cons e rest ih => rw [inFullAll, ih, List.map_cons]

theorem head_inFull (e : Expr) : e.inFull.head = e.head.inFull := by
  cases e
  rfl

@[simp]
theorem args_inFull (e : Expr) : e.inFull.args = e.args.map inFull := by
  cases e
  exact inFullAll_eq_map _

@[simp]
theorem kind_inFull (e : Expr) : e.inFull.kind = e.kind := by
  rw [kind, head_inFull, Head.inFull, kind]
  split <;> rfl

@[simp]
theorem value_inFull (e : Expr) : e.inFull.head.value = e.head.value := by
  rw [head_inFull, Head.inFull]
  split <;> rfl

@[simp]
theorem op_inFull (e : Expr) : e.inFull.head.op = e.head.op := by
  rw [head_inFull, Head.inFull]
  split <;> rfl

@[simp]
theorem func_inFull (e : Expr) : e.inFull.head.func = e.head.func := by
  rw [head_inFull, Head.inFull]
  split <;> rfl

@[simp]
theorem raw_inFull (e : Expr) : e.inFull.head.raw = e.head.raw := by
  rw [head_inFull, Head.inFull]
  split <;> rfl

@[simp]
theorem segments_inFull (e : Expr) : e.inFull.segments = e.segments := by
  unfold segments
  rw [kind_inFull]
  split
  · rename_i path
    have head : e.head.inFull = { e.head with path := pathInFull e.head.path } := if_pos path
    rw [head_inFull, head]
    exact segmentsOf_inFull _
  · rfl

@[simp]
theorem root_inFull (e : Expr) : e.inFull.root = e.root := by
  rw [root, segments_inFull, root]

@[simp]
theorem pathKey_inFull (e : Expr) : e.inFull.pathKey = e.pathKey := by
  rw [pathKey, segments_inFull, pathKey]

@[simp]
theorem isConstant_inFull (e : Expr) : e.inFull.isConstant = e.isConstant := by
  unfold isConstant
  rw [kind_inFull, root_inFull]
  -- Only of a path the text counts, and only the sign of a module in it.
  cases kind : e.kind with
  | path =>
    have head : e.head.inFull = { e.head with path := pathInFull e.head.path } := if_pos kind
    rw [head_inFull, head]
    exact congrArg (· || _) (occursIn_inFull _)
  | _ => rfl

/-! ### Nodes -/

mutual

/-- The nodes of the form in full are those of the expression, each in full. -/
theorem walk_inFull : (e : Expr) → e.inFull.walk = e.walk.map inFull
  | .node head lhs rhs args => by
    rw [inFull, walk, walk, walkOption_inFull, walkOption_inFull, walkAll_inFull]
    simp [inFull]

theorem walkOption_inFull : (e? : Option Expr) →
    walkOption (inFullOption e?) = (walkOption e?).map inFull
  | none => rfl
  | some e => walk_inFull e

theorem walkAll_inFull : (es : List Expr) → walkAll (inFullAll es) = (walkAll es).map inFull
  | [] => rfl
  | e :: rest => by
    rw [inFullAll, walkAll, walkAll, walk_inFull e, walkAll_inFull rest, List.map_append]

end

theorem flatMap_walk_inFull (es : List Expr) :
    (es.map inFull).flatMap walk = (es.flatMap walk).map inFull := by
  simp [List.flatMap_map, List.map_flatMap, walk_inFull]

/-- Nodes that are chosen by their kinds are chosen in the form in full as well. -/
theorem filter_walk_inFull (p : Kind → Bool) (e : Expr) :
    e.inFull.walk.filter (fun node => p node.kind) =
      (e.walk.filter fun node => p node.kind).map inFull := by
  rw [walk_inFull, List.filter_map]
  simp [Function.comp_def]

theorem paths_inFull (e : Expr) : e.inFull.paths = e.paths.map inFull :=
  filter_walk_inFull (· == .path) e

@[simp]
theorem roots_inFull (e : Expr) : e.inFull.paths.map root = e.paths.map root := by
  simp [paths_inFull, Function.comp_def]

@[simp]
theorem pathKeys_inFull (e : Expr) : e.inFull.paths.map pathKey = e.paths.map pathKey := by
  simp [paths_inFull, Function.comp_def]

@[simp]
theorem pathSegments_inFull (e : Expr) : e.inFull.paths.map segments = e.paths.map segments := by
  simp [paths_inFull, Function.comp_def]

@[simp]
theorem unknownTexts_inFull (e : Expr) : e.inFull.unknownTexts = e.unknownTexts := by
  rw [unknownTexts, filter_walk_inFull (· == .unknown), List.map_map, unknownTexts]
  exact List.map_congr_left fun node _ => raw_inFull node

@[simp]
theorem unknownWords_inFull (e : Expr) : e.inFull.unknownWords = e.unknownWords := by
  rw [unknownWords, unknownTexts_inFull, unknownWords]

@[simp]
theorem operators_inFull (e : Expr) : e.inFull.operators = e.operators := by
  rw [operators, filter_walk_inFull fun kind => kind == .binary || kind == .unary, List.map_map,
    operators]
  exact congrArg Text.distinctSorted (List.map_congr_left fun node _ => op_inFull node)

@[simp]
theorem hasUnknown_inFull (e : Expr) : e.inFull.hasUnknown = e.hasUnknown := by
  rw [hasUnknown, walk_inFull, List.any_map, hasUnknown]
  simp [Function.comp_def]

mutual

/-- A text of an expression shows no value of a path. -/
theorem shown_inFull : (e : Expr) → e.inFull.shown = e.shown
  | .node head lhs rhs args => by
    have kind : head.inFull.kind = head.kind := kind_inFull (.node head lhs rhs args)
    have value : head.inFull.value = head.value := value_inFull (.node head lhs rhs args)
    rw [inFull, shown, shown, kind, value, shownOption_inFull lhs, shownOption_inFull rhs,
      shownAll_inFull args]

theorem shownOption_inFull : (e? : Option Expr) → shownOption (inFullOption e?) = shownOption e?
  | none => rfl
  | some e => shown_inFull e

theorem shownAll_inFull : (es : List Expr) → shownAll (inFullAll es) = shownAll es
  | [] => rfl
  | e :: rest => by
    rw [inFullAll, shownAll, shownAll, shown_inFull e, shownAll_inFull rest]

end

@[simp]
theorem isWritable_inFull (e : Expr) : e.inFull.isWritable = e.isWritable := by
  rw [isWritable, shown_inFull, isWritable]

/-! ## Other ways of writing -/

/-- The parts of the same node, whose path may have got the way through the context. -/
inductive Head.Respells : Head → Head → Prop where
  | kept (head : Head) : Respells head head
  | prefixed (head : Head) (path : head.kind = .path)
      (short : ¬ accountsPrefix.toList <+: head.path.toList) :
      Respells head { head with path := accountsPrefix ++ head.path }

/-- The same expression, some of whose paths have got the way through the context. -/
inductive Respells : Expr → Expr → Prop where
  | node {head head' : Head} {lhs lhs' rhs rhs' : Option Expr} {args args' : List Expr}
      (texts : head.Respells head') (left : Option.Rel Respells lhs lhs')
      (right : Option.Rel Respells rhs rhs') (arguments : List.Forall₂ Respells args args') :
      Respells (.node head lhs rhs args) (.node head' lhs' rhs' args')

mutual

theorem Respells.refl : (e : Expr) → e.Respells e
  | .node head lhs rhs args =>
    .node (.kept head) (respellsOption_refl lhs) (respellsOption_refl rhs) (respellsAll_refl args)

theorem respellsOption_refl : (e? : Option Expr) → Option.Rel Respells e? e?
  | none => .none
  | some e => .some (.refl e)

theorem respellsAll_refl : (es : List Expr) → List.Forall₂ Respells es es
  | [] => .nil
  | e :: rest => .cons (.refl e) (respellsAll_refl rest)

end

theorem pathInFull_prefixed {path : String} (short : ¬ accountsPrefix.toList <+: path.toList) :
    pathInFull (accountsPrefix ++ path) = pathInFull path := by
  have long : accountsPrefix.toList <+: (accountsPrefix ++ path).toList := by
    rw [String.toList_append]
    exact List.prefix_append _ _
  rw [pathInFull, pathInFull, if_pos (List.isPrefixOf_iff_prefix.2 long),
    if_neg (mt List.isPrefixOf_iff_prefix.1 short)]

theorem Head.Respells.inFull_eq {head head' : Head} (h : head.Respells head') :
    head'.inFull = head.inFull := by
  cases h with
  | kept => rfl
  | prefixed path short => simp [Head.inFull, path, pathInFull_prefixed short]

mutual

/-- Whatever paths have got the way through the context, the form in full is the same. -/
theorem Respells.inFull_eq : {e e' : Expr} → e.Respells e' → e'.inFull = e.inFull
  | .node .., .node .., .node texts left right arguments => by
    rw [inFull, inFull, texts.inFull_eq, inFullOption_eq left, inFullOption_eq right,
      inFullAll_eq arguments]

theorem inFullOption_eq : {e? e'? : Option Expr} → Option.Rel Respells e? e'? →
    inFullOption e'? = inFullOption e?
  | none, none, _ => rfl
  | some _, some _, .some h => congrArg some h.inFull_eq

theorem inFullAll_eq : {es es' : List Expr} → List.Forall₂ Respells es es' →
    inFullAll es' = inFullAll es
  | [], [], _ => rfl
  | _ :: _, _ :: _, .cons h rest => by
    rw [inFullAll, inFullAll, h.inFull_eq, inFullAll_eq rest]

end

end Expr
end AccountAudit
