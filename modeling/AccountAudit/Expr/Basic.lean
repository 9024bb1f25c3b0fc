import AccountAudit.Value.Basic

/-!
# Expressions

The expressions of an analysed program, reduced to what the analysis asks about: paths, literals,
operators, calls, arrays and indexing. A construct that was not understood keeps its raw text.

Every node has the same shape: a head with its kind and texts, up to two operands, and arguments.
The kind says which parts carry meaning (`Expr.Kind`), but a document may fill in the others as
well, and every part is walked over, so none of them is dropped.
-/

namespace AccountAudit

namespace Expr

/-- What a node is. -/
inductive Kind where
  | path
  | literal
  | unary
  | binary
  | call
  | array
  | index
  | unknown
  deriving DecidableEq, Repr, Inhabited

namespace Kind

def name : Kind → String
  | path => "path"
  | literal => "literal"
  | unary => "unary"
  | binary => "binary"
  | call => "call"
  | array => "array"
  | index => "index"
  | unknown => "unknown"

def all : List Kind :=
  [path, literal, unary, binary, call, array, index, unknown]

end Kind

/-- The parts of a node that are not expressions. -/
structure Head where
  kind : Kind
  path : String := ""
  value : Value := .null
  op : String := ""
  func : String := ""
  raw : String := ""
  deriving DecidableEq, Repr, Inhabited

end Expr

/-- An expression. -/
inductive Expr where
  | node (head : Expr.Head) (lhs rhs : Option Expr) (args : List Expr)
  deriving Repr

namespace Expr

/-! ## Parts -/

def head : Expr → Head
  | .node head _ _ _ => head

def lhs : Expr → Option Expr
  | .node _ lhs _ _ => lhs

def rhs : Expr → Option Expr
  | .node _ _ rhs _ => rhs

def args : Expr → List Expr
  | .node _ _ _ args => args

def kind (e : Expr) : Kind :=
  e.head.kind

/-! ## The shapes that text is read into -/

def ofPath (path : String) : Expr :=
  .node { kind := .path, path } none none []

def ofValue (value : Value) : Expr :=
  .node { kind := .literal, value } none none []

def ofUnary (op : String) (operand : Expr) : Expr :=
  .node { kind := .unary, op } (some operand) none []

def ofBinary (op : String) (lhs rhs : Expr) : Expr :=
  .node { kind := .binary, op } (some lhs) (some rhs) []

def ofCall (func : String) (args : List Expr) : Expr :=
  .node { kind := .call, func } none none args

def ofArray (items : List Expr) : Expr :=
  .node { kind := .array } none none items

/-- `base[raw]`, where `bounds` are the one or two bounds that `raw` writes. -/
def ofIndex (base : Expr) (bounds : List Expr) (raw : String) : Expr :=
  .node { kind := .index, raw } (some base) none bounds

def ofRaw (raw : String) : Expr :=
  .node { kind := .unknown, raw } none none []

instance : Inhabited Expr := ⟨ofRaw ""⟩

/-! ## Equality -/

mutual

/-- Equality of expressions is decided part by part. -/
def decEq : (a b : Expr) → Decidable (a = b)
  | .node h l r as, .node h' l' r' bs =>
    if hh : h = h' then
      match decEqOption l l', decEqOption r r', decEqAll as bs with
      | .isTrue hl, .isTrue hr, .isTrue ha => .isTrue (hh ▸ hl ▸ hr ▸ ha ▸ rfl)
      | .isFalse hl, _, _ => .isFalse (by simp [hl])
      | _, .isFalse hr, _ => .isFalse (by simp [hr])
      | _, _, .isFalse ha => .isFalse (by simp [ha])
    else .isFalse (by simp [hh])

def decEqOption : (a b : Option Expr) → Decidable (a = b)
  | none, none => .isTrue rfl
  | some _, none | none, some _ => .isFalse (by simp)
  | some a, some b =>
    match a.decEq b with
    | .isTrue h => .isTrue (h ▸ rfl)
    | .isFalse h => .isFalse (by simp [h])

def decEqAll : (as bs : List Expr) → Decidable (as = bs)
  | [], [] => .isTrue rfl
  | [], _ :: _ | _ :: _, [] => .isFalse (by simp)
  | a :: as, b :: bs =>
    match a.decEq b, decEqAll as bs with
    | .isTrue h, .isTrue h' => .isTrue (h ▸ h' ▸ rfl)
    | .isFalse h, _ => .isFalse (by simp [h])
    | _, .isFalse h => .isFalse (by simp [h])

end

instance : DecidableEq Expr := decEq

/-! ## Walking

The nodes of an expression in pre-order: the node itself, those of its operands, those of its
arguments. -/

mutual

/-- All nodes of an expression, the root first. -/
def walk : Expr → List Expr
  | .node head lhs rhs args =>
    .node head lhs rhs args :: (walkOption lhs ++ walkOption rhs ++ walkAll args)

def walkOption : Option Expr → List Expr
  | none => []
  | some e => e.walk

def walkAll : List Expr → List Expr
  | [] => []
  | e :: rest => e.walk ++ walkAll rest

end

theorem self_mem_walk (e : Expr) : e ∈ e.walk := by
  cases e
  simp [walk]

mutual

/-- A part of a part is a part. -/
theorem mem_walk_trans {a b : Expr} (inner : a ∈ b.walk) : (c : Expr) → b ∈ c.walk → a ∈ c.walk
  | .node head lhs rhs args, outer => by
    rw [walk, List.mem_cons, List.mem_append, List.mem_append] at outer
    rcases outer with rfl | (left | right) | arguments
    · exact inner
    · have part := mem_walkOption_trans inner lhs left
      simp [walk, part]
    · have part := mem_walkOption_trans inner rhs right
      simp [walk, part]
    · have part := mem_walkAll_trans inner args arguments
      simp [walk, part]

theorem mem_walkOption_trans {a b : Expr} (inner : a ∈ b.walk) :
    (c? : Option Expr) → b ∈ walkOption c? → a ∈ walkOption c?
  | none, outer => by cases outer
  | some c, outer => mem_walk_trans inner c outer

theorem mem_walkAll_trans {a b : Expr} (inner : a ∈ b.walk) :
    (cs : List Expr) → b ∈ walkAll cs → a ∈ walkAll cs
  | [], outer => by cases outer
  | c :: rest, outer => by
    rw [walkAll, List.mem_append] at *
    rcases outer with here | later
    · exact .inl (mem_walk_trans inner c here)
    · exact .inr (mem_walkAll_trans inner rest later)

end

theorem mem_walk_of_lhs {e operand node : Expr} (left : e.lhs = some operand)
    (inner : node ∈ operand.walk) : node ∈ e.walk := by
  rcases e with ⟨head, lhs, rhs, args⟩
  obtain rfl : lhs = some operand := left
  simp [walk, walkOption, inner]

theorem mem_walk_of_rhs {e operand node : Expr} (right : e.rhs = some operand)
    (inner : node ∈ operand.walk) : node ∈ e.walk := by
  rcases e with ⟨head, lhs, rhs, args⟩
  obtain rfl : rhs = some operand := right
  simp [walk, walkOption, inner]

/-- Some part was not understood. -/
def hasUnknown (e : Expr) : Bool :=
  e.walk.any (·.kind == .unknown)

/-- The path nodes of an expression. -/
def paths (e : Expr) : List Expr :=
  e.walk.filter (·.kind == .path)

end Expr
end AccountAudit
