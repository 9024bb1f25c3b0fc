import AccountAudit.Expr.Parser
import Mathlib.Data.List.Chain

/-!
# The grammar of expression text

What is meant by an expression text, told without a reader. An expression is a chain of operands with
operators and blanks between them (`Chain`), and an operand is a text of one of a few forms that
stands for a tree (`IsOperand`). How tightly the operators bind says which tree a chain stands for
(`Chain.tree`): the operands are cut at all operators of the loosest level, each part is read with
the tighter levels, and the parts are joined from the left or from the right.

Round brackets and the sign `&` of a borrowed value leave no node. At the start of a text, `&mut ` is
the sign of a mutably borrowed value, so the path `mut` cannot stand there between `&` and a space
(`Chain.Spaced`).
-/

namespace AccountAudit
namespace Expr

/-! ## Trees of joined operands -/

/-- Cuts joined operands at all operators of a level: the first part, and each other part with the
operator in front of it. A part is its first operand and those that are joined to it. -/
def cut (level : Level) (e : Expr) :
    List (BinaryOp × Expr) →
      (Expr × List (BinaryOp × Expr)) × List (BinaryOp × Expr × List (BinaryOp × Expr))
  | [] => ((e, []), [])
  | (op, x) :: rest =>
    let (part, parts) := cut level x rest
    if op ∈ level.ops then ((e, []), (op, part) :: parts)
    else ((e, (op, part.1) :: part.2), parts)

/-- Joins operands so that the last two belong together most closely. -/
def joinRight (e : Expr) : List (BinaryOp × Expr) → Expr
  | [] => e
  | (op, x) :: rest => ofBinary op.symbol e (joinRight x rest)

/-- Joins operands so that the first two belong together most closely. -/
def joinLeft (e : Expr) (rest : List (BinaryOp × Expr)) : Expr :=
  rest.foldl (fun e (op, x) => ofBinary op.symbol e x) e

/-- The tree of joined operands, where the levels go from the loosest to the tightest. -/
def group : List Level → Expr → List (BinaryOp × Expr) → Expr
  | [], e, _ => e
  | level :: tighter, e, rest =>
    let (part, parts) := cut level e rest
    let first := group tighter part.1 part.2
    let others := parts.map fun (op, x, rest) => (op, group tighter x rest)
    if level.groupsLeft then joinLeft first others else joinRight first others

/-! ## Chains -/

/-- What kind of text an operand is. -/
inductive Form where
  | path
  | literal
  | negation
  | paren
  | call
  | array
  | index
  | borrow
  deriving DecidableEq, Repr

namespace Form

/-- What an index can stand behind. -/
def isBase : Form → Bool
  | path | paren | call | array | index => true
  | literal | negation | borrow => false

/-- What the sign of a borrowed value can stand in front of. -/
def isBorrowable : Form → Bool
  | paren | borrow => false
  | _ => true

end Form

/-- An operand with the blanks around it: its form, its text, and the tree that it stands for. -/
structure Term where
  form : Form
  text : List Char
  tree : Expr
  before : List Char := []
  after : List Char := []

def Term.written (t : Term) : List Char :=
  t.before ++ t.text ++ t.after

/-- Operands that are joined by operators. -/
structure Chain where
  first : Term
  rest : List (BinaryOp × Term) := []

namespace Chain

/-- The text of operands with the operators in front of them. -/
def written (rest : List (BinaryOp × Term)) : List Char :=
  rest.flatMap fun (op, t) => op.chars ++ t.written

def text (c : Chain) : List Char :=
  c.first.written ++ written c.rest

def terms (c : Chain) : List Term :=
  c.first :: c.rest.map Prod.snd

def tree (c : Chain) : Expr :=
  group Level.all c.first.tree (c.rest.map fun (op, t) => (op, t.tree))

/-- The text of chains with commas between them. -/
def listed (cs : List Chain) : List Char :=
  [','].intercalate (cs.map text)

end Chain

/-! ## Operands -/

/-- The sign of a mutably borrowed value. -/
def mutSign : List Char := ['&', 'm', 'u', 't', ' ']

def isGap (cs : List Char) : Bool :=
  cs.all Text.isBlank

/-- Of an operator and one behind it, a text with both is split at the first one first: it is the
looser one, or both are of one level that groups to the right. -/
def splitsFirst : List Level → BinaryOp → BinaryOp → Bool
  | [], _, _ => false
  | level :: tighter, op, next =>
    if op ∈ level.ops then !(level.groupsLeft && decide (next ∈ level.ops))
    else if next ∈ level.ops then false
    else splitsFirst tighter op next

/-- If an operand comes to stand at the start of a text with the operator behind it, the blanks
between the two do not make it the sign of a mutably borrowed value. -/
def Unmut (joined next : BinaryOp × Term) : Prop :=
  splitsFirst Level.all joined.1 next.1 = true → ¬ mutSign <+: joined.2.text ++ joined.2.after

/-- Only blanks stand around the operands. -/
structure Chain.Gapped (c : Chain) : Prop where
  before : ∀ t ∈ c.terms, isGap t.before = true
  after : ∀ t ∈ c.terms, isGap t.after = true

/-- Only blanks stand around the operands, and they make none of them the sign of a mutably borrowed
value. -/
structure Chain.Spaced (c : Chain) : Prop extends c.Gapped where
  first : c.rest ≠ [] → ¬ mutSign <+: c.first.text ++ c.first.after
  others : c.rest.IsChain Unmut

/-- The text is an operand of a form and stands for a tree. -/
inductive IsOperand : Form → List Char → Expr → Prop where
  | path {text : List Char} (isPath : isPath text = true) (notTrue : text ≠ "true".toList)
      (notFalse : text ≠ "false".toList) : IsOperand .path text (ofPath (String.ofList text))
  | bool (b : Bool) :
      IsOperand .literal (if b then "true" else "false").toList (ofValue (.bool b))
  | integer (negative : Bool) {first : Char} {digits type : List Char}
      (digit : Text.isDigit first = true)
      (digits_or_underscores : ∀ c ∈ digits, Text.isDigit c = true ∨ c = '_')
      (typed : type = [] ∨ type ∈ integerTypes)
      (few : ((first :: digits).filter (· != '_')).length ≤ digitLimit) :
      IsOperand .literal ((if negative then ['-'] else []) ++ first :: digits ++ type)
        (ofValue (.int
          (let n : Int := Text.digitsValue ((first :: digits).filter (· != '_'))
          if negative then -n else n)))
  | string (bytes : Bool) {content : List Char} (plain : ∀ c ∈ ['"', '\\', '(', ')'], c ∉ content)
      (undotted : ¬ ['.', '.'] <:+: content) :
      IsOperand .literal ((if bytes then ['b'] else []) ++ '"' :: content ++ ['"'])
        (ofValue (.text (String.ofList
          ((if bytes then ['b'] else []) ++ '"' :: content ++ ['"']))))
  | negation {gap text : List Char} {form : Form} {tree : Expr} (blank : isGap gap = true)
      (operand : IsOperand form text tree) :
      IsOperand .negation ('!' :: gap ++ text) (ofUnary "!" tree)
  | paren {c : Chain} (operands : ∀ t ∈ c.terms, IsOperand t.form t.text t.tree)
      (spaced : c.Spaced) : IsOperand .paren ('(' :: c.text ++ [')']) c.tree
  | call {name : List Char} {args : List Chain} (isName : isPath name = true)
      (bare : '(' ∉ name) (some : args ≠ [])
      (operands : ∀ c ∈ args, ∀ t ∈ c.terms, IsOperand t.form t.text t.tree)
      (spaced : ∀ c ∈ args, c.Spaced) :
      IsOperand .call (name ++ '(' :: Chain.listed args ++ [')'])
        (ofCall (String.ofList name) (args.map Chain.tree))
  | emptyArray {gap : List Char} (blank : isGap gap = true) :
      IsOperand .array ('[' :: gap ++ [']']) (ofArray [])
  | array {items : List Chain} (some : items ≠ [])
      (operands : ∀ c ∈ items, ∀ t ∈ c.terms, IsOperand t.form t.text t.tree)
      (spaced : ∀ c ∈ items, c.Spaced) :
      IsOperand .array ('[' :: Chain.listed items ++ [']']) (ofArray (items.map Chain.tree))
  | index {base gap : List Char} {form : Form} {tree : Expr} {c : Chain}
      (isBase : form.isBase = true) (blank : isGap gap = true) (operand : IsOperand form base tree)
      (operands : ∀ t ∈ c.terms, IsOperand t.form t.text t.tree)
      (spaced : c.Spaced) :
      IsOperand .index (base ++ gap ++ '[' :: c.text ++ [']'])
        (ofIndex tree [c.tree] (String.ofList (Text.trim c.text)))
  | borrow {gap text : List Char} {form : Form} {tree : Expr}
      (isBorrowable : form.isBorrowable = true) (blank : isGap gap = true)
      (unmut : ¬ mutSign <+: '&' :: gap ++ text) (operand : IsOperand form text tree) :
      IsOperand .borrow ('&' :: gap ++ text) tree

/-- All operands of the chain are operands, with blanks around them. -/
structure Chain.IsWritten (c : Chain) : Prop where
  operands : ∀ t ∈ c.terms, IsOperand t.form t.text t.tree
  spaced : c.Spaced

end Expr
end AccountAudit
