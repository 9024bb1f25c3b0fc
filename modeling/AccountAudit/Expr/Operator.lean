import AccountAudit.Text.Blank

/-!
# Binary operators

The binary operators of expression text and how tightly they bind. Operators of one level are
looked for together, the loosest level first. A logical or comparing level is split at its first
operator and so groups to the right; an arithmetic level is split at its last operator and so groups
to the left.

A symbol in the text is an operator only if its neighbours admit it (`BinaryOp.standsAt`): `-` after
another operator is a sign, `<` beside `<` is half of a shift, `->` is an arrow.
-/

namespace AccountAudit
namespace Expr

inductive BinaryOp where
  | or
  | and
  | eq
  | ne
  | ge
  | le
  | gt
  | lt
  | add
  | sub
  | mul
  | div
  | rem
  deriving DecidableEq, Repr

namespace BinaryOp

def chars : BinaryOp → List Char
  | or => ['|', '|']
  | and => ['&', '&']
  | eq => ['=', '=']
  | ne => ['!', '=']
  | ge => ['>', '=']
  | le => ['<', '=']
  | gt => ['>']
  | lt => ['<']
  | add => ['+']
  | sub => ['-']
  | mul => ['*']
  | div => ['/']
  | rem => ['%']

def symbol (op : BinaryOp) : String :=
  String.ofList op.chars

theorem chars_ne_nil (op : BinaryOp) : op.chars ≠ [] := by
  cases op <;> simp [chars]

/-- An operator that compares by size and is written with one character. -/
def isAngle : BinaryOp → Bool
  | gt | lt => true
  | _ => false

def isArithmetic : BinaryOp → Bool
  | add | sub | mul | div | rem => true
  | _ => false

/-- Characters after which an arithmetic symbol is no operator but part of the next operand. -/
def operandStarts : List Char :=
  ['=', '!', '<', '>', '+', '-', '*', '/', '%', '&', '|', '(', ',']

/-- The neighbours of a symbol admit it as the operator `op`: `before` is the last character in
front of it that is no blank, `after` the character behind it. -/
def neighboursAdmit (op : BinaryOp) (before : Char) (after : Option Char) : Bool :=
  if op.isAngle then
    !after.any (['=', '<', '>'].contains ·) && !(['-', '=', '<', '>'].contains before)
  else if op.isArithmetic then
    !operandStarts.contains before && !after.any (['=', '>'].contains ·) &&
      !(op == .div && after == some '/')
  else true

/-- The operator stands at the start of `ahead`; `seen` is the text in front of it, the last
character first. An operator has an operand in front of it. -/
def standsAt (op : BinaryOp) (seen ahead : List Char) : Bool :=
  op.chars.isPrefixOf ahead &&
    match seen.dropWhile Text.isBlank with
    | [] => false
    | before :: _ => op.neighboursAdmit before (ahead.drop op.chars.length).head?

end BinaryOp

/-- The operators that bind equally. -/
inductive Level where
  | disjunction
  | conjunction
  | comparison
  | sum
  | product
  deriving DecidableEq, Repr

namespace Level

/-- The operators of a level; of two that could stand at one place the longer comes first. -/
def ops : Level → List BinaryOp
  | disjunction => [.or]
  | conjunction => [.and]
  | comparison => [.eq, .ne, .ge, .le, .gt, .lt]
  | sum => [.add, .sub]
  | product => [.mul, .div, .rem]

/-- Operators of the level group to the left. -/
def groupsLeft : Level → Bool
  | sum | product => true
  | _ => false

/-- The levels from the loosest to the tightest. -/
def all : List Level :=
  [disjunction, conjunction, comparison, sum, product]

end Level

end Expr
end AccountAudit
