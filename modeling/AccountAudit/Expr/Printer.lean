import AccountAudit.Expr.Basic
import AccountAudit.Value.Literal

/-!
# Printing expressions

The text of an expression, as messages and reports show it. Only the parts that the kind of a node
gives a meaning are printed; an operand that is missing is printed like an absent value. An expression
that shows a value with a long integer has no text (`Expr.isWritable`).
-/

namespace AccountAudit
namespace Expr

mutual

/-- The text of an expression. -/
def render : Expr → String
  | .node head lhs rhs args =>
    match head.kind with
    | .path => head.path
    | .literal => head.value.plain
    | .unary => head.op ++ renderOption lhs
    | .binary => renderOption lhs ++ " " ++ head.op ++ " " ++ renderOption rhs
    | .call => head.func ++ "(" ++ ", ".intercalate (renderAll args) ++ ")"
    | .array => "[" ++ ", ".intercalate (renderAll args) ++ "]"
    | .index => renderOption lhs ++ "[" ++ head.raw ++ "]"
    | .unknown => head.raw

def renderOption : Option Expr → String
  | none => Value.null.literal
  | some e => e.render

def renderAll : List Expr → List String
  | [] => []
  | e :: rest => e.render :: renderAll rest

end

mutual

/-- The values of the literals that the text of an expression shows. -/
def shown : Expr → List Value
  | .node head lhs rhs args =>
    match head.kind with
    | .literal => [head.value]
    | .unary | .index => shownOption lhs
    | .binary => shownOption lhs ++ shownOption rhs
    | .call | .array => shownAll args
    | .path | .unknown => []

def shownOption : Option Expr → List Value
  | none => []
  | some e => e.shown

def shownAll : List Expr → List Value
  | [] => []
  | e :: rest => e.shown ++ shownAll rest

end

/-- Every value that the text of an expression shows can be written. -/
def isWritable (e : Expr) : Bool :=
  e.shown.all Value.isWritable

end Expr
end AccountAudit
