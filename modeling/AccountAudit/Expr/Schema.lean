import AccountAudit.Expr.Parser
import AccountAudit.Schema.Read

/-!
# Expressions in documents

A document writes an expression as text, as a number or truth value that stands for itself, or as a
table of the parts of a node.
-/

namespace AccountAudit
namespace Expr

open Schema

/-- The kind of a node, by its name. -/
def readKind (v : Value) : Checked Kind :=
  match v with
  | .text s =>
    match Kind.all.find? (·.name == s) with
    | some kind => .ok kind
    | none => refuse (.notOneOf (Kind.all.map Kind.name)) v
  | _ => refuse (.notOneOf (Kind.all.map Kind.name)) v

/-- An expression written as text. -/
def readText (s : String) : Checked Expr :=
  match parse s with
  | .ok e => .ok e
  | .error excess => refuse (.rule excess.message) (.text s)

mutual

/-- An expression. -/
def read : Value → Checked Expr
  | .scalar (.text s) => readText s
  | .scalar .null => refuse (.notModel "Expr") .null
  | .scalar s => .ok (ofValue (.scalar s))
  | .list items => refuse (.notModel "Expr") (.list items)
  | .table entries =>
    let table := Value.table entries
    (required "kind" readKind table).and
      (withDefault "path" "" text table) |>.and
      (withDefault "value" .null anything table) |>.and
      (withDefault "op" "" text table) |>.and
      (operandIn "lhs" entries) |>.and
      (operandIn "rhs" entries) |>.and
      (withDefault "func" "" text table) |>.and
      (argsIn entries) |>.and
      (withDefault "raw" "" text table) |>.map
      fun ((((((((kind, path), value), op), lhs), rhs), func), args), raw) =>
        .node { kind, path, value, op, func, raw } lhs rhs args

/-- The operand in a field of a node's table. -/
def operandIn (name : String) : List (Scalar × Value) → Checked (Option Expr)
  | [] => .ok none
  | (key, v) :: rest =>
    if key = .text name then
      if v = .null then .ok none else Checked.within (.entry name) ((read v).map some)
    else operandIn name rest

/-- The arguments in a node's table. -/
def argsIn : List (Scalar × Value) → Checked (List Expr)
  | [] => .ok []
  | (key, v) :: rest =>
    if key = .text "args" then
      match v with
      | .list items => (Checked.all (readAll 0 items)).within (.entry "args")
      | v => (refuse .notTuple v).within (.entry "args")
    else argsIn rest

/-- The expressions of a list, each at its place. -/
def readAll (index : Nat) : List Value → List (Checked Expr)
  | [] => []
  | v :: rest => (read v).within (.item index) :: readAll (index + 1) rest

end

end Expr
end AccountAudit
