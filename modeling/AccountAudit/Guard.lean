import AccountAudit.Fact.Basic
import AccountAudit.Fact.Resolve

/-!
# Guards

A guard is positive evidence that a handler constrains an account: a `constraint` on any of its
accounts, or a check in its body. Both are brought into one form here (`Evidence`), so that a
detector asks one question wherever the guard was written.

A guard that was not understood is no evidence, but an account that it mentions may be guarded
(`HandlerFacts.possiblyGuarded`), and detectors stay silent about such accounts.
-/

namespace AccountAudit

/-- Operators that compare two values for being the same. -/
def equalityOps : List String := ["==", "!="]

/-- A constraint or a check. A constraint has no position: it holds before the body runs. -/
structure Evidence where
  seq : Option Nat
  refs : List Nat
  exprs : List Expr
  unknown : Bool
  deriving DecidableEq, Repr

namespace Evidence

def ofConstraint (value : Resolved) : Evidence :=
  { seq := none, refs := value.refs, exprs := value.exprs, unknown := value.isUnknown }

def ofCheck (check : CheckFact) : Evidence :=
  { seq := some check.seq, refs := check.refs, exprs := [check.condition]
    unknown := check.unknown }

/-- All nodes of the guard's expressions. -/
def nodes (ev : Evidence) : List Expr :=
  ev.exprs.flatMap Expr.walk

/-- The operators of the guard, in ascending order. -/
def ops (ev : Evidence) : List String :=
  Text.distinctSorted (ev.exprs.flatMap Expr.operators)

/-- The segments of the guard's paths. -/
def paths (ev : Evidence) : List (List String) :=
  ev.exprs.flatMap fun e => e.paths.map Expr.segments

def hasConstant (ev : Evidence) : Bool :=
  ev.nodes.any Expr.isConstant

/-- One of these operators occurs in the guard. -/
def usesAny (ev : Evidence) (ops : List String) : Bool :=
  ev.ops.any ops.contains

/-- Some path from the account leads through one of the segments. -/
def touches (ev : Evidence) (account : AccountFact) (segments : List String) : Bool :=
  ev.paths.any fun
    | [] => false
    | root :: inner => root == account.name && inner.any segments.contains

end Evidence

namespace HandlerFacts

/-- All guards: the constraints, then the checks. -/
def evidence (handler : HandlerFacts) : List Evidence :=
  handler.constraints.map (fun (_, value) => .ofConstraint value) ++
    handler.checks.map .ofCheck

/-- The guards that hold at a position of the body: the constraints, and the checks in front. -/
def evidenceBefore (handler : HandlerFacts) (seq : Nat) : List Evidence :=
  handler.constraints.map (fun (_, value) => .ofConstraint value) ++
    (handler.checksBefore seq).map .ofCheck

/-- A guard that was understood relates an account to another one of `others` by one of the
operators. -/
def links (handler : HandlerFacts) (index : Nat) (others : List Nat) (ops : List String) : Bool :=
  handler.evidence.any fun ev =>
    !ev.unknown && ev.refs.contains index &&
      ev.refs.any (fun i => others.contains i && i != index) && ev.usesAny ops

/-- An attribute or check that was not understood mentions the account. -/
def possiblyGuarded (handler : HandlerFacts) (account : AccountFact) : Bool :=
  !account.unresolvedKinds.isEmpty ||
    (handler.accounts.any fun other =>
      other.attributes.any fun (_, value) => value.isUnknown && value.refs.contains account.index) ||
    handler.checks.any fun check => check.unknown && check.refs.contains account.index

end HandlerFacts
end AccountAudit
