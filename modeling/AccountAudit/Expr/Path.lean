import AccountAudit.Expr.Basic
import AccountAudit.Text.Alphabetic
import AccountAudit.Text.Basic
import AccountAudit.Text.Case

/-!
# Paths

A path names a place in an account or an instruction argument. The way to it through the
instruction context and the call brackets of accessor methods are dropped, so that
`ctx.accounts.vault.owner()` and `vault.owner` have the same segments.
-/

namespace AccountAudit
namespace Expr

/-- The segments of a path text. -/
def segmentsOf (path : String) : List String :=
  (Text.splitOn ['.'] (Text.withoutStart "ctx.accounts.".toList path.toList)).map fun segment =>
    String.ofList (Text.withoutEnd ['(', ')'] segment)

/-- The segments of a path node; any other node has none. -/
def segments (e : Expr) : List String :=
  if e.kind = .path then segmentsOf e.head.path else []

/-- The first segment of a path node, and the empty text for any other node. -/
def root (e : Expr) : String :=
  e.segments.headD ""

/-- The segments of a path node as one text. -/
def pathKey (e : Expr) : String :=
  ".".intercalate e.segments

/-- Text that is written like the name of a constant. -/
def looksConstant (name : String) : Bool :=
  Text.allCapital name.toList && name.toList.any Text.isLetter

/-- A literal, a path through a module (`crate::ID`), or a path whose root is in capitals
(`ADMIN`). -/
def isConstant (e : Expr) : Bool :=
  match e.kind with
  | .literal => true
  | .path => Text.occursIn [':', ':'] e.head.path.toList || looksConstant e.root
  | _ => false

end Expr
end AccountAudit
