import AccountAudit.Failure
import AccountAudit.Program.Schema

/-!
# Units from documents

A program unit from a decoded document. `origin` names where the document came from.
-/

namespace AccountAudit
namespace ProgramUnit

/-- What is said of a document with issues: how many there are, and the first one. -/
def issuesReason (issues : Schema.Issues) : String :=
  toString issues.count ++ " validation error(s), first at " ++ issues.first.place ++ ": " ++
    issues.first.cause.message

/-- The unit that a document describes. -/
def ofDocument (document : Value) (origin : String) : Except Failure ProgramUnit :=
  match document with
  | .table _ =>
    match read document with
    | .ok u => .ok u
    | .error issues => .error (.unparseable origin (issuesReason issues))
  | _ => .error (.unparseable origin "IR document must be a mapping")

end ProgramUnit
end AccountAudit
