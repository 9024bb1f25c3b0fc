import AccountAudit.Severity

/-!
# Terminal styles

How text is marked for a terminal: a code switches a style on, and `reset` switches all off.
-/

namespace AccountAudit
namespace Cli
namespace Style

def reset : String := "\x1b[0m"
def bold : String := "\x1b[1m"
def dim : String := "\x1b[2m"
def red : String := "\x1b[91m"
def green : String := "\x1b[92m"
def yellow : String := "\x1b[93m"
def cyan : String := "\x1b[96m"
def orange : String := "\x1b[38;5;208m"

/-- A text in a style. -/
def paint (code text : String) : String :=
  code ++ text ++ reset

/-- The style of a severity. -/
def ofSeverity : Severity → String
  | .critical => red
  | .high => orange
  | .medium => yellow
  | .low => cyan
  | .informational => dim

/-- The name of a severity in capital letters. -/
def title (s : Severity) : String :=
  s.name.toUpper

end Style
end Cli
end AccountAudit
