import AccountAudit.Detector.Basic
import AccountAudit.Expr.Printer

/-!
# Unchecked arithmetic

Integer arithmetic wraps silently, so an operation on values that a caller can influence has to be
written in a checked form or to follow a check of its operands.
-/

namespace AccountAudit
namespace UncheckedArithmetic

def info : DetectorInfo :=
  { label := "UncheckedArithmeticDetector"
    classId := "SOL-003"
    name := "Unchecked Arithmetic"
    description :=
      "Detects +, -, *, ** and << on non-literal operands that are neither " ++
        "wrapped in checked_/saturating_ methods nor preceded by a range assertion."
    severity := .medium
    category := "arithmetic"
    remediationId := "ARITH-001"
    confidence := .ofDecimal false 75 (-2) }

/-- Division and remainder cannot overflow. -/
def overflowingOps : List String := ["+", "-", "*", "**", "<<"]

/-- A method form of any name is deliberate. -/
def isWrapped (site : ArithmeticSite) : Bool :=
  site.wrapper.any (!·.isEmpty)

def reports (site : ArithmeticSite) : Bool :=
  overflowingOps.contains site.op && !isWrapped site && !site.checked && site.hasNonLiteral &&
    !site.guarded

/-- Where the operands that are not constant come from. -/
def origins (site : ArithmeticSite) : List String :=
  Text.distinctSorted ((site.operands.filter (·.provenance != .literal)).map (·.provenance.name))

def finding (handler : HandlerFacts) (site : ArithmeticSite) : Finding :=
  let operands := site.operands.map (·.expr.render)
  info.finding "Unchecked arithmetic"
    ("`" ++ (" " ++ site.op ++ " ").intercalate operands ++ "` in `" ++ handler.name ++
      "` uses a raw operator on " ++ "/".intercalate (origins site) ++
      " values with no overflow check or prior range assertion.")
    site.location handler.name
    [("op", .text site.op), ("operands", .texts operands)]

def scan (handler : HandlerFacts) : List Finding :=
  (handler.arithmetic.filter reports).map (finding handler)

def detector : Detector :=
  .ofHandlers info fun _ => scan

end UncheckedArithmetic
end AccountAudit
