import AccountAudit.Detector.AccountKind
import AccountAudit.Detector.Basic
import AccountAudit.Expr.Printer
import AccountAudit.Guard

/-!
# Arbitrary invocations

A program that is invoked has to be known: a constant, an account of a program type, an account with
a fixed address, or one that was compared with a constant before. An unknown or computed target is
in the hand of the caller.
-/

namespace AccountAudit
namespace ArbitraryInvocation

def info : DetectorInfo :=
  { label := "ArbitraryCpiDetector"
    classId := "SOL-005"
    name := "Arbitrary Cross-Program Invocation"
    description :=
      "Detects invoke / invoke_signed / CpiContext calls whose target program " ++
        "is neither a compile-time constant nor a Program<> account, and is not " ++
        "compared with a known program id first."
    severity := .critical
    category := "cpi"
    remediationId := "CPI-001"
    confidence := .ofDecimal false 8 (-1) }

/-- The declaration of the account settles which program it is. -/
def isDeclaredProgram (account : AccountFact) : Bool :=
  AccountKind.programs.contains account.typeKind ||
    (account.attr? "address").any (!·.isUnknown)

/-- The guard compares something with a constant and mentions the target. -/
def comparesTarget (site : InvokeSite) (ev : Evidence) : Bool :=
  !ev.unknown && ev.usesAny equalityOps && ev.hasConstant &&
    (site.targetRef.any ev.refs.contains ||
      ev.paths.any fun path => path.head? == some site.target.root)

def isPinned (handler : HandlerFacts) (site : InvokeSite) : Bool :=
  site.isConstant ||
    (site.target.kind == .path &&
      ((site.targetRef.bind handler.account?).any isDeclaredProgram ||
        (handler.evidenceBefore site.seq).any (comparesTarget site)))

def finding (handler : HandlerFacts) (site : InvokeSite) : Finding :=
  let written := site.target.render
  let target := if written.isEmpty then "<unknown>" else written
  info.finding "Arbitrary cross-program invocation"
    ("`" ++ handler.name ++ "` invokes program `" ++ target ++ "`, which is not provably a " ++
      "known program. A caller can substitute a malicious program that " ++
      "receives the forwarded accounts and signer privileges.")
    site.location handler.name
    [("target", .text target), ("signed", .bool site.signed)]

def scan (handler : HandlerFacts) : List Finding :=
  (handler.invokes.filter fun site => !isPinned handler site).map (finding handler)

def detector : Detector :=
  .ofHandlers info fun _ => scan

end ArbitraryInvocation
end AccountAudit
