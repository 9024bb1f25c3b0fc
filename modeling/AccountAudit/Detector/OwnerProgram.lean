import AccountAudit.Detector.AccountKind
import AccountAudit.Detector.Basic
import AccountAudit.Guard

/-!
# Missing owner checks

The program that owns a raw account has to be verified before its data are trusted.
-/

namespace AccountAudit
namespace OwnerProgram

def info : DetectorInfo :=
  { label := "OwnerProgramCheckDetector"
    classId := "SOL-002"
    name := "Missing Owner Program Check"
    description :=
      "Detects AccountInfo / UncheckedAccount parameters with no owner, address " ++
        "or seeds constraint and no in-body check of the account's owner."
    severity := .high
    category := "access_control"
    remediationId := "OWNER-001"
    confidence := .ofDecimal false 8 (-1) }

/-- Attributes that settle which account it is, or who owns it. -/
def validatingKinds : List String := ["owner", "address", "seeds"]

/-- The accounts that an attribute of the account names. -/
def named (account : AccountFact) (kind : String) : List Nat :=
  match account.attr? kind with
  | some (.reference targets) => targets
  | _ => []

/-- Accounts that are validated elsewhere or hold no data: the programs that are invoked, and those
that receive or pay lamports. -/
def exempt (handler : HandlerFacts) : List Nat :=
  handler.invokes.filterMap InvokeSite.targetRef ++
    handler.accounts.flatMap fun account => named account "close" ++ named account "payer"

def reports (handler : HandlerFacts) (account : AccountFact) : Bool :=
  AccountKind.raw.contains account.typeKind && !account.isSigner &&
    !(exempt handler).contains account.index && !validatingKinds.any account.has &&
    !(handler.evidence.any fun ev => ev.touches account ["owner"]) &&
    !handler.possiblyGuarded account

def finding (handler : HandlerFacts) (account : AccountFact) : Finding :=
  info.finding
    ("Missing owner check on `" ++ account.name ++ "`")
    ("Account `" ++ account.name ++ "` in `" ++ handler.name ++ "` is a `" ++ account.typeKind ++
      "` and its owning program is never verified. An attacker can pass an " ++
      "account with spoofed data owned by a different program.")
    account.location handler.name [("param", .text account.name)]

def scan (handler : HandlerFacts) : List Finding :=
  (handler.accounts.filter (reports handler)).map (finding handler)

def detector : Detector :=
  .ofHandlers info fun _ => scan

end OwnerProgram
end AccountAudit
