import AccountAudit.Detector.AccountKind
import AccountAudit.Detector.Basic
import AccountAudit.Guard

/-!
# Duplicate mutable accounts

Two mutable accounts of one type may be the same account, so that one write clobbers the other,
unless a guard requires that they differ. Every pair has to be covered.
-/

namespace AccountAudit
namespace DuplicateAccounts

def info : DetectorInfo :=
  { label := "DuplicateMutableAccountsDetector"
    classId := "SOL-008"
    name := "Duplicate Mutable Accounts"
    description :=
      "Detects two or more mutable accounts of the same declared type in one " ++
        "handler where some pair is never constrained to differ."
    severity := .medium
    category := "account_matching"
    remediationId := "DUP-001"
    confidence := .ofDecimal false 75 (-2) }

/-- A mutable data account that is neither a signer nor created here. -/
def isEligible (account : AccountFact) : Bool :=
  account.isMut && !account.isSigner && !AccountKind.withoutData.contains account.typeKind &&
    !AccountKind.isCreated account

/-- The eligible accounts that share their outer and inner type with another one, by type. -/
def groups (handler : HandlerFacts) : List (List AccountFact) :=
  let typed := (handler.accounts.filter isEligible).map fun account =>
    ((account.typeKind, account.innerType), account)
  ((Assoc.gather typed).map Prod.snd).filter fun group => 1 < group.length

/-- All pairs of members of a list, the earlier one first. -/
def pairs {α : Type} : List α → List (α × α)
  | [] => []
  | a :: rest => rest.map (fun b => (a, b)) ++ pairs rest

/-- The guard requires that two accounts differ. -/
def requiresDistinct (ev : Evidence) (a b : AccountFact) : Bool :=
  !ev.unknown && ev.ops.contains "!=" && ev.refs.contains a.index && ev.refs.contains b.index

/-- Two accounts are known to differ, or may be. -/
def areDistinct (handler : HandlerFacts) (a b : AccountFact) : Bool :=
  handler.possiblyGuarded a || handler.possiblyGuarded b ||
    handler.evidence.any (requiresDistinct · a b)

def uncovered (handler : HandlerFacts) (group : List AccountFact) :
    List (AccountFact × AccountFact) :=
  (pairs group).filter fun (a, b) => !areDistinct handler a b

def finding (handler : HandlerFacts) (first : AccountFact) (names : List String)
    (bare : List (AccountFact × AccountFact)) : Finding :=
  let listed := ", ".intercalate names
  info.finding
    ("Duplicate mutable accounts: " ++ listed)
    ("`" ++ handler.name ++ "` takes " ++ toString names.length ++ " mutable `" ++
      first.typeTag ++ "` accounts (" ++ listed ++ ") but never requires " ++
      ", ".intercalate (bare.map fun (a, b) => "`" ++ a.name ++ " != " ++ b.name ++ "`") ++
      ". Passing the same account twice lets one write clobber the other.")
    first.location handler.name
    [("params", .texts names),
      ("uncovered_pairs", .list (bare.map fun (a, b) => .texts [a.name, b.name]))]

def groupFinding? (handler : HandlerFacts) (group : List AccountFact) : Option Finding :=
  match group, uncovered handler group with
  | [], _ | _, [] => none
  | first :: _, bare => some (finding handler first (group.map AccountFact.name) bare)

def scan (handler : HandlerFacts) : List Finding :=
  (groups handler).filterMap (groupFinding? handler)

def detector : Detector :=
  .ofHandlers info fun _ => scan

end DuplicateAccounts
end AccountAudit
