import AccountAudit.Detector.AccountKind
import AccountAudit.Detector.Basic
import AccountAudit.Guard

/-!
# Missing signer authorization

A mutable account that holds a privilege, by its own name or by a field of its data, has to sign or
to be tied to an account that signs.
-/

namespace AccountAudit
namespace SignerAuthorization

def info : DetectorInfo :=
  { label := "SignerAuthorizationDetector"
    classId := "SOL-001"
    name := "Missing Signer Authorization"
    description :=
      "Detects mutable authority-like accounts that are not signers themselves " ++
        "and are not bound to a signer through has_one, a constraint, or an " ++
        "in-body key comparison."
    severity := .critical
    category := "access_control"
    remediationId := "SIGNER-001"
    confidence := .ofDecimal false 85 (-2) }

/-- The data of the account has a field that holds a privilege. -/
def dataNamesAuthority (facts : FactBase) (account : AccountFact) : Bool :=
  (facts.struct? (account.innerType.getD "")).any fun struct =>
    struct.fields.any AccountKind.namesAuthority

/-- A mutable data account that holds a privilege and neither signs nor is created here. -/
def isCandidate (facts : FactBase) (account : AccountFact) : Bool :=
  !account.isSigner && account.isMut && !AccountKind.withoutData.contains account.typeKind &&
    !AccountKind.isCreated account &&
    (AccountKind.namesAuthority account.name || dataNamesAuthority facts account)

/-- The account names one of the signers in its `has_one`. -/
def namesSigner (account : AccountFact) (signers : List Nat) : Bool :=
  match account.attr? "has_one" with
  | some (.reference targets) => targets.any signers.contains
  | _ => false

/-- Some guard ties the account to a signer or requires that it signs. -/
def isGuarded (handler : HandlerFacts) (account : AccountFact) : Bool :=
  let signers := handler.signers.map AccountFact.index
  namesSigner account signers ||
    (handler.evidence.any fun ev => !ev.unknown && ev.touches account ["is_signer"]) ||
    (!signers.isEmpty && handler.links account.index signers equalityOps)

def finding (handler : HandlerFacts) (account : AccountFact) : Finding :=
  info.finding
    ("Missing signer authorization on `" ++ account.name ++ "`")
    ("Instruction `" ++ handler.name ++ "` accepts the mutable authority account `" ++
      account.name ++ "` (" ++ account.typeTag ++ ") but nothing ties it to a signer. " ++
      "Any caller can pass an arbitrary account in its place.")
    account.location handler.name
    [("param", .text account.name),
      ("signers", .texts (Text.distinctSorted (handler.signers.map AccountFact.name)))]

def reports (facts : FactBase) (handler : HandlerFacts) (account : AccountFact) : Bool :=
  isCandidate facts account && !isGuarded handler account && !handler.possiblyGuarded account

def scan (facts : FactBase) (handler : HandlerFacts) : List Finding :=
  (handler.accounts.filter (reports facts handler)).map (finding handler)

def detector : Detector :=
  .ofHandlers info scan

end SignerAuthorization
end AccountAudit
