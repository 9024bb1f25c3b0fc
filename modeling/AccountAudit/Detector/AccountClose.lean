import AccountAudit.Detector.Basic
import AccountAudit.Expr.Path

/-!
# Insecure account close

A handler that takes all lamports out of an account by hand has to clear its data as well, since the
account can be refunded and used again within the same transaction.
-/

namespace AccountAudit
namespace AccountClose

def info : DetectorInfo :=
  { label := "InsecureAccountCloseDetector"
    classId := "SOL-009"
    name := "Insecure Account Close"
    description :=
      "Detects handlers that drain an account's lamports without the close " ++
        "attribute and without clearing its data or discriminator."
    severity := .medium
    category := "lifecycle"
    remediationId := "CLOSE-001"
    confidence := .ofDecimal false 7 (-1) }

/-- Methods that take lamports out of their receiver. -/
def drainCalls : List String := ["sub_lamports"]

/-- Fields whose overwriting clears an account. -/
def clearedSegments : List String := ["data", "discriminator"]

/-- Functions that clear an account. -/
def clearingCalls : List String := ["fill", "realloc", "assign", "close", "close_account"]

/-- The account on which a method is called. -/
def receiver (call : CallFact) : String :=
  String.ofList (Text.before ['.']
    (Text.withoutStart "ctx.accounts.".toList call.func.toList))

/-- A value that sets to zero or takes something away. -/
def isDrainValue (value : Expr) : Bool :=
  match value.kind with
  | .literal => value.head.value.isZero
  | .binary => value.head.op == "-"
  | _ => false

/-- The places where lamports are taken out: position in the body, account, location. -/
def drains (handler : HandlerFacts) : List (Nat × Nat × Location) :=
  let writes := handler.assignments.filterMap fun assign =>
    if assign.target.segments.contains "lamports" && isDrainValue assign.value then
      assign.targetRef.map fun index => (assign.seq, index, assign.location)
    else none
  let calls := (handler.callsNamed drainCalls).filterMap fun call =>
    (handler.accountNamed? (receiver call)).map fun account =>
      (call.seq, account.index, call.location)
  (writes ++ calls).mergeSort fun a b => a.1 ≤ b.1

/-- The drained accounts, each with the first place where it is drained. -/
def drained (handler : HandlerFacts) : List (Nat × Location) :=
  (Assoc.gather ((drains handler).map Prod.snd)).filterMap fun (index, locations) =>
    locations.head?.map fun location => (index, location)

/-- The handler clears the account's data, or calls a function that does. -/
def clears (handler : HandlerFacts) (account : AccountFact) : Bool :=
  (handler.assignments.any fun assign =>
    assign.targetRef == some account.index &&
      assign.target.segments.any clearedSegments.contains) ||
    (handler.callsNamed clearingCalls).any fun call =>
      receiver call == account.name || call.refs.contains account.index

def finding (handler : HandlerFacts) (account : AccountFact) (location : Location) : Finding :=
  info.finding
    ("Account `" ++ account.name ++ "` closed without clearing data")
    ("`" ++ handler.name ++ "` drains the lamports of `" ++ account.name ++ "` by hand but " ++
      "leaves its data in place. Within the same transaction the account can " ++
      "be refunded and reused as if it were still live.")
    location handler.name [("param", .text account.name)]

def reports (handler : HandlerFacts) (account : AccountFact) : Bool :=
  !account.isSigner && !account.has "close" && !clears handler account

def scan (handler : HandlerFacts) : List Finding :=
  (drained handler).filterMap fun (index, location) =>
    match handler.account? index with
    | some account =>
      if reports handler account then some (finding handler account location) else none
    | none => none

def detector : Detector :=
  .ofHandlers info fun _ => scan

end AccountClose
end AccountAudit
