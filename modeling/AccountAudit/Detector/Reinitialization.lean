import AccountAudit.Detector.AccountKind
import AccountAudit.Detector.Basic
import AccountAudit.Guard

/-!
# Repeated and front-run initialization

Three patterns of unsafe creation: an account that is initialized if needed, an initializer that
writes an account which exists already, both without looking at a flag that tells so, and a global
account that whoever comes first may configure.
-/

namespace AccountAudit
namespace Reinitialization

def info : DetectorInfo :=
  { label := "ReinitializationAndFrontrunDetector"
    classId := "SOL-006"
    name := "Reinitialization / Initialization Front-Running"
    description :=
      "Detects init_if_needed or hand-written initializers with no " ++
        "initialized-flag check, and init of literal-seeded singleton accounts " ++
        "with no authority constraint."
    severity := .medium
    category := "lifecycle"
    remediationId := "INIT-001"
    confidence := .ofDecimal false 7 (-1) }

/-- Fields that tell whether an account has been initialized. -/
def flagSegments : List String := ["is_initialized", "initialized", "is_init"]

/-- The field of a program's data that names who may upgrade it. -/
def upgradeAuthority : String := "upgrade_authority_address"

/-- A guard looks at the account's flag, or one that was not understood mentions the account. -/
def flagMayBeChecked (handler : HandlerFacts) (account : AccountFact) : Bool :=
  (handler.evidence.any fun ev => ev.touches account flagSegments) ||
    handler.possiblyGuarded account

/-! ## Initialized if needed -/

def ifNeededFinding? (handler : HandlerFacts) (account : AccountFact) : Option Finding :=
  if flagMayBeChecked handler account then none
  else
    some (info.finding
      ("Re-initialization via init_if_needed on `" ++ account.name ++ "`")
      ("`" ++ account.name ++ "` in `" ++ handler.name ++
        "` uses init_if_needed and the handler never " ++
        "checks an initialized flag, so a second call overwrites existing state.")
      account.location handler.name
      [("param", .text account.name), ("pattern", .text "init_if_needed")])

/-! ## Global accounts -/

/-- All seeds are constants, so that there is only one such account. -/
def hasConstantSeeds (account : AccountFact) : Bool :=
  match account.attr? "seeds" with
  | some (.expression exprs _) =>
    !exprs.isEmpty &&
      (exprs.flatMap Expr.walk).all fun node =>
        node.kind == .call || node.kind == .array || node.isConstant
  | _ => false

/-- Who may call the handler is settled, or may be. -/
def hasAuthority (handler : HandlerFacts) : Bool :=
  let signers := handler.signers.map AccountFact.index
  (handler.signers.any fun signer => (signer.attr? "address").any (!·.isUnknown)) ||
    handler.evidence.any fun ev =>
      ev.unknown || ev.paths.any (·.contains upgradeAuthority) ||
        (ev.refs.any signers.contains && ev.hasConstant)

def singletonFinding? (handler : HandlerFacts) (account : AccountFact) : Option Finding :=
  if hasConstantSeeds account && !handler.possiblyGuarded account && !hasAuthority handler then
    some (info.finding
      ("Front-runnable global initialization of `" ++ account.name ++ "`")
      ("`" ++ account.name ++ "` in `" ++ handler.name ++
        "` is a singleton derived from constant seeds " ++
        "and created with no authority constraint. The first caller to reach it after " ++
        "deployment controls its initial configuration.")
      account.location handler.name
      [("param", .text account.name), ("pattern", .text "global_singleton")] .critical)
  else none

/-! ## Initializers written by hand -/

/-- The accounts whose fields the handler writes, lamports aside, each with the first write. -/
def written (handler : HandlerFacts) : List (Nat × Location) :=
  let writes := handler.assignments.filterMap fun assign =>
    let segments := assign.target.segments
    if segments.length < 2 || segments.contains "lamports" then none
    else assign.targetRef.map fun index => (index, assign.location)
  (Assoc.gather writes).filterMap fun (index, locations) =>
    locations.head?.map fun location => (index, location)

/-- The account holds data that existed before. -/
def isExisting (account : AccountFact) : Bool :=
  account.isMut && !AccountKind.withoutData.contains account.typeKind &&
    !AccountKind.isCreated account

def rewriteFinding? (handler : HandlerFacts) (account : AccountFact) (location : Location) :
    Option Finding :=
  if isExisting account && !flagMayBeChecked handler account then
    some (info.finding
      ("Initializer rewrites existing account `" ++ account.name ++ "`")
      ("`" ++ handler.name ++ "` writes fields of the pre-existing account `" ++ account.name ++
        "` without checking whether it was already initialized.")
      location handler.name
      [("param", .text account.name), ("pattern", .text "manual_initializer")])
  else none

/-- The handler's name, in any case, tells that it initializes something. -/
def isInitializer (handler : HandlerFacts) : Bool :=
  Text.occursIn ['i', 'n', 'i', 't'] (Text.lower handler.name.toList)

def rewriteFindings (handler : HandlerFacts) : List Finding :=
  if isInitializer handler then
    (written handler).filterMap fun (index, location) =>
      (handler.account? index).bind fun account => rewriteFinding? handler account location
  else []

/-! ## All patterns -/

/-- The finding on the creation of an account. -/
def creationFinding? (handler : HandlerFacts) (account : AccountFact) : Option Finding :=
  if account.has "init_if_needed" then ifNeededFinding? handler account
  else if account.has "init" then singletonFinding? handler account
  else none

def scan (handler : HandlerFacts) : List Finding :=
  handler.accounts.filterMap (creationFinding? handler) ++ rewriteFindings handler

def detector : Detector :=
  .ofHandlers info fun _ => scan

end Reinitialization
end AccountAudit
