import AccountAudit.Detector.Basic
import AccountAudit.Fact.Resolve
import AccountAudit.Guard
import AccountAudit.Value.Literal

/-!
# Non-canonical address derivation

An address that is derived from seeds is unique only with the canonical bump. A bump that the caller
supplies has to be compared, or the address recomputed from the same seeds.
-/

namespace AccountAudit
namespace AddressDerivation

def info : DetectorInfo :=
  { label := "NonCanonicalAddressDerivationDetector"
    classId := "SOL-004"
    name := "Non-Canonical Bump"
    description :=
      "Detects seeds + bump derivations whose bump comes from instruction data " ++
        "without recomputing the canonical bump or comparing against it."
    severity := .high
    category := "pda"
    remediationId := "PDA-001"
    confidence := .ofDecimal false 8 (-1) }

/-- Functions that find the canonical bump. -/
def recomputeCalls : List String := ["find_program_address", "try_find_program_address"]

/-- Functions that take the bump they are given. -/
def rawDeriveCalls : List String := ["create_program_address"]

/-- Literal seeds and the roots of paths, without the supplied arguments themselves. -/
def seedTokens (seeds : List Expr) (supplied : List String) : List String :=
  (seeds.flatMap Expr.walk).filterMap fun node =>
    match node.kind with
    | .literal => some node.head.value.plain
    | .path => if supplied.contains node.root then none else some node.root
    | _ => none

/-- A check compares one of the supplied arguments with something else. -/
def comparesSupplied (supplied : List String) (check : CheckFact) : Bool :=
  check.paths.any (fun path =>
    supplied.contains (String.ofList (Text.before ['.'] path.toList))) &&
    check.ops.any equalityOps.contains &&
    2 ≤ (Text.distinctSorted check.paths).length

/-- Among these calls and checks the canonical bump is recomputed from one of the seeds, or a
supplied argument is compared. -/
def isEnforced (calls : List CallFact) (checks : List CheckFact) (supplied : List String)
    (seeds : List Expr) : Bool :=
  let wanted := seedTokens seeds supplied
  calls.any (fun call =>
    recomputeCalls.contains call.shortName &&
      (seedTokens (call.args.take 1) supplied).any wanted.contains) ||
    checks.any (comparesSupplied supplied)

/-- The instruction arguments among some names, in ascending order. -/
def suppliedAmong (handler : HandlerFacts) (names : List String) : List String :=
  Text.distinctSorted (names.filter fun name => (handler.args.lookup name).isSome)

/-- The finding on an account whose declared bump is supplied. -/
def accountFinding? (handler : HandlerFacts) (account : AccountFact) : Option Finding :=
  match account.attr? "seeds", account.attr? "bump" with
  | some seeds, some (.expression bump _) =>
    let supplied := suppliedAmong handler (bump.flatMap fun e => e.paths.map Expr.root)
    match supplied with
    | [] => none
    | first :: _ =>
      if isEnforced handler.calls handler.checks supplied seeds.exprs then none
      else
        some (info.finding
          ("Caller-supplied bump for `" ++ account.name ++ "`")
          ("`" ++ account.name ++ "` in `" ++ handler.name ++
            "` is derived from seeds with bump `" ++ first ++
            "` taken from instruction data, and the canonical bump is never recomputed or compared.")
          account.location handler.name
          [("param", .text account.name), ("bump_args", .texts supplied)])
  | _, _ => none

/-- The finding on a call that derives an address from supplied values. Only what stands in front of
the call counts. -/
def callFinding? (handler : HandlerFacts) (call : CallFact) : Option Finding :=
  let supplied := suppliedAmong handler call.argRoots
  let earlier := handler.calls.filter (·.seq < call.seq)
  if supplied.isEmpty ||
      isEnforced earlier (handler.checksBefore call.seq) supplied (call.args.take 1) then none
  else
    some (info.finding "Address derived with caller-supplied bump"
      ("`" ++ call.func ++ "` in `" ++ handler.name ++
        "` derives an address from instruction argument(s) " ++ ", ".intercalate supplied ++
        " without canonical bump validation.")
      call.location handler.name [("bump_args", .texts supplied)])

def scan (handler : HandlerFacts) : List Finding :=
  handler.accounts.filterMap (accountFinding? handler) ++
    (handler.callsNamed rawDeriveCalls).filterMap (callFinding? handler)

def detector : Detector :=
  .ofHandlers info fun _ => scan

end AddressDerivation
end AccountAudit
