import AccountAudit.Detector.Basic
import AccountAudit.Guard

/-!
# Type confusion

Bytes that are read as a layout could belong to another layout of the same size, unless the
discriminator was checked first.
-/

namespace AccountAudit
namespace TypeConfusion

def info : DetectorInfo :=
  { label := "TypeDiscriminatorConfusionDetector"
    classId := "SOL-007"
    name := "Type Cosplay / Discriminator Confusion"
    description :=
      "Detects generic byte-to-struct deserialization of an account with no " ++
        "preceding discriminator check, when the target struct has the same " ++
        "serialized length as another declared struct."
    severity := .high
    category := "account_matching"
    remediationId := "DISC-001"
    confidence := .ofDecimal false 6 (-1) }

/-- Functions that read bytes as a layout. -/
def readers : List String :=
  ["try_from_slice", "try_from_slice_unchecked", "deserialize", "try_deserialize_unchecked",
    "from_bytes", "unpack", "unpack_unchecked", "load_unchecked"]

/-- Names of fields that tell one layout from another. -/
def discriminatorNames : List String := ["discriminator", "account_type", "kind", "tag"]

/-- Functions that check the discriminator. -/
def discriminatorCalls : List String := ["verify_discriminator", "check_discriminator"]

/-- The layout that a call reads: the receiver type, without generics and module path. -/
def targetStruct (call : CallFact) : String :=
  let receiver :=
    if call.typeName.isEmpty then
      match (Text.splitOn [':', ':'] call.func.toList).reverse with
      | _ :: receiver :: _ => receiver
      | _ => []
    else call.typeName.toList
  String.ofList (Text.trim (Text.lastPiece [':', ':'] (Text.before ['<'] receiver)))

/-- The name of a path segment without its module path, in lower case. -/
def plainSegment (segment : List Char) : String :=
  String.ofList (Text.lower (Text.lastPiece [':', ':'] segment))

/-- The path leads through a field that tells one layout from another. -/
def isDiscriminatorPath (path : String) : Bool :=
  (Text.splitOn ['.'] path.toList).any fun segment =>
    discriminatorNames.contains (plainSegment segment)

/-- A check or call in front of the call looks at a discriminator. -/
def isDiscriminatorChecked (handler : HandlerFacts) (call : CallFact) : Bool :=
  (handler.checksBefore call.seq).any (fun check => check.paths.any isDiscriminatorPath) ||
    (handler.callsNamed discriminatorCalls).any (·.seq < call.seq)

/-- The accounts that a call mentions. -/
def accountsOf (handler : HandlerFacts) (call : CallFact) : List AccountFact :=
  call.refs.filterMap handler.account?

def finding (handler : HandlerFacts) (call : CallFact) (struct : String)
    (collisions : List String) : Finding :=
  let accounts := Text.distinctSorted ((accountsOf handler call).map AccountFact.name)
  let verb := if collisions.length = 1 then "serializes" else "serialize"
  info.finding
    ("Unchecked deserialization into `" ++ struct ++ "`")
    ("`" ++ handler.name ++ "` deserializes `" ++ ", ".intercalate accounts ++ "` into `" ++
      struct ++ "` without checking a discriminator, and " ++ ", ".intercalate collisions ++
      " " ++ verb ++ " to the same length. An account of the other type would be accepted.")
    call.location handler.name
    [("struct", .text struct), ("collides_with", .texts collisions),
      ("accounts", .texts accounts)]

def callFinding? (facts : FactBase) (handler : HandlerFacts) (call : CallFact) : Option Finding :=
  let struct := targetStruct call
  let collisions := facts.collidingStructs struct
  if call.refs.isEmpty || collisions.isEmpty || isDiscriminatorChecked handler call ||
      (accountsOf handler call).any handler.possiblyGuarded then none
  else some (finding handler call struct collisions)

def scan (facts : FactBase) (handler : HandlerFacts) : List Finding :=
  (handler.callsNamed readers).filterMap (callFinding? facts handler)

def detector : Detector :=
  .ofHandlers info scan

end TypeConfusion
end AccountAudit
