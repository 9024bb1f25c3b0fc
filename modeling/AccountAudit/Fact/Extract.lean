import AccountAudit.Expr.Printer
import AccountAudit.Fact.Resolve

/-!
# Extracting facts

The facts of a program unit, handler by handler. An account's facts depend on its declaration and on
the names of its siblings; a body event's facts depend on its node, its position, and the names of
accounts and arguments. Only whether an arithmetic operation is guarded looks at other nodes: at the
checks in front of it.

Every construct that is not understood gives one diagnostic: first those of the accounts, then those
of the body in its order.
-/

namespace AccountAudit

/-! ## Locations and diagnostics -/

namespace ProgramUnit

/-- The location of a span, in the unit's file unless the span names another. -/
def location (u : ProgramUnit) (span : Span) : Location :=
  let file := if span.file.isEmpty then u.file else span.file
  { file, start := span.start, stop := span.stop,
    line := (u.lineOf? file span.start).map Int.ofNat }

end ProgramUnit

/-- The class of diagnostics about constructs that were not understood. -/
def unresolvedClassId : String := "SOL-IR-001"

/-- A construct that was not understood. -/
def unresolvedFinding (location : Location) (handler what : String) : Finding :=
  { classId := unresolvedClassId
    title := "Unresolved construct"
    message := what ++ "; treated as unknown, neither safe nor unsafe."
    severity := .informational
    location
    remediationId := "IR-UNRESOLVED"
    handler
    category := "analysis" }

/-! ## Body events -/

namespace CheckFact

def ofCondition (names : List String) (seq : Nat) (location : Location) (condition : Expr) :
    CheckFact :=
  { seq, location, condition
    refs := mentioned names (condition.paths.map Expr.root ++ condition.unknownWords)
    paths := condition.paths.map Expr.pathKey
    ops := condition.operators
    unknown := condition.hasUnknown }

end CheckFact

namespace CallFact

def ofCall (names : List String) (seq : Nat) (location : Location) (func typeName : String)
    (args : List Expr) : CallFact :=
  let roots := args.flatMap fun arg => arg.paths.map Expr.root
  let words := args.flatMap Expr.unknownWords
  { seq, location, func, typeName, args
    refs := mentioned names (roots ++ words)
    argRoots := Text.distinctSorted (roots ++ words) }

end CallFact

namespace InvokeSite

/-- A call that stands for the address of a known program, such as `token::id()`. -/
def isProgramId (target : Expr) : Bool :=
  Text.occursIn [':', ':'] target.head.func.toList &&
    ['i', 'd'].isSuffixOf (Text.lower target.head.func.toList) && target.args.isEmpty

def ofProgram (names : List String) (seq : Nat) (location : Location) (target : Expr)
    (signed : Bool) : InvokeSite :=
  let targetRef := if target.kind = .path then names.idxOf? target.root else none
  let isConstant := match target.kind with
    | .path => targetRef.isNone && target.isConstant
    | .call => isProgramId target
    | .literal => true
    | _ => false
  { seq, location, target, isConstant, targetRef, signed }

end InvokeSite

namespace Operand

def ofExpr (names argNames : List String) (e : Expr) : Operand :=
  if e.isConstant then { expr := e, provenance := .literal }
  else if e.kind = .path then
    match names.idxOf? e.root with
    | some index => { expr := e, provenance := .accountField, ref := some index }
    | none =>
      { expr := e, provenance := if argNames.contains e.root then .parameter else .local }
  else { expr := e, provenance := .local }

end Operand

namespace ArithmeticSite

/-- Operators that bound their operands. -/
def rangeOps : List String := [">=", "<=", ">", "<"]

/-- Method forms that cannot overflow start with one of these. -/
def safeWrappers : List String := ["checked_", "saturating_"]

def isSafeWrapper (wrapper : String) : Bool :=
  safeWrappers.any fun start => start.toList.isPrefixOf wrapper.toList

/-- A check that bounds values and mentions all paths. -/
def bounds (check : CheckFact) (paths : List String) : Bool :=
  check.ops.any rangeOps.contains && paths.all check.paths.contains

/-- The operands that are not constant are all paths, and one check in front bounds all of them. -/
def isGuarded (checks : List CheckFact) (seq : Nat) (operands : List Operand) : Bool :=
  let live := operands.filter (·.provenance != .literal)
  live.all (·.expr.kind == .path) && !live.isEmpty &&
    checks.any fun check => check.seq < seq && bounds check (live.map (·.expr.pathKey))

def ofOperation (names argNames : List String) (checks : List CheckFact) (seq : Nat)
    (location : Location) (op : String) (lhs rhs : Expr) (wrapper : Option String) :
    ArithmeticSite :=
  let operands := [Operand.ofExpr names argNames lhs, Operand.ofExpr names argNames rhs]
  { seq, location, op, operands, wrapper
    checked := wrapper.any isSafeWrapper
    guarded := isGuarded checks seq operands }

end ArithmeticSite

/-! ## Accounts -/

namespace AccountFact

/-- The attributes of an account, resolved in their order. -/
def attributes? (names : List String) :
    List (String × Value) → Except ExtractionFailure (List (String × Resolved))
  | [] => .ok []
  | (kind, raw) :: rest =>
    match Resolved.ofAttribute names kind raw with
    | .error failure => .error failure
    | .ok value => (attributes? names rest).map fun attributes => (kind, value) :: attributes

/-- An attribute of the kind is a flag that is set. -/
def isSet (attributes : List (String × Resolved)) (kind : String) : Bool :=
  (attributes.lookup kind).any Resolved.isTrue

def ofAccount (u : ProgramUnit) (handler : Handler) (index : Nat) (account : Account) :
    Except ExtractionFailure AccountFact :=
  (attributes? (handler.params.map Account.name) account.attributes).map fun attributes =>
    { index, name := account.name, handler := handler.name, typeTag := account.typeTag
      typeKind := account.typeKind, innerType := account.innerType?
      isMut := account.isMut || isSet attributes "mut" || isSet attributes "init"
      isSigner := account.typeKind == "Signer" || isSet attributes "signer"
      attributes
      location := u.location account.span }

/-- The diagnostic about the attributes that were not understood, if there are any. -/
def diagnostic? (account : AccountFact) : Option Finding :=
  let unknown := account.attributes.filter (·.2.isUnknown)
  if unknown.isEmpty then none
  else
    let detail := ", ".intercalate (unknown.map fun (kind, value) =>
      "`" ++ kind ++ "` (" ++ value.reason ++ ")")
    some (unresolvedFinding account.location account.handler
      (account.handler ++ "." ++ account.name ++ ": attribute(s) " ++ detail ++
        " could not be resolved"))

end AccountFact

/-! ## Handlers -/

/-- A body node with its position in the body. -/
abbrev PlacedNode := BodyNode × Nat

namespace Handler

def accountNames (handler : Handler) : List String :=
  handler.params.map Account.name

/-- The body with the position of each node. -/
def placed (handler : Handler) : List PlacedNode :=
  handler.body.zipIdx

/-- The accounts from a position on. -/
def accountFacts (u : ProgramUnit) (handler : Handler) :
    Nat → List Account → Except ExtractionFailure (List AccountFact)
  | _, [] => .ok []
  | index, account :: rest =>
    match AccountFact.ofAccount u handler index account with
    | .error failure => .error failure
    | .ok fact => (accountFacts u handler (index + 1) rest).map (fact :: ·)

def checkFact? (u : ProgramUnit) (names : List String) : PlacedNode → Option CheckFact
  | (⟨span, .check condition⟩, seq) => some (.ofCondition names seq (u.location span) condition)
  | _ => none

def callFact? (u : ProgramUnit) (names : List String) : PlacedNode → Option CallFact
  | (⟨span, .call func typeName args⟩, seq) =>
    some (.ofCall names seq (u.location span) func typeName args)
  | _ => none

def invokeSite? (u : ProgramUnit) (names : List String) : PlacedNode → Option InvokeSite
  | (⟨span, .invoke program signed⟩, seq) =>
    some (.ofProgram names seq (u.location span) program signed)
  | _ => none

def assignFact? (u : ProgramUnit) (names : List String) : PlacedNode → Option AssignFact
  | (⟨span, .assign target value⟩, seq) =>
    some { seq, location := u.location span, target, value, targetRef := names.idxOf? target.root }
  | _ => none

def arithmeticSite? (u : ProgramUnit) (names argNames : List String) (checks : List CheckFact) :
    PlacedNode → Option ArithmeticSite
  | (⟨span, .arith op lhs rhs wrapper⟩, seq) =>
    some (.ofOperation names argNames checks seq (u.location span) op lhs rhs wrapper)
  | _ => none

/-- The facts of a handler. -/
def facts (u : ProgramUnit) (handler : Handler) : Except ExtractionFailure HandlerFacts :=
  let names := handler.accountNames
  let checks := handler.placed.filterMap (checkFact? u names)
  (accountFacts u handler 0 handler.params).map fun accounts =>
    { name := handler.name, location := u.location handler.span, accounts
      args := Assoc.ofPairs (handler.args.map fun arg => (arg.name, arg.typeTag))
      invokes := handler.placed.filterMap (invokeSite? u names)
      arithmetic := handler.placed.filterMap
        (arithmeticSite? u names (handler.args.map Argument.name) checks)
      checks
      calls := handler.placed.filterMap (callFact? u names)
      assignments := handler.placed.filterMap (assignFact? u names) }

/-- The diagnostic about a body node that was not understood completely. -/
def nodeDiagnostic? (u : ProgramUnit) (handler : Handler) (node : BodyNode) : Option Finding :=
  match node.action with
  | .check condition =>
    if condition.hasUnknown then
      some (unresolvedFinding (u.location node.span) handler.name
        (handler.name ++ ": guard condition `" ++ condition.render ++ "` could not be resolved"))
    else none
  | .call func _ args =>
    let unknown := args.flatMap Expr.unknownTexts
    if unknown.isEmpty then none
    else
      some (unresolvedFinding (u.location node.span) handler.name
        (handler.name ++ ": argument(s) of `" ++ func ++ "` could not be resolved: " ++
          ", ".intercalate (unknown.map fun text => "`" ++ text ++ "`")))
  | _ => none

/-- Every condition of the body that was not understood can be shown. -/
def isReportable (handler : Handler) : Bool :=
  handler.body.all fun node =>
    match node.action with
    | .check condition => !condition.hasUnknown || condition.isWritable
    | _ => true

/-- The diagnostics of a handler whose account facts are known. -/
def diagnostics (u : ProgramUnit) (handler : Handler) (facts : HandlerFacts) : List Finding :=
  facts.accounts.filterMap AccountFact.diagnostic? ++
    handler.body.filterMap (nodeDiagnostic? u handler)

end Handler

/-! ## Units -/

namespace StructDecl

def fact (decl : StructDecl) : Except DigitExcess StructFact :=
  decl.serializedSize?.map fun size =>
    { name := decl.name, size, discriminator := decl.discriminator
      fields := decl.fields.map FieldDecl.name }

end StructDecl

namespace FactBase

/-- The names of the layouts of each size that is not unique. -/
def groupsOf (structs : List StructFact) : List (Int × List String) :=
  let sized := structs.filterMap fun struct => struct.size.map fun size => (size, struct.name)
  (Assoc.gather sized).filter fun (_, names) => 1 < names.length

/-- The facts of the handlers of a unit. -/
def handlersOf (u : ProgramUnit) : List Handler → Except ExtractionFailure (List HandlerFacts)
  | [] => .ok []
  | handler :: rest =>
    match handler.facts u with
    | .error failure => .error failure
    | .ok facts =>
      if handler.isReportable then (handlersOf u rest).map (facts :: ·) else .error .unwritable

/-- The facts of a unit. -/
def ofUnit (u : ProgramUnit) : Except ExtractionFailure FactBase :=
  match handlersOf u u.handlers with
  | .error failure => .error failure
  | .ok handlers =>
    match u.structs.mapM StructDecl.fact with
    | .error excess => .error (.layout excess)
    | .ok structs =>
      .ok
        { unit := u.name, file := u.file, handlers
          structs := Assoc.ofPairs (structs.map fun struct => (struct.name, struct))
          sizeGroups := groupsOf structs
          diagnostics := (u.handlers.zip handlers).flatMap fun (handler, facts) =>
            handler.diagnostics u facts }

end FactBase

end AccountAudit
