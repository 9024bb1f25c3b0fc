import AccountAudit.Expr.Path
import AccountAudit.Finding.Basic
import AccountAudit.Program.Basic

/-!
# Facts

What is known of a program unit before any detector looks at it. For each handler: its accounts with
their resolved attributes, and the events of its body sorted by kind, each with the position at
which it stands in the body (`seq`).

Facts refer to accounts by their position in the handler's list. Whatever could not be understood is
marked as unknown together with the accounts that its text mentions; nothing is guessed.
-/

namespace AccountAudit

/-! ## Attributes -/

/-- What an attribute of an account says. -/
inductive Resolved where
  /-- It names accounts of the handler. -/
  | reference (targets : List Nat)
  /-- It is set or explicitly not set. -/
  | flag (on : Bool)
  /-- It states expressions, which mention the accounts `refs`. -/
  | expression (exprs : List Expr) (refs : List Nat)
  /-- It was not understood; its text mentions the accounts `refs`. -/
  | unresolved (refs : List Nat) (reason : String)
  deriving DecidableEq, Repr

namespace Resolved

def isUnknown : Resolved → Bool
  | unresolved _ _ => true
  | _ => false

def isTrue : Resolved → Bool
  | flag on => on
  | _ => false

/-- The accounts that an attribute names or mentions. -/
def refs : Resolved → List Nat
  | reference targets => targets
  | flag _ => []
  | expression _ refs => refs
  | unresolved refs _ => refs

def exprs : Resolved → List Expr
  | expression exprs _ => exprs
  | _ => []

def reason : Resolved → String
  | unresolved _ reason => reason
  | _ => ""

end Resolved

/-! ## Accounts and body events -/

/-- An account of a handler. -/
structure AccountFact where
  index : Nat
  name : String
  handler : String
  typeTag : String
  typeKind : String
  innerType : Option String
  isMut : Bool
  isSigner : Bool
  attributes : List (String × Resolved)
  location : Location
  deriving DecidableEq, Repr

namespace AccountFact

/-- The attribute of a kind. -/
def attr? (account : AccountFact) (kind : String) : Option Resolved :=
  account.attributes.lookup kind

def has (account : AccountFact) (kind : String) : Bool :=
  (account.attr? kind).isSome

/-- The kinds of the attributes that were not understood. -/
def unresolvedKinds (account : AccountFact) : List String :=
  (account.attributes.filter (·.2.isUnknown)).map Prod.fst

end AccountFact

/-- A condition that the body checks. -/
structure CheckFact where
  seq : Nat
  location : Location
  condition : Expr
  refs : List Nat
  paths : List String
  ops : List String
  unknown : Bool
  deriving DecidableEq, Repr

/-- The condition mentions all of these accounts. -/
def CheckFact.references (check : CheckFact) (indices : List Nat) : Bool :=
  indices.all check.refs.contains

/-- A plain call. -/
structure CallFact where
  seq : Nat
  location : Location
  func : String
  typeName : String
  args : List Expr
  refs : List Nat
  argRoots : List String
  deriving DecidableEq, Repr

/-- The name of the called function without the modules and values in front of it. -/
def CallFact.shortName (call : CallFact) : String :=
  String.ofList (Text.lastPiece ['.'] (Text.lastPiece [':', ':'] call.func.toList))

/-- A write to a field. -/
structure AssignFact where
  seq : Nat
  location : Location
  target : Expr
  value : Expr
  targetRef : Option Nat
  deriving DecidableEq, Repr

/-- Where the value of an arithmetic operand comes from. -/
inductive Provenance where
  | literal
  | accountField
  | parameter
  | local
  deriving DecidableEq, Repr

def Provenance.name : Provenance → String
  | literal => "literal"
  | accountField => "account_field"
  | parameter => "parameter"
  | «local» => "local"

structure Operand where
  expr : Expr
  provenance : Provenance
  ref : Option Nat := none
  deriving DecidableEq, Repr

/-- An arithmetic operation. `checked` tells that its method form cannot overflow, `guarded` that an
earlier check bounds all its operands. -/
structure ArithmeticSite where
  seq : Nat
  location : Location
  op : String
  operands : List Operand
  wrapper : Option String
  checked : Bool
  guarded : Bool
  deriving DecidableEq, Repr

def ArithmeticSite.hasNonLiteral (site : ArithmeticSite) : Bool :=
  site.operands.any (·.provenance != .literal)

/-- An invocation of another program. -/
structure InvokeSite where
  seq : Nat
  location : Location
  target : Expr
  isConstant : Bool
  targetRef : Option Nat
  signed : Bool
  deriving DecidableEq, Repr

/-! ## Handlers -/

structure HandlerFacts where
  name : String
  location : Location
  accounts : List AccountFact
  args : List (String × String)
  invokes : List InvokeSite := []
  arithmetic : List ArithmeticSite := []
  checks : List CheckFact := []
  calls : List CallFact := []
  assignments : List AssignFact := []
  deriving DecidableEq, Repr

namespace HandlerFacts

/-- The account at a position. -/
def account? (handler : HandlerFacts) (index : Nat) : Option AccountFact :=
  handler.accounts[index]?

/-- The account of a name. -/
def accountNamed? (handler : HandlerFacts) (name : String) : Option AccountFact :=
  handler.accounts.find? (·.name == name)

def signers (handler : HandlerFacts) : List AccountFact :=
  handler.accounts.filter (·.isSigner)

/-- Every `constraint` of the handler with the account that carries it. -/
def constraints (handler : HandlerFacts) : List (AccountFact × Resolved) :=
  handler.accounts.filterMap fun account =>
    (account.attr? "constraint").map fun value => (account, value)

/-- The checks in front of a position of the body. -/
def checksBefore (handler : HandlerFacts) (seq : Nat) : List CheckFact :=
  handler.checks.filter (·.seq < seq)

/-- The calls of functions with one of these short names. -/
def callsNamed (handler : HandlerFacts) (names : List String) : List CallFact :=
  handler.calls.filter fun call => names.contains call.shortName

end HandlerFacts

/-! ## Units -/

/-- An account data layout. -/
structure StructFact where
  name : String
  size : Option Int
  discriminator : Bool
  fields : List String
  deriving DecidableEq, Repr

/-- The facts of a program unit. `sizeGroups` holds, for each size that several layouts have, the
names of these layouts. -/
structure FactBase where
  unit : String
  file : String
  handlers : List HandlerFacts
  structs : List (String × StructFact)
  sizeGroups : List (Int × List String)
  diagnostics : List Finding
  deriving DecidableEq, Repr

namespace FactBase

def handler? (facts : FactBase) (name : String) : Option HandlerFacts :=
  facts.handlers.find? (·.name == name)

def struct? (facts : FactBase) (name : String) : Option StructFact :=
  facts.structs.lookup name

/-- The other layouts of the same size as a layout. -/
def collidingStructs (facts : FactBase) (name : String) : List String :=
  match (facts.struct? name).bind StructFact.size with
  | none => []
  | some size => ((facts.sizeGroups.lookup size).getD []).filter (· != name)

end FactBase

end AccountAudit
