import AccountAudit.Expr.Basic
import AccountAudit.Program.TypeTag

/-!
# Program units

A program unit is one compiled module of an analysed program: its instruction handlers with the
accounts they take and what they do, the account data layouts that it declares, and its source text.

A span never ends before it starts, a handler never declares two accounts of one name, and a unit
never declares two handlers of one name; these facts are part of the types.
-/

namespace AccountAudit

/-- A range of offsets in a source file; an empty file name means the file of the unit. -/
structure Span where
  start : Nat
  stop : Nat
  file : String := ""
  start_le_stop : start ≤ stop := by omega
  deriving DecidableEq, Repr

/-- The range of some length at an offset in the file of the unit. -/
def Span.ofLength (start length : Nat) : Span :=
  { start, stop := start + length, start_le_stop := Nat.le_add_right start length }

/-- An account that a handler takes. -/
structure Account where
  name : String
  typeTag : String
  isMut : Bool := false
  attributes : List (String × Value) := []
  span : Span
  deriving DecidableEq, Repr

/-- A value that the caller of an instruction supplies. -/
structure Argument where
  name : String
  typeTag : String := ""
  deriving DecidableEq, Repr

/-- What a node of a handler's body does. -/
inductive Action where
  /-- Arithmetic; `wrapper` names a method form such as `checked_sub`. -/
  | arith (op : String) (lhs rhs : Expr) (wrapper : Option String)
  /-- An invocation of another program. -/
  | invoke (program : Expr) (signed : Bool)
  /-- A write to a field. -/
  | assign (target value : Expr)
  /-- A condition without which the handler fails. -/
  | check (condition : Expr)
  /-- A plain call; `typeName` is the receiver of `T::func(..)`. -/
  | call (func typeName : String) (args : List Expr)
  deriving DecidableEq, Repr

/-- A node of a handler's body. -/
structure BodyNode where
  span : Span
  action : Action
  deriving DecidableEq, Repr

/-- An instruction handler. -/
structure Handler where
  name : String
  span : Span
  params : List Account := []
  args : List Argument := []
  body : List BodyNode := []
  params_distinct : (params.map Account.name).Nodup := by decide
  deriving DecidableEq, Repr

/-- A field of an account data layout. -/
structure FieldDecl where
  name : String
  typeTag : String
  deriving DecidableEq, Repr

/-- An account data layout. -/
structure StructDecl where
  name : String
  fields : List FieldDecl := []
  size : Option Int := none
  discriminator : Bool := false
  span : Option Span := none
  deriving DecidableEq, Repr

/-- A compiled module. -/
structure ProgramUnit where
  name : String
  file : String
  programId : String := ""
  source : String := ""
  sources : List (String × String) := []
  handlers : List Handler := []
  structs : List StructDecl := []
  handlers_distinct : (handlers.map Handler.name).Nodup := by decide
  deriving DecidableEq, Repr

namespace Account

def typeKind (account : Account) : String :=
  TypeTag.typeKind account.typeTag

def innerType? (account : Account) : Option String :=
  TypeTag.innerType? account.typeTag

end Account

namespace StructDecl

/-- The bytes of all fields together, if each has a fixed size. -/
def fieldSizes : List FieldDecl → Except DigitExcess (Option Nat)
  | [] => .ok (some 0)
  | field :: rest => do
    match ← TypeTag.serializedSize? field.typeTag with
    | none => pure none
    | some size => pure ((← fieldSizes rest).map (size + ·))

/-- The bytes of a discriminator. -/
def discriminatorSize : Nat := 8

/-- The bytes of the layout: those that it declares, or those of its fields and discriminator. -/
def serializedSize? (decl : StructDecl) : Except DigitExcess (Option Int) :=
  match decl.size with
  | some size => .ok (some size)
  | none =>
    (fieldSizes decl.fields).map fun size? =>
      size?.map fun size =>
        (if decl.discriminator then discriminatorSize else 0) + (size : Int)

end StructDecl

namespace ProgramUnit

/-- The source text of a file, empty if it is not known. -/
def sourceFor (u : ProgramUnit) (file : String) : String :=
  if file == u.file && !u.source.isEmpty then u.source
  else (u.sources.lookup file).getD ""

/-- The files that the unit is made of. -/
def files (u : ProgramUnit) : List String :=
  Text.distinctSorted (u.file :: u.sources.map Prod.fst)

/-- The line of an offset in a file, if the file's text is known. -/
def lineOf? (u : ProgramUnit) (file : String) (offset : Int) : Option Nat :=
  let source := u.sourceFor file
  if source.isEmpty then none else some (Text.lineOf source.toList offset)

end ProgramUnit

end AccountAudit
