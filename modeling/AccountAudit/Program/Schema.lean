import AccountAudit.Expr.Schema
import AccountAudit.Program.Basic
import AccountAudit.Schema.Number
import AccountAudit.Text.Quoted

/-!
# Program units in documents

How a document describes a program unit. The fields of a table are read in their order and all
issues are kept; rules that join fields (the order of a span's ends, distinct names) are looked at
only when the fields themselves have no issue.
-/

namespace AccountAudit

open Schema

/-! ## Distinct names -/

/-- The first name that stands in the list for the second time; `seen` holds the names so far. -/
def firstRepeatedFrom (seen : List String) : List String → Option String
  | [] => none
  | name :: rest => if name ∈ seen then some name else firstRepeatedFrom (name :: seen) rest

def firstRepeated? (names : List String) : Option String :=
  firstRepeatedFrom [] names

theorem nodup_of_firstRepeatedFrom {seen names : List String}
    (h : firstRepeatedFrom seen names = none) : names.Nodup ∧ ∀ name ∈ names, name ∉ seen := by
  induction names generalizing seen with
  | nil => simp
  | cons name rest ih =>
    simp only [firstRepeatedFrom] at h
    split at h
    · simp at h
    · rename_i new
      obtain ⟨distinct, apart⟩ := ih h
      refine ⟨List.nodup_cons.2 ⟨fun inside => apart name inside (by simp), distinct⟩, ?_⟩
      intro other member
      rcases List.mem_cons.1 member with rfl | member
      · exact new
      · exact fun inside => apart other member (List.mem_cons_of_mem _ inside)

theorem nodup_of_firstRepeated? {names : List String} (h : firstRepeated? names = none) :
    names.Nodup :=
  (nodup_of_firstRepeatedFrom h).1

/-! ## Parts of a unit -/

namespace Span

def ofEnds (v : Value) (start stop : Nat) (file : String) : Checked Span :=
  if ordered : start ≤ stop then .ok { start, stop, file, start_le_stop := ordered }
  else
    refuse (.rule ("span end " ++ toString stop ++ " precedes start " ++ toString start)) v

def read : Value → Checked Span :=
  record "Span" fun v =>
    ((required "start" natural v).and
      (required "end" natural v) |>.and
      (withDefault "file" "" text v)).bind
      fun ((start, stop), file) => ofEnds v start stop file

end Span

/-- A type tag, which may also be written under the shorter name `type`. -/
def requiredTypeTag (table : Value) : Checked String :=
  required (writtenName "type_tag" "type" table) text table

namespace Account

def read : Value → Checked Account :=
  record "AccountParam" fun v =>
    (required "name" text v).and
      (requiredTypeTag v) |>.and
      (withDefault "mut" false flag v) |>.and
      (withDefault "attributes" [] (entries anything) v) |>.and
      (required "span" Span.read v) |>.map
      fun ((((name, typeTag), isMut), attributes), span) =>
        { name, typeTag, isMut, attributes, span }

end Account

namespace Argument

def read : Value → Checked Argument :=
  record "InstructionArg" fun v =>
    (required "name" text v).and
      (withDefault (writtenName "type_tag" "type" v) "" text v) |>.map
      fun (name, typeTag) => { name, typeTag }

end Argument

/-! ## Body nodes -/

namespace BodyNode

/-- The node of each tag, read from a table whose tag is known. -/
def readers : List (String × (Value → Checked BodyNode)) :=
  [("arith", fun v =>
      (required "span" Span.read v).and
        (required "op" text v) |>.and
        (required "lhs" Expr.read v) |>.and
        (required "rhs" Expr.read v) |>.and
        (withDefault "wrapper" none (nullable text) v) |>.map
        fun ((((span, op), lhs), rhs), wrapper) => ⟨span, .arith op lhs rhs wrapper⟩),
    ("cpi", fun v =>
      (required "span" Span.read v).and
        (required "program" Expr.read v) |>.and
        (withDefault "signed" false flag v) |>.map
        fun ((span, program), signed) => ⟨span, .invoke program signed⟩),
    ("assign", fun v =>
      (required "span" Span.read v).and
        (required "target" Expr.read v) |>.and
        (required "value" Expr.read v) |>.map
        fun ((span, target), value) => ⟨span, .assign target value⟩),
    ("check", fun v =>
      (required "span" Span.read v).and
        (required "condition" Expr.read v) |>.map
        fun (span, condition) => ⟨span, .check condition⟩),
    ("call", fun v =>
      (required "span" Span.read v).and
        (required "func" text v) |>.and
        (withDefault "type_name" "" text v) |>.and
        (withDefault "args" [] (tuple Expr.read) v) |>.map
        fun (((span, func), typeName), args) => ⟨span, .call func typeName args⟩)]

/-- A body node; its field `kind` tells which. -/
def read (v : Value) : Checked BodyNode :=
  match v with
  | .table _ =>
    match v.field? "kind" with
    | none => refuse (.noTag "kind") v
    | some tag =>
      match readers.find? fun (name, _) => tag = .text name with
      | some (name, reader) => (reader v).within (.entry name)
      | none => refuse (.unknownTag tag.plain "kind" (readers.map Prod.fst)) v
  | _ => refuse .notFields v

end BodyNode

/-! ## Handlers, layouts and units -/

namespace Handler

def ofParts (v : Value) (name : String) (span : Span) (params : List Account)
    (args : List Argument) (body : List BodyNode) : Checked Handler :=
  match repeated : firstRepeated? (params.map Account.name) with
  | none =>
    .ok
      { name, span, params, args, body
        params_distinct := nodup_of_firstRepeated? repeated }
  | some twice =>
    refuse (.rule ("handler " ++ Text.quote name ++ " declares account " ++ Text.quote twice ++
      " twice")) v

def read : Value → Checked Handler :=
  record "InstructionHandler" fun v =>
    ((required "name" text v).and
      (required "span" Span.read v) |>.and
      (withDefault "params" [] (tuple Account.read) v) |>.and
      (withDefault "args" [] (tuple Argument.read) v) |>.and
      (withDefault "body" [] (tuple BodyNode.read) v)).bind
      fun ((((name, span), params), args), body) => ofParts v name span params args body

end Handler

namespace FieldDecl

def read : Value → Checked FieldDecl :=
  record "StructField" fun v =>
    (required "name" text v).and
      (requiredTypeTag v) |>.map
      fun (name, typeTag) => { name, typeTag }

end FieldDecl

namespace StructDecl

def read : Value → Checked StructDecl :=
  record "StructDecl" fun v =>
    (required "name" text v).and
      (withDefault "fields" [] (tuple FieldDecl.read) v) |>.and
      (withDefault "size" none (nullable integer) v) |>.and
      (withDefault "discriminator" false flag v) |>.and
      (withDefault "span" none (nullable Span.read) v) |>.map
      fun ((((name, fields), size), discriminator), span) =>
        { name, fields, size, discriminator, span }

end StructDecl

namespace ProgramUnit

/-- What a unit consists of, when its handlers have distinct names. -/
def ofParts (v : Value) (name file programId source : String) (sources : List (String × String))
    (handlers : List Handler) (structs : List StructDecl) : Checked ProgramUnit :=
  match repeated : firstRepeated? (handlers.map Handler.name) with
  | none =>
    .ok
      { name, file, programId, source, sources, handlers, structs
        handlers_distinct := nodup_of_firstRepeated? repeated }
  | some twice =>
    refuse (.rule ("unit " ++ Text.quote name ++ " declares handler " ++ Text.quote twice ++
      " twice")) v

def read : Value → Checked ProgramUnit :=
  record "ProgramUnit" fun v =>
    ((required "name" text v).and
      (required "file" text v) |>.and
      (withDefault "program_id" "" text v) |>.and
      (withDefault "source" "" text v) |>.and
      (withDefault "sources" [] (entries text) v) |>.and
      (withDefault "handlers" [] (tuple Handler.read) v) |>.and
      (withDefault "structs" [] (tuple StructDecl.read) v)).bind
      fun ((((((name, file), programId), source), sources), handlers), structs) =>
        ofParts v name file programId source sources handlers structs

end ProgramUnit

end AccountAudit
