import AccountAudit.Document.Discovery
import AccountAudit.Program.Document

/-!
# Loading documents

A program unit from a document of a file tree. A document that does not hold the text of the program
may name the file that does, seen from the folder of the document; without that file the unit has no
text. What the document holds is looked at before it is known to describe a unit, so loading can fail
in ways that are not said to be about the unit.
-/

namespace AccountAudit
namespace Document

open Files

/-- No unit can be built from a path. -/
def unparseable {α : Type} (path : Path) (reason : String) : Except Mishap α :=
  .error (.failure (.unparseable path.text reason))

/-- The value that a document holds. -/
def readValue (tree : Tree) (path : Path) : Except Mishap Value :=
  match Format.ofSuffix? path.suffix with
  | none => unparseable path ("unsupported IR format " ++ Text.quote path.suffix)
  | some format =>
    match tree.readText path with
    | .error .nullInside => .error (.fault AccessFailure.nullInside.fault)
    | .error failure => unparseable path ("cannot read file: " ++ failure.message)
    | .ok text =>
      match decode format text with
      | .ok v => .ok v
      | .error (.malformed message) => unparseable path ("malformed document: " ++ message)
      | .error (.integer failure) =>
        .error (.fault { kind := "ValueError", message := failure.message })

/-- The document names the file of its program by something that is not a text. -/
def nameFault (name : Value) : Fault :=
  { kind := "TypeError"
    message := "unsupported operand type(s) for /: 'PosixPath' and '" ++ name.typeName ++ "'" }

/-- The path of the program that a document names without holding its text. -/
def programPath? (path : Path) (document : Value) : Except Fault (Option Path) :=
  if (document.field? "source").any Value.isGiven then .ok none
  else
    match document.field? "file" with
    | none => .ok none
    | some name =>
      if name.isGiven then
        match name with
        | .text name => .ok (some (path.parent.join (.ofString name)))
        | _ => .error (nameFault name)
      else .ok none

/-- The document together with the text of its program, if that can be read. -/
def withProgram (tree : Tree) (program : Option Path) (document : Value) : Except Fault Value :=
  match program, document with
  | some program, .table entries =>
    match tree.readText program with
    | .ok text => .ok (.table (Value.put (.text "source") (.text (String.ofList text)) entries))
    -- Of a path that is too long it cannot be told whether a file is there.
    | .error (.tooLong path) => .error (AccessFailure.tooLong path).fault
    | .error _ => .ok document
  | _, _ => .ok document

/-- The document at a path together with the text of the program that it names. -/
def complete (tree : Tree) (path : Path) (document : Value) : Except Fault Value :=
  match programPath? path document with
  | .error fault => .error fault
  | .ok program => withProgram tree program document

/-- The unit that the document at a path describes. -/
def load (tree : Tree) (path : Path) : Except Mishap ProgramUnit :=
  match readValue tree path with
  | .error mishap => .error mishap
  | .ok document =>
    match complete tree path document with
    | .error fault => .error (.fault fault)
    | .ok document =>
      match ProgramUnit.ofDocument document path.text with
      | .ok u => .ok u
      | .error f => .error (.failure f)

/-- The files of programs that the documents at some paths name. -/
def programPaths (tree : Tree) (documents : List Path) : List Path :=
  documents.filterMap fun path =>
    match readValue tree path with
    | .error _ => none
    | .ok document => ((programPath? path document).toOption).join

end Document
end AccountAudit
