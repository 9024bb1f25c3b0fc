import AccountAudit.Failure
import AccountAudit.Files.Entry
import AccountAudit.Files.Path
import AccountAudit.Text.Utf8

/-!
# File trees

The files that a program can see, and the folder that it works in, where paths start that have no
anchor. `..` leads to the folder that the last step was taken in, and at the root it leads nowhere
else. Not every path can be followed: none with a null character in it, and no path and no step that
is too long.
-/

namespace AccountAudit
namespace Files

/-- Why a file cannot be read or written. -/
inductive AccessFailure where
  | missing (path : Path)
  /-- A step of the path leads through a file. -/
  | notFolder (path : Path)
  | isFolder (path : Path)
  /-- The path, or a step of it, is too long. -/
  | tooLong (path : Path)
  /-- The path has a null character in it. -/
  | nullInside
  | undecodable (failure : Text.Utf8Failure)
  deriving DecidableEq, Repr

namespace AccessFailure

def kind : AccessFailure → String
  | missing _ => "FileNotFoundError"
  | notFolder _ => "NotADirectoryError"
  | isFolder _ => "IsADirectoryError"
  | tooLong _ => "OSError"
  | nullInside => "ValueError"
  | undecodable _ => "UnicodeDecodeError"

def message : AccessFailure → String
  | missing path => "[Errno 2] No such file or directory: " ++ Text.quote path.text
  | notFolder path => "[Errno 20] Not a directory: " ++ Text.quote path.text
  | isFolder path => "[Errno 21] Is a directory: " ++ Text.quote path.text
  | tooLong path => "[Errno 36] File name too long: " ++ Text.quote path.text
  | nullInside => "embedded null byte"
  | undecodable failure => failure.message

/-- A failure that nobody deals with. -/
def fault (failure : AccessFailure) : Fault :=
  { kind := failure.kind, message := failure.message }

end AccessFailure

/-- How many octets a step of a path may have. -/
def stepLimit : Nat := 255

/-- How many octets a path may have. -/
def pathLimit : Nat := 4095

structure Tree where
  root : Entry
  /-- The names that lead to the folder that the program works in. -/
  here : List String := []
  deriving Repr, Inhabited

namespace Tree

/-! ## Finding entries -/

/-- The steps of a path from the root. -/
def route (tree : Tree) (path : Path) : List String :=
  if path.anchor.isEmpty then tree.here ++ path.names else path.names

/-- Follows steps from an entry. The trail holds the steps so far, the last one first, each with the
folder that it was taken in. The result is the entry with the names that lead to it. -/
def walk (path : Path) (trail : List (String × Entry)) (entry : Entry) :
    List String → Except AccessFailure (List String × Entry)
  | [] => .ok ((trail.map Prod.fst).reverse, entry)
  | step :: rest =>
    match entry with
    | .file _ => .error (.notFolder path)
    | .folder entries =>
      if step = ".." then
        match trail with
        | [] => walk path [] entry rest
        | (_, outer) :: trail => walk path trail outer rest
      else if stepLimit < step.utf8ByteSize then .error (.tooLong path)
      else
        match entries.lookup step with
        | none => .error (.missing path)
        | some next => walk path ((step, entry) :: trail) next rest

/-- Why a path cannot be followed, whatever there is. -/
def obstacle? (path : Path) : Option AccessFailure :=
  if path.text.toList.contains '\x00' then some .nullInside
  else if pathLimit < path.text.utf8ByteSize then some (.tooLong path)
  else none

/-- The entry at a path, with the names that lead to it from the root. -/
def locate (tree : Tree) (path : Path) : Except AccessFailure (List String × Entry) :=
  match obstacle? path with
  | some failure => .error failure
  | none => walk path [] tree.root (tree.route path)

/-- The entry at a path. -/
def find (tree : Tree) (path : Path) : Except AccessFailure Entry :=
  (tree.locate path).map Prod.snd

/-- Something is at the path. -/
def has (tree : Tree) (path : Path) : Bool :=
  (tree.find path).isOk

/-! ## Text files -/

/-- The text of a file, with all line ends unified. -/
def readText (tree : Tree) (path : Path) : Except AccessFailure (List Char) :=
  match tree.find path with
  | .error failure => .error failure
  | .ok (.folder _) => .error (.isFolder path)
  | .ok (.file content) =>
    match Text.decodeUtf8 content with
    | .error failure => .error (.undecodable failure)
    | .ok text => .ok (Text.unifyLineFeeds text)

/-- The tree after a text has been written to a file. The folder of the file has to be there. -/
def writeText (tree : Tree) (path : Path) (text : String) : Except AccessFailure Tree :=
  match obstacle? path, path.names.getLast? with
  | some failure, _ => .error failure
  | none, none => .error (.isFolder path)
  | none, some name =>
    if name = ".." then .error (.isFolder path)
    else
      match walk path [] tree.root (tree.route path.parent) with
      | .error failure => .error failure
      | .ok (_, .file _) => .error (.notFolder path)
      | .ok (names, .folder entries) =>
        if stepLimit < name.utf8ByteSize then .error (.tooLong path)
        else
          match entries.lookup name with
          | some (.folder _) => .error (.isFolder path)
          | _ =>
            .ok { tree with root := tree.root.put (names ++ [name]) (.file text.toUTF8.toList) }

end Tree

end Files
end AccountAudit
