import AccountAudit.Document.Format
import AccountAudit.Files.Tree

/-!
# Finding documents

The documents that paths stand for: a folder stands for all documents in it, however deep, and
anything else for itself, whether it is there or not. A file in a folder counts as a document by the
end of its name alone.
-/

namespace AccountAudit
namespace Document

open Files

/-- A name that ends like the name of a document. -/
def hasDocumentEnding (name : String) : Bool :=
  suffixes.any fun (suffix, _) => suffix.toList.isSuffixOf name.toList

/-- The documents in a folder, by the names that lead to them. -/
def documentsBelow (folder : Entry) : List (List String) :=
  folder.filesBelow.filter fun names => hasDocumentEnding (names.getLastD "")

/-- What one path stands for. -/
def expand (tree : Tree) (path : Path) : List Path :=
  match tree.find path with
  | .ok (.folder entries) =>
    (documentsBelow (.folder entries)).map fun names => { path with names := path.names ++ names }
  | _ => [path]

/-- What some paths stand for, in the order of paths and each path once. -/
def discover (tree : Tree) (paths : List Path) : List Path :=
  Path.distinctSorted (paths.flatMap (expand tree))

end Document
end AccountAudit
