import AccountAudit.Text.Basic

/-!
# Paths

How places in a file tree are named. Names that mean nothing (empty ones and `.`) are dropped when a
path is read, so that two spellings of one path are equal; `..` is kept, since what it means depends
on the tree. Paths are ordered name by name, not character by character.
-/

namespace AccountAudit
namespace Files

structure Path where
  /-- The slashes in front of a path that starts at the root of all files; else empty. -/
  anchor : String := ""
  names : List String
  deriving DecidableEq, Repr, Inhabited

namespace Path

/-- The slashes at the start of a text, as a path keeps them: two stay two, more are one. -/
def anchorOf (cs : List Char) : String :=
  match (cs.takeWhile (· == '/')).length with
  | 0 => ""
  | 2 => "//"
  | _ => "/"

/-- The path that a text writes. -/
def ofString (s : String) : Path :=
  { anchor := anchorOf s.toList
    names := (Text.splitString "/" s).filter fun name => name != "" && name != "." }

/-- The text of a path; the empty path is the place that one is at. -/
def text (p : Path) : String :=
  let written := p.anchor ++ "/".intercalate p.names
  if written.isEmpty then "." else written

/-- The steps of a path, of which the anchor is the first one. -/
def steps (p : Path) : List String :=
  if p.anchor.isEmpty then p.names else p.anchor :: p.names

/-- The path that leads from one place on along another path; one with an anchor starts anew. -/
def join (p next : Path) : Path :=
  if next.anchor.isEmpty then { p with names := p.names ++ next.names } else next

/-- The path without its last name. -/
def parent (p : Path) : Path :=
  { p with names := p.names.dropLast }

/-- The last name. -/
def name (p : Path) : String :=
  p.names.getLastD ""

/-- What a name ends with from its last point on; nothing if the point is its first or its last
character. -/
def suffixOf (name : List Char) : List Char :=
  let ending := (name.reverse.takeWhile (· != '.')).reverse
  if ending.isEmpty || name.length ≤ ending.length + 1 then [] else '.' :: ending

/-- The ending that tells the format of a file. -/
def suffix (p : Path) : String :=
  String.ofList (suffixOf p.name.toList)

/-- The order of paths. -/
def precedes (p q : Path) : Bool :=
  p.steps < q.steps || p.steps == q.steps

/-- Paths in their order, each once. -/
def distinctSorted (paths : List Path) : List Path :=
  paths.eraseDups.mergeSort precedes

end Path

end Files
end AccountAudit
