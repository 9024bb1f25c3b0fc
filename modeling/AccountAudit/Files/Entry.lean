import AccountAudit.Assoc

/-!
# Entries of a file tree

A file holds octets, a folder holds named entries. Names lead from a folder to what is in it, step by
step.
-/

namespace AccountAudit
namespace Files

inductive Entry where
  | file (content : List UInt8)
  | folder (entries : List (String × Entry))
  deriving Repr, Inhabited

namespace Entry

mutual

/-- The names that lead from an entry to the files in it. -/
def filesBelow : Entry → List (List String)
  | file _ => [[]]
  | folder entries => filesAmong entries

def filesAmong : List (String × Entry) → List (List String)
  | [] => []
  | (name, entry) :: rest => (filesBelow entry).map (name :: ·) ++ filesAmong rest

end

/-- Replaces what the names lead to; folders that are missing on the way are made. -/
def update (f : Option Entry → Entry) : List String → Option Entry → Entry
  | [], old => f old
  | name :: rest, old =>
    let entries := match old with
      | some (folder entries) => entries
      | _ => []
    folder (Assoc.adjust name (fun old => update f rest old) entries)

/-- An entry with another one at the end of the names. -/
def put (entry : Entry) (names : List String) (new : Entry) : Entry :=
  update (fun _ => new) names (some entry)

/-- An entry with a folder at the end of the names; one that is there stays as it is. -/
def putFolder (entry : Entry) (names : List String) : Entry :=
  update (fun old =>
    match old with
    | some (folder entries) => folder entries
    | _ => folder []) names (some entry)

end Entry

end Files
end AccountAudit
