import AccountAudit.Document.Loading
import AccountAudit.Proofs.Document.Discovery

/-!
# What is found and what can be loaded

A file in a folder is found by the end of its name, while the format of a document is told by the
ending of its path. The two are not the same: a name that is nothing but an ending, such as `.json`,
ends like the name of a document, and has no ending itself (`hasDocumentEnding_iff`).

The main statement `discovery_agrees_iff` says that these names are all that stands between finding
and loading documents. The files below a folder are those that names lead to, whatever is searched for
(`IsFileBelow`); in an orderly tree they are what is found at their paths (`exists_file_of_mem_discover`).
-/

namespace AccountAudit
namespace Document

open Files

variable {tree : Tree} {path : Path} {folders : List Path}

/-! ## Endings -/

/-- The endings of documents. -/
def endings : List String :=
  suffixes.map Prod.fst

/-- The ending of the path is that of a document. -/
def IsSupported (path : Path) : Prop :=
  path.suffix ∈ endings

/-- The name is an ending of documents with nothing in front of it. -/
def IsBare (path : Path) : Prop :=
  path.name ∈ endings

theorem exists_letters {ending : String} (member : ending ∈ endings) :
    ∃ letters, ending.toList = '.' :: letters ∧ letters ≠ [] ∧ '.' ∉ letters := by
  have pointed : ∀ ending ∈ endings, ending.toList = '.' :: ending.toList.tail ∧
      ending.toList.tail ≠ [] ∧ '.' ∉ ending.toList.tail := by decide
  exact ⟨_, pointed ending member⟩

theorem suffix_eq_ending_iff {ending : String} (member : ending ∈ endings) :
    path.suffix = ending ↔ path.name ≠ ending ∧ ending.toList <:+ path.name.toList := by
  rcases exists_letters member with ⟨letters, pointed, nonempty, pointless⟩
  exact Path.suffix_eq_iff pointed nonempty pointless

/-- A name that ends like that of a document has the ending of one, or is one. -/
theorem hasDocumentEnding_iff : hasDocumentEnding path.name = true ↔ IsSupported path ∨ IsBare path := by
  have ends : hasDocumentEnding path.name = true ↔
      ∃ ending ∈ endings, ending.toList <:+ path.name.toList := by
    simp [hasDocumentEnding, endings]
  rw [ends]
  constructor
  · rintro ⟨ending, member, isSuffix⟩
    by_cases bare : path.name = ending
    · subst bare
      exact .inr member
    · have is := (suffix_eq_ending_iff member).2 ⟨bare, isSuffix⟩
      subst is
      exact .inl member
  · rintro (supported | bare)
    · exact ⟨_, supported, ((suffix_eq_ending_iff supported).1 rfl).2⟩
    · exact ⟨_, bare, List.suffix_rfl⟩

theorem IsBare.not_isSupported (bare : IsBare path) : ¬ IsSupported path := by
  have suffixless : ∀ ending ∈ endings, String.ofList (Path.suffixOf ending.toList) ∉ endings := by
    decide
  exact suffixless path.name bare

theorem ofSuffix?_eq_none_iff : Format.ofSuffix? path.suffix = none ↔ ¬ IsSupported path := by
  simp only [Format.ofSuffix?, List.lookup_eq_none_iff, IsSupported, endings, List.mem_map,
    bne_iff_ne, not_exists, not_and, ne_comm]

/-! ## Documents of no format -/

/-- What is said of a path that has not the ending of a document. -/
def unsupportedReason (path : Path) : String :=
  "unsupported IR format " ++ Text.quote path.suffix

/-- The path is not loaded, and the reason is its ending. -/
def IsRejected (tree : Tree) (path : Path) : Prop :=
  load tree path = unparseable path (unsupportedReason path)

theorem head?_append {start : String} {c : Char} (first : start.toList.head? = some c)
    (rest : String) : (start ++ rest).toList.head? = some c := by
  rw [String.toList_append, List.head?_append, first]
  rfl

theorem head?_unsupportedReason (path : Path) :
    (unsupportedReason path).toList.head? = some 'u' := by
  have first : "unsupported IR format ".toList.head? = some 'u' := by simp
  exact head?_append first (Text.quote path.suffix)

/-- The number of issues comes first. -/
theorem head?_issuesReason (issues : Schema.Issues) :
    (ProgramUnit.issuesReason issues).toList.head? ≠ some 'u' := by
  have digits : (toString issues.count).toList = Nat.toDigits 10 issues.count := Nat.toList_repr
  rcases List.exists_cons_of_ne_nil (Nat.toDigits_ne_nil (n := issues.count) (b := 10)) with
    ⟨first, rest, is⟩
  have digit : first.isDigit = true :=
    Nat.isDigit_of_mem_toDigits (by decide) (by decide) (is ▸ List.mem_cons_self)
  simp only [ProgramUnit.issuesReason, String.toList_append, digits, is, List.cons_append,
    List.head?_cons, ne_eq, Option.some.injEq]
  rintro rfl
  cases digit

theorem head?_of_readValue (supported : IsSupported path) {reason : String}
    (refused : readValue tree path = unparseable path reason) :
    reason.toList.head? ≠ some 'u' := by
  obtain ⟨format, known⟩ : ∃ format, Format.ofSuffix? path.suffix = some format :=
    Option.ne_none_iff_exists'.1 fun none => ofSuffix?_eq_none_iff.1 none supported
  unfold readValue at refused
  rw [known] at refused
  dsimp only at refused
  -- A fault is no refusal; the other failures tell that the file cannot be read, or is malformed.
  split at refused
  · cases refused
  · cases refused
    simp
  · split at refused
    · cases refused
    · cases refused
      simp
    · cases refused

theorem head?_of_ofDocument {document : Value} {origin reason : String}
    (refused : ProgramUnit.ofDocument document origin = .error (.unparseable origin reason)) :
    reason.toList.head? ≠ some 'u' := by
  unfold ProgramUnit.ofDocument at refused
  split at refused
  · split at refused
    · cases refused
    · cases refused
      exact head?_issuesReason _
  · cases refused
    decide

theorem load_eq_unparseable {reason : String} (refused : load tree path = unparseable path reason) :
    readValue tree path = unparseable path reason ∨
      ∃ document, ProgramUnit.ofDocument document path.text = .error (.unparseable path.text reason) := by
  unfold load at refused
  split at refused
  · rename_i mishap read
    cases refused
    exact .inl read
  · split at refused
    · cases refused
    · rename_i document completed
      split at refused
      · cases refused
      · rename_i failure made
        cases refused
        exact .inr ⟨document, made⟩

theorem readValue_of_not_isSupported (unsupported : ¬ IsSupported path) :
    readValue tree path = unparseable path (unsupportedReason path) := by
  rw [readValue, ofSuffix?_eq_none_iff.2 unsupported]
  rfl

/-- A path is rejected for its ending, and for nothing else in the words of such a rejection. -/
theorem isRejected_iff : IsRejected tree path ↔ ¬ IsSupported path := by
  constructor
  · intro rejected supported
    -- The other reasons start with another letter.
    have other : (unsupportedReason path).toList.head? ≠ some 'u' := by
      rcases load_eq_unparseable rejected with refused | ⟨document, refused⟩
      · exact head?_of_readValue supported refused
      · exact head?_of_ofDocument refused
    exact other (head?_unsupportedReason path)
  · intro unsupported
    rw [IsRejected, load, readValue_of_not_isSupported unsupported]
    rfl

/-! ## Files below folders -/

/-- There is a folder at each of the paths. -/
def AreFolders (tree : Tree) (folders : List Path) : Prop :=
  ∀ given ∈ folders, ∃ entries, tree.find given = .ok (.folder entries)

/-- The path goes on from one of the folders down to a file. -/
def IsFileBelow (tree : Tree) (folders : List Path) (path : Path) : Prop :=
  ∃ given ∈ folders, ∃ entries names content, tree.find given = .ok (.folder entries) ∧
    (Entry.folder entries).LeadsTo names (.file content) ∧ path = given.join { names }

theorem name_join {given : Path} {entries : List (String × Entry)} {names : List String}
    {content : List UInt8} (leads : (Entry.folder entries).LeadsTo names (.file content)) :
    (given.join { names }).name = names.getLastD "" := by
  cases leads with
  | inside held below => simp [Path.join, Path.name, List.getLast?_cons]

theorem mem_expand_iff {given : Path} {entries : List (String × Entry)}
    (found : tree.find given = .ok (.folder entries)) :
    path ∈ expand tree given ↔ hasDocumentEnding path.name = true ∧ ∃ names content,
      (Entry.folder entries).LeadsTo names (.file content) ∧ path = given.join { names } := by
  simp only [expand, found, documentsBelow, List.mem_map, List.mem_filter, Entry.mem_filesBelow_iff]
  constructor
  · rintro ⟨names, ⟨⟨content, leads⟩, ending⟩, rfl⟩
    rw [← name_join leads] at ending
    exact ⟨ending, names, content, leads, rfl⟩
  · rintro ⟨ending, names, content, leads, rfl⟩
    rw [name_join leads] at ending
    exact ⟨names, ⟨⟨content, leads⟩, ending⟩, rfl⟩

/-- What is found below folders are the files that are called like documents. -/
theorem mem_discover_iff (areFolders : AreFolders tree folders) :
    path ∈ discover tree folders ↔ IsFileBelow tree folders path ∧ hasDocumentEnding path.name = true := by
  rw [mem_discover]
  constructor
  · rintro ⟨given, inside, member⟩
    rcases areFolders given inside with ⟨entries, found⟩
    rcases (mem_expand_iff found).1 member with ⟨ending, names, content, leads, is⟩
    exact ⟨⟨given, inside, entries, names, content, found, leads, is⟩, ending⟩
  · rintro ⟨⟨given, inside, entries, names, content, found, leads, is⟩, ending⟩
    exact ⟨given, inside, (mem_expand_iff found).2 ⟨ending, names, content, leads, is⟩⟩

/-- What is found below the folders of an orderly tree are files, if it can be asked for. -/
theorem exists_file_of_mem_discover (orderly : tree.root.Orderly)
    (areFolders : AreFolders tree folders) (member : path ∈ discover tree folders)
    (followed : Tree.obstacle? path = none) : ∃ content, tree.find path = .ok (.file content) := by
  rcases (mem_discover_iff areFolders).1 member with
    ⟨⟨given, -, entries, names, content, found, leads, rfl⟩, -⟩
  exact ⟨content, ((Tree.leadsTo_iff_find orderly found followed).1 leads).2⟩

/-! ## Agreement -/

/-- The files that are found below some folders are, in strict order, those that are loaded by their
endings. -/
structure Agrees (tree : Tree) (folders : List Path) : Prop where
  ascending : (discover tree folders).Pairwise fun p q => p.steps < q.steps
  mem_iff : ∀ path, IsFileBelow tree folders path →
    (path ∈ discover tree folders ↔ IsSupported path)
  accepted : ∀ path ∈ discover tree folders, ¬ IsRejected tree path

/-- **Finding and loading.** The files that are found below some folders, in strict order, are those
with the ending of a document and those that are called like an ending. The latter are rejected for
their endings, so finding agrees with loading exactly if no file below the folders is called so. -/
theorem discovery_agrees_iff (proper : tree.Proper) {texts : List String}
    (areFolders : AreFolders tree (texts.map Path.ofString)) :
    let folders := texts.map Path.ofString
    (discover tree folders).Pairwise (fun p q => p.steps < q.steps) ∧
    (∀ path, path ∈ discover tree folders ↔
      IsFileBelow tree folders path ∧ (IsSupported path ∨ IsBare path)) ∧
    (∀ path ∈ discover tree folders, IsRejected tree path ↔ IsBare path) ∧
    (Agrees tree folders ↔ ∀ path, IsFileBelow tree folders path → ¬ IsBare path) := by
  intro folders
  have written : ∀ given ∈ folders, given.Proper := by
    intro given member
    rcases List.mem_map.1 member with ⟨text, -, rfl⟩
    exact Path.proper_ofString text
  have ascending := ascending_discover proper written
  have members : ∀ path, path ∈ discover tree folders ↔
      IsFileBelow tree folders path ∧ (IsSupported path ∨ IsBare path) := by
    intro path
    rw [mem_discover_iff areFolders, hasDocumentEnding_iff]
  have rejected : ∀ path ∈ discover tree folders, IsRejected tree path ↔ IsBare path := by
    intro path member
    rw [isRejected_iff]
    exact ⟨((members path).1 member).2.resolve_left, IsBare.not_isSupported⟩
  refine ⟨ascending, members, rejected, fun agrees path below bare => ?_, fun none => ?_⟩
  · have found := (members path).2 ⟨below, .inr bare⟩
    exact bare.not_isSupported ((agrees.mem_iff path below).1 found)
  · refine ⟨ascending, fun path below => ?_, fun path member => ?_⟩
    · rw [members path, and_iff_right below, or_iff_left (none path below)]
    · rw [rejected path member]
      exact none path ((members path).1 member).1

/-! ### Files that are called like endings -/

/-- A folder with a file that has no name but an ending, and with a folder that is called like a
document. -/
def cabinet : Tree :=
  { root := .folder [("ir", .folder
      [(".json", .file []), ("old.json", .folder [("vault.yml", .file [])])])] }

theorem proper_cabinet : cabinet.Proper := by
  have old : (Entry.folder [("vault.yml", .file [])]).Proper :=
    .of_forall (List.forall_mem_singleton.2 ⟨by decide, .file []⟩)
  have ir : (Entry.folder [(".json", .file []), ("old.json",
      .folder [("vault.yml", .file [])])]).Proper :=
    .of_forall (List.forall_mem_cons.2
      ⟨⟨by decide, .file []⟩, List.forall_mem_singleton.2 ⟨by decide, old⟩⟩)
  exact .of_forall (List.forall_mem_singleton.2 ⟨by decide, ir⟩)

/-- In the inner folder all files have other names, so finding agrees with loading there. -/
theorem discovery_agrees_iff_cabinet :
    cabinet.Proper ∧ AreFolders cabinet (["ir", "ir/old.json"].map .ofString) ∧
    AreFolders cabinet (["ir/old.json"].map .ofString) ∧
    ¬ Agrees cabinet (["ir", "ir/old.json"].map .ofString) ∧
    Agrees cabinet (["ir/old.json"].map .ofString) := by
  have old : cabinet.find (.ofString "ir/old.json") =
      .ok (.folder [("vault.yml", .file [])]) := rfl
  have inner : AreFolders cabinet (["ir/old.json"].map .ofString) :=
    List.forall_mem_singleton.2 ⟨_, old⟩
  have outer : AreFolders cabinet (["ir", "ir/old.json"].map .ofString) :=
    List.forall_mem_cons.2 ⟨⟨_, rfl⟩, inner⟩
  refine ⟨proper_cabinet, outer, inner, fun agrees => ?_, ?_⟩
  · have below : IsFileBelow cabinet (["ir", "ir/old.json"].map .ofString) (.ofString "ir/.json") :=
      ⟨_, List.mem_cons_self, _, [".json"], [], rfl,
        .inside List.mem_cons_self (.here _), by decide⟩
    exact (discovery_agrees_iff proper_cabinet outer).2.2.2.1 agrees _ below
      (by unfold IsBare; decide)
  · refine (discovery_agrees_iff proper_cabinet inner).2.2.2.2 ?_
    rintro path ⟨given, member, entries, names, content, found, leads, rfl⟩ bare
    obtain rfl := List.mem_singleton.1 member
    rw [old] at found
    cases found
    -- There is one file in the folder.
    cases leads with
    | inside held below =>
      obtain ⟨rfl, rfl⟩ := Prod.mk.inj (List.mem_singleton.1 held)
      cases below
      revert bare
      unfold IsBare
      decide

/-- A folder with nothing but such a file. -/
def drawer : Tree :=
  { root := .folder [(".json", .file [])] }

theorem drawer_disagrees :
    .ofString ".json" ∈ discover drawer [.ofString "."] ∧
    load drawer (.ofString ".json") =
      .error (.failure (.unparseable ".json" "unsupported IR format ''")) ∧
    ¬ Agrees drawer [.ofString "."] := by
  have found : .ofString ".json" ∈ discover drawer [.ofString "."] :=
    mem_discover.2 ⟨_, List.mem_singleton_self _, by decide⟩
  have rejected : IsRejected drawer (.ofString ".json") :=
    isRejected_iff.2 (by unfold IsSupported; decide)
  refine ⟨found, ?_, fun agrees => agrees.accepted _ found rejected⟩
  rw [rejected]
  rfl

end Document
end AccountAudit
