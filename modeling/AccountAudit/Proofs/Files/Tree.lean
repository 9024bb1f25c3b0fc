import AccountAudit.Proofs.Files.Path
import AccountAudit.Proofs.Files.Walk

/-!
# Proper trees

A file tree is proper when whatever is in a folder is called as files can be called. All names that
are found below an entry of a proper tree are then names of files (`isName_of_mem_filesBelow`).

The last part says in which ways a file cannot be read, for any tree.
-/

namespace AccountAudit
namespace Files

/-- Everything in the entry is called as files can be called. -/
inductive Entry.Proper : Entry → Prop where
  | file (content : List UInt8) : Proper (.file content)
  | folder (entries : List (String × Entry))
      (names : ∀ name entry, (name, entry) ∈ entries → IsName name)
      (below : ∀ name entry, (name, entry) ∈ entries → Proper entry) : Proper (.folder entries)

/-- All files and folders are called as they can be. -/
def Tree.Proper (tree : Tree) : Prop :=
  tree.root.Proper

/-! ## Names and entries -/

namespace Entry

variable {entry found : Entry} {names : List String}

theorem Proper.of_forall {entries : List (String × Entry)}
    (h : ∀ held ∈ entries, IsName held.1 ∧ held.2.Proper) : (Entry.folder entries).Proper :=
  .folder entries (fun name entry held => (h (name, entry) held).1)
    (fun name entry held => (h (name, entry) held).2)

theorem Proper.leadsTo (proper : entry.Proper) (leads : entry.LeadsTo names found) :
    (∀ name ∈ names, IsName name) ∧ found.Proper := by
  refine leads.inherit (fun entries name next whole held => ?_) proper
  cases whole with
  | folder _ areNames below => exact ⟨areNames name next held, below name next held⟩

theorem Proper.isName_of_mem_filesBelow (proper : entry.Proper) (member : names ∈ entry.filesBelow) :
    ∀ name ∈ names, IsName name := by
  rcases mem_filesBelow_iff.1 member with ⟨content, leads⟩
  exact (proper.leadsTo leads).1

end Entry

namespace Tree

theorem Proper.find {tree : Tree} (proper : tree.Proper) {path : Path} {entry : Entry}
    (h : tree.find path = .ok entry) : entry.Proper := by
  rcases exists_leadsTo_of_find h with ⟨names, leads⟩
  exact (Entry.Proper.leadsTo proper leads).2

/-! ## Files that cannot be read -/

variable {tree : Tree} {path : Path}

theorem walk_eq_error {trail : List (String × Entry)} {entry : Entry} {steps : List String}
    {failure : AccessFailure} (h : walk path trail entry steps = .error failure) :
    failure = .notFolder path ∨ failure = .missing path ∨ failure = .tooLong path := by
  induction steps generalizing trail entry with
  | nil => cases h
  | cons step steps ih =>
    cases entry with
    | file content =>
      obtain rfl := Except.error.inj h
      exact .inl rfl
    | folder entries =>
      unfold walk at h
      dsimp only at h
      split at h
      · cases trail with
        | nil => exact ih h
        | cons last trail => exact ih h
      · split at h
        · obtain rfl := Except.error.inj h
          exact .inr (.inr rfl)
        · cases next : entries.lookup step with
          | none =>
            rw [next] at h
            obtain rfl := Except.error.inj h
            exact .inr (.inl rfl)
          | some entry =>
            rw [next] at h
            exact ih h

theorem obstacle?_eq_some {failure : AccessFailure} (h : obstacle? path = some failure) :
    failure = .nullInside ∧ '\x00' ∈ path.text.toList ∨ failure = .tooLong path := by
  unfold obstacle? at h
  split at h
  · rename_i null
    exact .inl ⟨(Option.some.inj h).symm, by simpa using null⟩
  · split at h
    · exact .inr (Option.some.inj h).symm
    · cases h

/-- What is missing, no folder or too long is the path that was asked for. -/
theorem find_eq_error {failure : AccessFailure} (h : tree.find path = .error failure) :
    failure = .nullInside ∧ '\x00' ∈ path.text.toList ∨
      failure = .notFolder path ∨ failure = .missing path ∨ failure = .tooLong path := by
  unfold find locate at h
  cases blocked : obstacle? path with
  | some other =>
    simp only [blocked, Except.map, Except.error.injEq] at h
    subst h
    rcases obstacle?_eq_some blocked with null | is
    · exact .inl null
    · exact .inr (.inr (.inr is))
  | none =>
    simp only [blocked] at h
    cases walked : walk path [] tree.root (tree.route path) with
    | ok found => simp [walked, Except.map] at h
    | error other =>
      simp only [walked, Except.map, Except.error.injEq] at h
      exact .inr (h ▸ walk_eq_error walked)

theorem find_eq_nullInside_iff :
    tree.find path = .error .nullInside ↔ '\x00' ∈ path.text.toList := by
  constructor
  · intro h
    rcases find_eq_error h with ⟨-, null⟩ | is | is | is
    · exact null
    all_goals cases is
  · intro null
    have blocked : obstacle? path = some .nullInside := by
      rw [obstacle?, if_pos (by simpa using null)]
    simp [find, locate, blocked, Except.map]

theorem readText_eq_error_iff {failure : AccessFailure} :
    tree.readText path = .error failure ↔
      tree.find path = .error failure ∨
      (∃ entries, tree.find path = .ok (.folder entries)) ∧ failure = .isFolder path ∨
      ∃ content issue, tree.find path = .ok (.file content) ∧
        Text.decodeUtf8 content = .error issue ∧ failure = .undecodable issue := by
  rw [readText]
  cases tree.find path with
  | error other => simp
  | ok entry =>
    cases entry with
    | folder entries => simp [eq_comm]
    | file content =>
      cases decoded : Text.decodeUtf8 content with
      | error issue => simp [decoded, eq_comm]
      | ok text => simp [decoded]

theorem readText_eq_nullInside_iff :
    tree.readText path = .error .nullInside ↔ '\x00' ∈ path.text.toList := by
  simp [readText_eq_error_iff, find_eq_nullInside_iff]

theorem readText_eq_tooLong_iff {other : Path} :
    tree.readText path = .error (.tooLong other) ↔
      other = path ∧ tree.find path = .error (.tooLong path) := by
  rw [readText_eq_error_iff]
  constructor
  · rintro (found | ⟨-, is⟩ | ⟨_, _, -, -, is⟩)
    · rcases find_eq_error found with ⟨is, -⟩ | is | is | is
      all_goals cases is
      exact ⟨rfl, found⟩
    all_goals cases is
  · rintro ⟨rfl, found⟩
    exact .inl found

/-- A file is undecodable if its octets are not UTF-8. -/
theorem readText_eq_undecodable_iff {issue : Text.Utf8Failure} :
    tree.readText path = .error (.undecodable issue) ↔
      ∃ content, tree.find path = .ok (.file content) ∧ Text.decodeUtf8 content = .error issue := by
  rw [readText_eq_error_iff]
  constructor
  · rintro (found | ⟨-, is⟩ | ⟨content, _, found, decoded, is⟩)
    · rcases find_eq_error found with ⟨is, -⟩ | is | is | is
      all_goals cases is
    · cases is
    · cases is
      exact ⟨content, found, decoded⟩
  · rintro ⟨content, found, decoded⟩
    exact .inr (.inr ⟨content, issue, found, decoded, rfl⟩)

end Tree
end Files
end AccountAudit
