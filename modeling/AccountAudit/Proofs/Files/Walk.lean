import AccountAudit.Files.Tree
import AccountAudit.Proofs.Assoc

/-!
# Walks through a file tree

What is below an entry is said by `Entry.LeadsTo`, which searches for nothing: names lead from the
entry to another one, each from a folder to what the folder holds. The files that are listed below an
entry are those that names lead to (`mem_filesBelow_iff`).

To follow a path is to take one step after the other (`Takes`, `Walks`), and what is found at the end
is what the names lead to that are told of it (`leadsTo_of_locate`). In an orderly tree, names lead
from a folder to what is found when the path of the folder goes on with them (`leadsTo_iff_find`).
-/

namespace AccountAudit
namespace Files

/-! ## Names that lead down -/

namespace Entry

/-- The names lead from one entry down to another one. -/
inductive LeadsTo : Entry → List String → Entry → Prop where
  | here (entry : Entry) : LeadsTo entry [] entry
  | inside {entries : List (String × Entry)} {name : String} {next found : Entry}
      {names : List String} (held : (name, next) ∈ entries) (below : LeadsTo next names found) :
      LeadsTo (.folder entries) (name :: names) found

variable {entry next found : Entry} {entries : List (String × Entry)} {name : String}
  {names : List String}

theorem LeadsTo.concat (leads : entry.LeadsTo names (.folder entries))
    (held : (name, next) ∈ entries) : entry.LeadsTo (names ++ [name]) next := by
  generalize is : Entry.folder entries = folder at leads
  induction leads with
  | here folder =>
    subst is
    exact .inside held (.here next)
  | inside above _ ih => exact .inside above (ih is)

/-- What passes from a folder to the names and the entries in it passes to all names that lead
somewhere, and to the entry that they lead to. -/
theorem LeadsTo.inherit {p : Entry → Prop} {q : String → Prop} (leads : entry.LeadsTo names found)
    (passes : ∀ entries name next, p (.folder entries) → (name, next) ∈ entries → q name ∧ p next)
    (h : p entry) : (∀ name ∈ names, q name) ∧ p found := by
  induction leads with
  | here entry => exact ⟨fun _ none => (nomatch none), h⟩
  | inside held _ ih =>
    rcases passes _ _ _ h held with ⟨first, next⟩
    rcases ih next with ⟨rest, last⟩
    exact ⟨List.forall_mem_cons.2 ⟨first, rest⟩, last⟩

theorem exists_of_mem_filesAmong (member : names ∈ filesAmong entries) :
    ∃ name entry rest, (name, entry) ∈ entries ∧ rest ∈ entry.filesBelow ∧ names = name :: rest := by
  induction entries with
  | nil => cases member
  | cons first entries ih =>
    rcases first with ⟨name, entry⟩
    rw [filesAmong] at member
    rcases List.mem_append.1 member with here | later
    · rcases List.mem_map.1 here with ⟨rest, inside, rfl⟩
      exact ⟨name, entry, rest, List.mem_cons_self, inside, rfl⟩
    · rcases ih later with ⟨name', entry', rest, inside, below, rfl⟩
      exact ⟨name', entry', rest, List.mem_cons_of_mem _ inside, below, rfl⟩

theorem cons_mem_filesAmong (held : (name, entry) ∈ entries) (member : names ∈ entry.filesBelow) :
    name :: names ∈ filesAmong entries := by
  induction entries with
  | nil => cases held
  | cons first entries ih =>
    rw [filesAmong, List.mem_append]
    rcases List.mem_cons.1 held with rfl | later
    · exact .inl (List.mem_map_of_mem member)
    · exact .inr (ih later)

/-- The files that are listed below an entry are those that names lead to. -/
theorem mem_filesBelow_iff :
    names ∈ entry.filesBelow ↔ ∃ content, entry.LeadsTo names (.file content) := by
  constructor
  · intro member
    -- A file is below itself only, and below a folder is what its entries have below them.
    induction names generalizing entry with
    | nil =>
      cases entry with
      | file content => exact ⟨content, .here _⟩
      | folder entries =>
        rcases exists_of_mem_filesAmong member with ⟨name, next, rest, -, -, none⟩
        cases none
    | cons name rest ih =>
      cases entry with
      | file content => simp [filesBelow] at member
      | folder entries =>
        rcases exists_of_mem_filesAmong member with ⟨name, next, rest, held, inside, same⟩
        cases same
        rcases ih inside with ⟨content, below⟩
        exact ⟨content, .inside held below⟩
  · rintro ⟨content, leads⟩
    generalize is : Entry.file content = found at leads
    induction leads with
    | here found =>
      subst is
      exact List.mem_singleton_self []
    | inside held _ ih => exact cons_mem_filesAmong held (ih is)

/-- Whatever is in the entry can be come to by its name: the names in a folder are different, none of
them leads up, and none is too long for a step. -/
inductive Orderly : Entry → Prop where
  | file (content : List UInt8) : Orderly (.file content)
  | folder (entries : List (String × Entry)) (distinct : (entries.map Prod.fst).Nodup)
      (steps : ∀ name entry, (name, entry) ∈ entries →
        name ≠ ".." ∧ name.utf8ByteSize ≤ stepLimit)
      (below : ∀ name entry, (name, entry) ∈ entries → Orderly entry) : Orderly (.folder entries)

theorem Orderly.leadsTo (orderly : entry.Orderly) (leads : entry.LeadsTo names found) :
    (∀ name ∈ names, name ≠ "..") ∧ found.Orderly := by
  refine leads.inherit (fun entries name next whole held => ?_) orderly
  cases whole with
  | folder _ _ steps below => exact ⟨(steps name next held).1, below name next held⟩

end Entry

/-! ## One step after the other -/

namespace Tree

variable {trail taken last : List (String × Entry)} {entry next found folder : Entry}
  {step : String} {steps rest names : List String} {path given : Path} {tree : Tree}

/-- One step from an entry, with the trails before and after it. Up from the root leads nowhere. -/
inductive Takes : List (String × Entry) → Entry → String → List (String × Entry) → Entry → Prop where
  | upFromRoot (entries : List (String × Entry)) :
      Takes [] (.folder entries) ".." [] (.folder entries)
  | up (name : String) (outer : Entry) (trail entries : List (String × Entry)) :
      Takes ((name, outer) :: trail) (.folder entries) ".." trail outer
  | down {trail entries : List (String × Entry)} {step : String} {next : Entry} (plain : step ≠ "..")
      (short : step.utf8ByteSize ≤ stepLimit) (held : entries.lookup step = some next) :
      Takes trail (.folder entries) step ((step, .folder entries) :: trail) next

/-- Some steps from an entry, with the trails before and after them. -/
inductive Walks : List (String × Entry) → Entry → List String → List (String × Entry) → Entry →
    Prop where
  | here (trail : List (String × Entry)) (entry : Entry) : Walks trail entry [] trail entry
  | next {trail taken last : List (String × Entry)} {entry next found : Entry} {step : String}
      {steps : List String} (takes : Takes trail entry step taken next)
      (walks : Walks taken next steps last found) : Walks trail entry (step :: steps) last found

/-- A walk goes on from where its first step leads. -/
theorem walk_cons_iff {outcome : List String × Entry} :
    walk path trail entry (step :: steps) = .ok outcome ↔
      ∃ taken next, Takes trail entry step taken next ∧ walk path taken next steps = .ok outcome := by
  constructor
  · intro h
    cases entry with
    | file content => cases h
    | folder entries =>
      unfold walk at h
      dsimp only at h
      by_cases up : step = ".."
      · subst up
        cases trail with
        | nil => exact ⟨_, _, .upFromRoot entries, h⟩
        | cons last trail => exact ⟨_, _, .up last.1 last.2 trail entries, h⟩
      · rw [if_neg up] at h
        split at h
        · cases h
        · rename_i short
          cases held : entries.lookup step with
          | none => simp [held] at h
          | some next =>
            rw [held] at h
            exact ⟨_, _, .down up (Nat.le_of_not_lt short) held, h⟩
  · rintro ⟨taken, next, takes, h⟩
    cases takes with
    | upFromRoot entries => simpa [walk] using h
    | up name outer trail entries => simpa [walk] using h
    | down plain short held =>
      simpa only [walk, if_neg plain, if_neg (Nat.not_lt.2 short), held] using h

theorem walk_eq_ok_iff :
    walk path trail entry steps = .ok (names, found) ↔
      ∃ last, Walks trail entry steps last found ∧ names = (last.map Prod.fst).reverse := by
  induction steps generalizing trail entry with
  | nil =>
    simp only [walk, Except.ok.injEq, Prod.mk.injEq]
    constructor
    · rintro ⟨rfl, rfl⟩
      exact ⟨trail, .here trail entry, rfl⟩
    · rintro ⟨last, walks, rfl⟩
      cases walks
      exact ⟨rfl, rfl⟩
  | cons step steps ih =>
    simp only [walk_cons_iff, ih]
    constructor
    · rintro ⟨taken, next, takes, last, walks, rfl⟩
      exact ⟨last, .next takes walks, rfl⟩
    · rintro ⟨last, walks, rfl⟩
      cases walks with
      | next takes walks => exact ⟨_, _, takes, last, walks, rfl⟩

theorem Walks.append (before : Walks trail entry steps taken next)
    (behind : Walks taken next rest last found) : Walks trail entry (steps ++ rest) last found := by
  induction before with
  | here trail entry => exact behind
  | next takes _ ih => exact .next takes (ih behind)

theorem Walks.exists_append (walks : Walks trail entry (steps ++ rest) last found) :
    ∃ taken next, Walks trail entry steps taken next ∧ Walks taken next rest last found := by
  induction steps generalizing trail entry with
  | nil => exact ⟨trail, entry, .here trail entry, walks⟩
  | cons step steps ih =>
    cases walks with
    | next takes walks =>
      rcases ih walks with ⟨taken, next, before, behind⟩
      exact ⟨taken, next, .next takes before, behind⟩

theorem locate_eq_ok_iff {outcome : List String × Entry} :
    tree.locate path = .ok outcome ↔
      obstacle? path = none ∧ walk path [] tree.root (tree.route path) = .ok outcome := by
  rw [locate]
  cases obstacle? path <;> simp

theorem exists_locate_iff :
    (∃ names, tree.locate path = .ok (names, found)) ↔ tree.find path = .ok found := by
  rw [find]
  cases tree.locate path with
  | error failure => simp [Except.map]
  | ok outcome => simp [Except.map, Prod.ext_iff]

theorem find_eq_ok_iff :
    tree.find path = .ok found ↔
      obstacle? path = none ∧ ∃ last, Walks [] tree.root (tree.route path) last found := by
  simp [← exists_locate_iff, locate_eq_ok_iff, walk_eq_ok_iff]

/-! ## The way back -/

/-- The trail leads back from an entry to the root. -/
inductive LeadsBack (root : Entry) : List (String × Entry) → Entry → Prop where
  | start : LeadsBack root [] root
  | step {trail entries : List (String × Entry)} {name : String} {next : Entry}
      (before : LeadsBack root trail (.folder entries)) (held : (name, next) ∈ entries) :
      LeadsBack root ((name, .folder entries) :: trail) next

variable {root : Entry}

/-- The names of the trail lead from the root to the entry. -/
theorem LeadsBack.leadsTo (back : LeadsBack root trail entry) :
    root.LeadsTo (trail.map Prod.fst).reverse entry := by
  induction back with
  | start => exact .here root
  | step _ held ih =>
    rw [List.map_cons, List.reverse_cons]
    exact ih.concat held

theorem LeadsBack.takes (back : LeadsBack root trail entry)
    (takes : Takes trail entry step taken next) : LeadsBack root taken next := by
  cases takes with
  | upFromRoot entries => exact back
  | up name outer trail entries =>
    cases back with
    | step before held => exact before
  | down _ _ held => exact .step back (Assoc.mem_of_lookup held)

theorem LeadsBack.walks (back : LeadsBack root trail entry)
    (walks : Walks trail entry steps last found) : LeadsBack root last found := by
  induction walks with
  | here trail entry => exact back
  | next takes _ ih => exact ih (back.takes takes)

/-- The names that are told of an entry lead to it. -/
theorem leadsTo_of_locate (located : tree.locate path = .ok (names, entry)) :
    tree.root.LeadsTo names entry := by
  rcases walk_eq_ok_iff.1 (locate_eq_ok_iff.1 located).2 with ⟨last, walks, rfl⟩
  exact (LeadsBack.start.walks walks).leadsTo

theorem exists_leadsTo_of_find (found : tree.find path = .ok entry) :
    ∃ names, tree.root.LeadsTo names entry := by
  rcases exists_locate_iff.2 found with ⟨names, located⟩
  exact ⟨names, leadsTo_of_locate located⟩

/-! ## The way down -/

/-- Steps that never lead up lead down. -/
theorem Walks.leadsTo (plain : ".." ∉ steps) (walks : Walks trail entry steps last found) :
    entry.LeadsTo steps found := by
  induction walks with
  | here trail entry => exact .here entry
  | next takes _ ih =>
    cases takes with
    | upFromRoot entries => simp at plain
    | up name outer trail entries => simp at plain
    | down _ _ held =>
      exact .inside (Assoc.mem_of_lookup held) (ih fun later => plain (List.mem_cons_of_mem _ later))

theorem exists_walks_of_leadsTo (orderly : entry.Orderly) (leads : entry.LeadsTo names found)
    (trail : List (String × Entry)) : ∃ last, Walks trail entry names last found := by
  induction leads generalizing trail with
  | here entry => exact ⟨trail, .here trail entry⟩
  | inside held _ ih =>
    cases orderly with
    | folder entries distinct steps below =>
      rcases steps _ _ held with ⟨plain, short⟩
      rcases ih (below _ _ held) _ with ⟨last, walks⟩
      exact ⟨last, .next (.down plain short (Assoc.lookup_of_mem distinct held)) walks⟩

theorem route_join (tree : Tree) (given : Path) (names : List String) :
    tree.route (given.join { names }) = tree.route given ++ names := by
  have joined : given.join { names } = { given with names := given.names ++ names } := rfl
  rw [joined, route, route]
  split <;> simp

/-- Names lead to what is found by the path that goes on with them, unless they lead up. -/
theorem leadsTo_iff_find (orderly : tree.root.Orderly) (start : tree.find given = .ok folder)
    (followed : obstacle? (given.join { names }) = none) :
    folder.LeadsTo names found ↔
      ".." ∉ names ∧ tree.find (given.join { names }) = .ok found := by
  rcases find_eq_ok_iff.1 start with ⟨-, trail, toFolder⟩
  rw [find_eq_ok_iff, and_iff_right followed, route_join]
  constructor
  · intro leads
    -- The folder is in the tree, so it is as orderly as the root.
    have below : folder.Orderly := by
      rcases exists_leadsTo_of_find start with ⟨way, leads⟩
      exact (orderly.leadsTo leads).2
    rcases exists_walks_of_leadsTo below leads trail with ⟨last, behind⟩
    exact ⟨fun up => (below.leadsTo leads).1 _ up rfl, last, toFolder.append behind⟩
  · rintro ⟨plain, last, walks⟩
    rcases walks.exists_append with ⟨taken, next, before, behind⟩
    -- The first part of the walk ends where the walk to the folder does.
    have toNext : walk given [] tree.root (tree.route given) = .ok (_, next) :=
      walk_eq_ok_iff.2 ⟨taken, before, rfl⟩
    rw [walk_eq_ok_iff.2 ⟨trail, toFolder, rfl⟩, Except.ok.injEq, Prod.mk.injEq] at toNext
    rw [toNext.2]
    exact behind.leadsTo plain

end Tree
end Files
end AccountAudit
