import AccountAudit.Proofs.Document.Discovery
import AccountAudit.Proofs.Finding.Sort
import AccountAudit.Scan
import Mathlib.Data.List.Nodup

/-!
# Scans lose nothing

Whatever the documents hold, a scan that is not over before it begins gives a result in which every
document has its place: it was scanned, and the result has what its analysis found, or it failed, and
the result has the one finding that tells so unless that is suppressed (`Reports`). Failures to read,
to decode, to validate and to analyse are all of this kind, and none affects another document.

That names in the file tree are names of files is what a file system promises; it makes the texts of
different documents different.
-/

namespace AccountAudit
namespace Scan

open Files

variable {tree : Tree} {registry : Registry} {settings : Settings} {path : Path}

/-! ## One document -/

/-- The finding tells that something in a file was not analysed. -/
structure Tells (f : Finding) (file : String) : Prop where
  classId : f.classId = unparseableClass
  location : f.location = { file, start := 0, stop := 0 }

/-- What becomes of a document, and which findings the scan has about it. -/
inductive Reports (tree : Tree) (registry : Registry) (settings : Settings) (path : Path) :
    UnitState → List Finding → Prop where
  | scanned (u : ProgramUnit) (findings : List Finding) (built : Document.load tree path = .ok u)
      (analysed : Analysis.run registry settings u = .ok findings) :
      Reports tree registry settings path .scanned findings
  | unbuilt (mishap : Mishap) (f : Finding) (built : Document.load tree path = .error mishap)
      (tells : Tells f path.text) :
      Reports tree registry settings path .failed (if settings.isSuppressed f then [] else [f])
  | unanalysed (u : ProgramUnit) (failure : ExtractionFailure) (f : Finding)
      (built : Document.load tree path = .ok u)
      (analysed : Analysis.run registry settings u = .error failure) (tells : Tells f u.file) :
      Reports tree registry settings path .failed (if settings.isSuppressed f then [] else [f])

theorem Reports.ne_skipped {state : UnitState} {findings : List Finding}
    (reports : Reports tree registry settings path state findings) : state ≠ .skipped := by
  cases reports <;> simp

theorem path_scanUnit (builder : Builder) (registry : Registry) (settings : Settings)
    (path : Path) : (scanUnit builder registry settings path).path = path.text := by
  unfold scanUnit
  split
  · rfl
  · split
    · rfl
    · split <;> rfl

/-- Every failure ends in a state and a finding. -/
theorem reports_scanUnit (untimed : isOver settings = false) :
    Reports tree registry settings path
      (scanUnit (Document.load tree) registry settings path).state
      (scanUnit (Document.load tree) registry settings path).findings := by
  have running : ¬ isOver settings = true := by simp [untimed]
  unfold scanUnit
  rw [if_neg running]
  -- Loading covers the failures to read, to decode and to validate.
  cases built : Document.load tree path with
  | error mishap => exact .unbuilt mishap _ built ⟨rfl, rfl⟩
  | ok u =>
    cases analysed : Analysis.run registry settings u with
    | ok findings =>
      simp only [analysed]
      exact .scanned u findings built analysed
    | error failure =>
      simp only [analysed]
      exact .unanalysed u failure _ built analysed ⟨rfl, rfl⟩

/-! ## All documents -/

theorem pathsIn_map_scanUnit (builder : Builder) (registry : Registry) (settings : Settings)
    (state : UnitState) (documents : List Path) :
    pathsIn state (documents.map (scanUnit builder registry settings)) =
      (documents.filter fun path => (scanUnit builder registry settings path).state = state).map
        Path.text := by
  rw [pathsIn, List.filter_map, List.map_map]
  refine List.map_congr_left fun path _ => ?_
  exact path_scanUnit builder registry settings path

/-- What is not scanned has failed. -/
theorem perm_scanned_failed {documents : List Path} {state : Path → UnitState}
    (settled : ∀ path ∈ documents, state path ≠ .skipped) :
    ((documents.filter fun path => state path = .scanned) ++
      documents.filter fun path => state path = .failed).Perm documents := by
  -- As none is skipped, the second list is the complement of the first.
  have failed : (documents.filter fun path => state path = .failed) =
      documents.filter fun path => !decide (state path = .scanned) := by
    refine List.filter_congr fun path member => ?_
    have known := settled path member
    cases h : state path <;> simp_all
  rw [failed]
  exact List.filter_append_perm _ documents

theorem nodup_texts_discover (proper : tree.Proper) {paths : List Path}
    (written : ∀ given ∈ paths, given.Proper) :
    ((Document.discover tree paths).map Path.text).Nodup := by
  refine List.Nodup.map_on ?_ (Document.nodup_discover tree paths)
  intro p hp q hq same
  exact Path.text_injective (Document.proper_of_mem_discover proper written hp)
    (Document.proper_of_mem_discover proper written hq) same

/-! ## The result of a scan -/

section Run

variable {paths : List Path}

theorem scanned_run (builder : Builder) : (run tree builder registry settings paths).scanned =
    ((Document.discover tree paths).filter fun path =>
      (scanUnit builder registry settings path).state = .scanned).map Path.text :=
  pathsIn_map_scanUnit builder registry settings .scanned _

theorem failed_run (builder : Builder) : (run tree builder registry settings paths).failed =
    ((Document.discover tree paths).filter fun path =>
      (scanUnit builder registry settings path).state = .failed).map Path.text :=
  pathsIn_map_scanUnit builder registry settings .failed _

/-- Only a scan that is over before it begins skips documents. -/
theorem skipped_run (untimed : isOver settings = false) :
    (run tree (Document.load tree) registry settings paths).skipped = [] := by
  have none : ((Document.discover tree paths).filter fun path =>
      (scanUnit (Document.load tree) registry settings path).state = .skipped) = [] := by
    rw [List.filter_eq_nil_iff]
    intro path _
    have reports : Reports tree registry settings path _ _ := reports_scanUnit untimed
    simpa using reports.ne_skipped
  have texts := pathsIn_map_scanUnit (Document.load tree) registry settings .skipped
    (Document.discover tree paths)
  rwa [none] at texts

theorem sorts_run (builder : Builder) :
    Finding.Sorts ((Document.discover tree paths).flatMap fun path =>
        (scanUnit builder registry settings path).findings)
      (run tree builder registry settings paths).findings := by
  have merged : (run tree builder registry settings paths).findings =
      Finding.sort ((Document.discover tree paths).flatMap fun path =>
        (scanUnit builder registry settings path).findings) :=
    congrArg Finding.sort (List.flatMap_map ..)
  rw [merged]
  exact Finding.sorts_sort _

theorem perm_run (untimed : isOver settings = false) :
    ((run tree (Document.load tree) registry settings paths).scanned ++
      (run tree (Document.load tree) registry settings paths).failed).Perm
        ((Document.discover tree paths).map Path.text) := by
  rw [scanned_run, failed_run, ← List.map_append]
  apply List.Perm.map
  apply perm_scanned_failed
  intro path _
  exact (reports_scanUnit untimed).ne_skipped

end Run

def shelf : Tree :=
  { root := .folder [("ir", .folder [("broken.json", .file []), ("notes.txt", .file [])])] }

theorem proper_shelf : shelf.Proper := by
  refine .folder _ (fun name entry member => ?_) (fun name entry member => ?_)
  · rcases Prod.mk.inj (List.mem_singleton.1 member) with ⟨rfl, -⟩
    exact ⟨by decide, by decide, by decide⟩
  · rcases Prod.mk.inj (List.mem_singleton.1 member) with ⟨-, rfl⟩
    refine .folder _ (fun name entry member => ?_) (fun name entry member => ?_)
    · rcases List.mem_cons.1 member with first | second
      · rcases Prod.mk.inj first with ⟨rfl, -⟩
        exact ⟨by decide, by decide, by decide⟩
      · rcases Prod.mk.inj (List.mem_singleton.1 second) with ⟨rfl, -⟩
        exact ⟨by decide, by decide, by decide⟩
    · rcases List.mem_cons.1 member with first | second
      · rcases Prod.mk.inj first with ⟨-, rfl⟩
        exact .file []
      · rcases Prod.mk.inj (List.mem_singleton.1 second) with ⟨-, rfl⟩
        exact .file []

end Scan
end AccountAudit
