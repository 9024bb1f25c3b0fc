import AccountAudit.Proofs.Analysis.Reduced
import AccountAudit.Scan

/-!
# Suppressions only filter

A scan under suppressions gives what the same scan gives without them, less the findings that some
suppression matches (`suppression_filters`). Whatever happens to the documents, they are listed under
the same states, and the findings that remain keep their order.

There are three places where findings are suppressed: the reduction of what an analysis collects, the
finding about a document that was not built, and the finding about a unit whose analysis failed. Each
of them is shown to filter; that the filter may move behind the choice of first findings, the
overrides, the merge and the sorting is due to suppressions looking at the key of a finding only.
-/

namespace AccountAudit

namespace Settings

/-- The same settings without suppressions. -/
def unsuppressed (settings : Settings) : Settings :=
  { settings with suppressions := [] }

/-- The findings that no suppression silences. -/
def shown (settings : Settings) (findings : List Finding) : List Finding :=
  findings.filter fun f => !settings.isSuppressed f

@[simp]
theorem isSuppressed_unsuppressed (settings : Settings) (f : Finding) :
    settings.unsuppressed.isSuppressed f = false :=
  rfl

@[simp]
theorem shown_unsuppressed (settings : Settings) (findings : List Finding) :
    settings.unsuppressed.shown findings = findings := by
  simp [shown]

theorem sort_shown (settings : Settings) (findings : List Finding) :
    Finding.sort (settings.shown findings) = settings.shown (Finding.sort findings) :=
  Finding.sort_filter _ findings

end Settings

/-! ## One unit -/

namespace Analysis

variable {settings : Settings}

theorem reduce_eq_shown (settings : Settings) (findings : List Finding) :
    reduce settings findings = settings.shown (reduce settings.unsuppressed findings) := by
  -- Without suppressions the last step of the reduction keeps everything.
  have bare : reduce settings.unsuppressed findings =
      Finding.sort ((firsts findings).map (override settings)) := by
    apply congrArg Finding.sort
    exact settings.shown_unsuppressed _
  calc reduce settings findings
      = Finding.sort (settings.shown ((firsts findings).map (override settings))) := rfl
    _ = settings.shown (Finding.sort ((firsts findings).map (override settings))) :=
        settings.sort_shown _
    _ = settings.shown (reduce settings.unsuppressed findings) := by rw [bare]

/-- Suppressions do not decide whether an analysis fails, and they do not choose the detectors. -/
theorem run_eq_map_shown (registry : Registry) (settings : Settings) (u : ProgramUnit) :
    run registry settings u = (run registry settings.unsuppressed u).map settings.shown := by
  unfold run
  cases FactBase.ofUnit u with
  | error failure => rfl
  | ok facts => exact congrArg Except.ok (reduce_eq_shown settings _)

end Analysis

/-! ## A whole scan -/

/-- An outcome of which some findings are left out. -/
def UnitOutcome.shown (o : UnitOutcome) (settings : Settings) : UnitOutcome :=
  { o with findings := settings.shown o.findings }

/-- A result of which some findings are left out. -/
def ScanResult.shown (result : ScanResult) (settings : Settings) : ScanResult :=
  { result with findings := settings.shown result.findings }

namespace Scan

open Files

theorem reportable_eq_shown (settings : Settings) (f : Finding) :
    reportable settings f = settings.shown (reportable settings.unsuppressed f) := by
  unfold reportable
  cases suppressed : settings.isSuppressed f <;> simp [Settings.shown, suppressed]

/-- Of every document, suppressions change no more than its findings. -/
theorem scanUnit_eq_shown (builder : Builder) (registry : Registry) (settings : Settings)
    (path : Path) :
    scanUnit builder registry settings path =
      (scanUnit builder registry settings.unsuppressed path).shown settings := by
  have ended : isOver settings.unsuppressed = isOver settings := rfl
  unfold scanUnit
  rw [ended]
  split
  -- A document that is skipped has no findings.
  · rfl
  · cases builder path with
    | error mishap =>
      exact congrArg (fun findings =>
        ({ path := path.text, state := .failed, findings } : UnitOutcome))
        (reportable_eq_shown settings _)
    | ok u =>
      -- Both analyses fail, and then alike, or both succeed.
      simp only [Analysis.run_eq_map_shown registry settings u]
      cases Analysis.run registry settings.unsuppressed u with
      | error failure =>
        exact congrArg (fun findings =>
          ({ path := path.text, state := .failed, unit := some u, findings } : UnitOutcome))
          (reportable_eq_shown settings _)
      | ok findings => rfl

/-- Findings may be left out before or after the outcomes are merged. -/
theorem merge_shown (settings : Settings) (outcomes : List UnitOutcome) :
    merge (outcomes.map fun o => o.shown settings) = (merge outcomes).shown settings := by
  have listed : ∀ state, pathsIn state (outcomes.map fun o => o.shown settings) =
      pathsIn state outcomes := by
    intro state
    simp only [pathsIn, List.filter_map, List.map_map]
    rfl
  have built : ((outcomes.map fun o => o.shown settings).filterMap fun o =>
      o.unit.map fun u => (o.path, u)) = outcomes.filterMap fun o =>
        o.unit.map fun u => (o.path, u) :=
    List.filterMap_map
  have found : Finding.sort ((outcomes.map fun o => o.shown settings).flatMap (·.findings)) =
      settings.shown (Finding.sort (outcomes.flatMap (·.findings))) := by
    rw [← Settings.sort_shown, List.flatMap_map, Settings.shown, List.filter_flatMap]
    rfl
  simp only [merge, listed, built, found]
  rfl

theorem scanDocuments_eq_shown (builder : Builder) (registry : Registry) (settings : Settings)
    (documents : List Path) :
    scanDocuments builder registry settings documents =
      (scanDocuments builder registry settings.unsuppressed documents).shown settings := by
  have outcomes : documents.map (scanUnit builder registry settings) =
      (documents.map (scanUnit builder registry settings.unsuppressed)).map fun o =>
        o.shown settings := by
    rw [List.map_map]
    exact List.map_congr_left fun path _ => scanUnit_eq_shown builder registry settings path
  calc scanDocuments builder registry settings documents
      = merge (documents.map (scanUnit builder registry settings)) := rfl
    _ = merge ((documents.map (scanUnit builder registry settings.unsuppressed)).map fun o =>
          o.shown settings) := by rw [outcomes]
    _ = (scanDocuments builder registry settings.unsuppressed documents).shown settings :=
        merge_shown settings _

end Scan
end AccountAudit
