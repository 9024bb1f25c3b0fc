import AccountAudit.Proofs.Analysis.Reduction
import AccountAudit.Proofs.Detector.Faithful
import AccountAudit.Proofs.Fact.Extraction

/-!
# Detectors do not affect each other

What an analysis reports under a class depends on the detector of that class only: on no other
detector, on no order of registration, and on no failure (`findings_ofClass_eq`). Taking a detector
out, or switching its class off, only removes findings of its class.

Detectors come from outside, so nothing is known of them but that each reports under its own class
(`Detector.Faithful`), as every finding does that a detector makes by its own description. The class
of unresolved constructs is the one class that has findings without a detector.
-/

namespace AccountAudit

/-! ## Detectors and classes -/

namespace Registry

/-- The detector of a class, if it runs. -/
def active? (r : Registry) (settings : Settings) (classId : String) : Option Detector :=
  if settings.isEnabled classId then r.get? classId else none

theorem filter_eq_find?_toList {α : Type} (classOf : α → String) (classId : String) {items : List α}
    (distinct : (items.map classOf).Nodup) :
    (items.filter fun a => classOf a == classId) =
      (items.find? fun a => classOf a == classId).toList := by
  induction items with
  | nil => rfl
  | cons a rest ih =>
    rcases List.nodup_cons.1 distinct with ⟨fresh, distinct⟩
    by_cases here : classOf a = classId
    -- The class of `a` is taken, so nothing behind it is chosen.
    · have others : (rest.filter fun b => classOf b == classId) = [] := by
        refine List.filter_eq_nil_iff.2 fun b member same => fresh ?_
        rw [here, ← eq_of_beq same]
        exact List.mem_map_of_mem member
      simp [here, others]
    · simp [here, ih distinct]

/-- A class has at most one detector that runs. -/
theorem filter_active (r : Registry) (settings : Settings) (classId : String) :
    ((r.detectors.filter fun d => settings.isEnabled d.info.classId).filter fun d =>
      d.info.classId == classId) = (r.active? settings classId).toList := by
  have one := filter_eq_find?_toList (fun d : Detector => d.info.classId) classId r.distinct
  -- First the class, of which there is at most one detector, and then whether it runs.
  rw [List.filter_comm, one, active?, get?]
  cases found : r.detectors.find? fun d => d.info.classId == classId with
  | none => simp
  | some d =>
    have same : d.info.classId = classId := by simpa using List.find?_some found
    cases enabled : settings.isEnabled classId with
    | false => simp [same, enabled]
    | true => simp [same, enabled]

end Registry

namespace Finding

/-- The findings of a class. -/
def ofClass (classId : String) (findings : List Finding) : List Finding :=
  findings.filter fun f => f.classId == classId

/-- The findings of all other classes. -/
def ofOthers (classId : String) (findings : List Finding) : List Finding :=
  findings.filter fun f => f.classId != classId

end Finding

/-! ## Collected findings -/

namespace FactBase

/-- All diagnostics are made in one way. -/
theorem exists_unresolvedFinding {u : ProgramUnit} {facts : FactBase}
    (h : ofUnit u = .ok facts) {f : Finding} (member : f ∈ facts.diagnostics) :
    ∃ location handler what, f = unresolvedFinding location handler what := by
  rcases ofUnit_eq_ok.1 h with ⟨handlers, structs, -, -, rfl⟩
  rcases List.mem_flatMap.1 member with ⟨⟨handler, fact⟩, -, inside⟩
  rcases List.mem_append.1 inside with account | node
  · rcases List.mem_filterMap.1 account with ⟨account, -, found⟩
    unfold AccountFact.diagnostic? at found
    dsimp only at found
    split at found
    · cases found
    · exact ⟨_, _, _, (Option.some.inj found).symm⟩
  · rcases List.mem_filterMap.1 node with ⟨node, -, found⟩
    unfold Handler.nodeDiagnostic? at found
    split at found
    · split at found
      · exact ⟨_, _, _, (Option.some.inj found).symm⟩
      · cases found
    · dsimp only at found
      split at found
      · cases found
      · exact ⟨_, _, _, (Option.some.inj found).symm⟩
    · cases found

theorem classId_of_mem_diagnostics {u : ProgramUnit} {facts : FactBase}
    (h : ofUnit u = .ok facts) {f : Finding} (member : f ∈ facts.diagnostics) :
    f.classId = unresolvedClassId := by
  rcases exists_unresolvedFinding h member with ⟨location, handler, what, rfl⟩
  rfl

end FactBase

namespace Analysis

/-- Also a failed detector gives a finding of its own class. -/
theorem classId_of_mem_runDetector {u : ProgramUnit} {facts : FactBase} {d : Detector}
    (faithful : d.Faithful) {f : Finding} (member : f ∈ runDetector u facts d) :
    f.classId = d.info.classId := by
  unfold runDetector at member
  -- A detector fails with an error, or by a finding that it may not report; else it reports.
  split at member
  · obtain rfl := List.mem_singleton.1 member
    rfl
  · rename_i detected
    split at member
    · obtain rfl := List.mem_singleton.1 member
      rfl
    · exact faithful u facts _ detected f member

/-- To choose classes among the findings is to choose among the detectors. -/
theorem filter_flatMap_runDetector (u : ProgramUnit) (facts : FactBase) (p : String → Bool)
    {ds : List Detector} (faithful : ∀ d ∈ ds, d.Faithful) :
    ((ds.flatMap (runDetector u facts)).filter fun f => p f.classId) =
      (ds.filter fun d => p d.info.classId).flatMap (runDetector u facts) := by
  induction ds with
  | nil => rfl
  | cons d ds ih =>
    -- All findings of `d` are chosen, or none is.
    have classes : ∀ f ∈ runDetector u facts d, p f.classId = p d.info.classId := by
      intro f member
      rw [classId_of_mem_runDetector (faithful d List.mem_cons_self) member]
    rw [List.flatMap_cons, List.filter_append, ih fun d member =>
      faithful d (List.mem_cons_of_mem _ member), List.filter_congr classes, List.filter_cons]
    cases p d.info.classId <;> simp

/-- What is collected under a class. -/
theorem ofClass_collect {r : Registry} (faithful : r.Faithful) (settings : Settings)
    (u : ProgramUnit) (facts : FactBase) (classId : String) :
    Finding.ofClass classId (collect r settings u facts) =
      Finding.ofClass classId facts.diagnostics ++
        (r.active? settings classId).toList.flatMap (runDetector u facts) := by
  have enabled : ∀ d ∈ r.detectors.filter fun d => settings.isEnabled d.info.classId,
      d.Faithful := by
    intro d member
    exact faithful d (List.mem_filter.1 member).1
  rw [collect, Finding.ofClass, List.filter_append,
    filter_flatMap_runDetector u facts (· == classId) enabled, r.filter_active, Finding.ofClass]

/-! ## One class -/

/-- The findings of a class are those of its detector, and the diagnostics if it is theirs. -/
theorem ofClass_ofFacts {r : Registry} (faithful : r.Faithful) (settings : Settings)
    (u : ProgramUnit) (facts : FactBase) (classId : String) :
    Finding.ofClass classId (ofFacts r settings u facts) =
      reduce settings (Finding.ofClass classId facts.diagnostics ++
        (r.active? settings classId).toList.flatMap (runDetector u facts)) := by
  rw [← ofClass_collect faithful]
  exact (reduce_filter settings (fun key => key.classId == classId) _).symm

/-- Two registries that hold the same detector for a class, if any, give the same findings of that
class, and fail on the same units. -/
theorem run_ofClass_congr {r r' : Registry} (faithful : r.Faithful) (faithful' : r'.Faithful)
    (settings : Settings) (u : ProgramUnit) {classId : String}
    (same : r.get? classId = r'.get? classId) :
    (run r settings u).map (Finding.ofClass classId) =
      (run r' settings u).map (Finding.ofClass classId) := by
  have active : r.active? settings classId = r'.active? settings classId := by
    rw [Registry.active?, same, Registry.active?]
  unfold run
  -- Extraction does not look at the registry, so it fails for both or for none.
  cases FactBase.ofUnit u with
  | error failure => rfl
  | ok facts =>
    simp only [Except.map, ofClass_ofFacts faithful, ofClass_ofFacts faithful', active]

/-! ## Leaving a detector out -/

/-- The second list lacks some findings of a class, and nothing else; it lacks all of them unless
the class has diagnostics. -/
structure OnlyLoses (classId : String) (findings findings' : List Finding) : Prop where
  sublist : findings'.Sublist findings
  others : Finding.ofOthers classId findings' = Finding.ofOthers classId findings
  none : classId ≠ unresolvedClassId → Finding.ofClass classId findings' = []

/-- Without the detector of a class, its findings are gone, except those at places of
diagnostics. -/
theorem ofFacts_unregister {r : Registry} (faithful : r.Faithful) (settings : Settings)
    (u : ProgramUnit) (facts : FactBase) (classId : String) :
    ofFacts (r.unregister classId) settings u facts =
      (ofFacts r settings u facts).filter fun f =>
        decide (f.key ∈ facts.diagnostics.map Finding.key) || f.classId != classId := by
  have enabled : ∀ d ∈ r.detectors.filter fun d => settings.isEnabled d.info.classId,
      d.Faithful := by
    intro d member
    exact faithful d (List.mem_filter.1 member).1
  have collected : collect (r.unregister classId) settings u facts = facts.diagnostics ++
      ((r.detectors.filter fun d => settings.isEnabled d.info.classId).flatMap
        (runDetector u facts)).filter fun f => f.classId != classId := by
    rw [collect, Registry.unregister, filter_flatMap_runDetector u facts (· != classId) enabled,
      List.filter_comm]
  rw [ofFacts, collected]
  exact reduce_append_filter settings (fun key => key.classId != classId) _ _

theorem onlyLoses_unregister {r : Registry} (faithful : r.Faithful) (settings : Settings)
    {u : ProgramUnit} {facts : FactBase} (extracted : FactBase.ofUnit u = .ok facts)
    (classId : String) :
    OnlyLoses classId (ofFacts r settings u facts)
      (ofFacts (r.unregister classId) settings u facts) := by
  rw [ofFacts_unregister faithful]
  -- What is left is a choice of the findings, in which all of other classes are chosen.
  refine ⟨List.filter_sublist, ?_, fun resolved => ?_⟩
  · rw [Finding.ofOthers, List.filter_filter, Finding.ofOthers]
    refine List.filter_congr fun f _ => ?_
    cases f.classId != classId <;> simp
  · rw [Finding.ofClass, List.filter_filter, List.filter_eq_nil_iff]
    intro f _ kept
    simp only [Bool.and_eq_true, Bool.or_eq_true, decide_eq_true_eq, bne_iff_ne,
      beq_iff_eq] at kept
    -- A finding of the class that is left stands at the place of a diagnostic, so its class is that of
    -- unresolved constructs.
    rcases kept with ⟨here, diagnostic | other⟩
    · rcases List.mem_map.1 diagnostic with ⟨g, member, key⟩
      have unresolved : g.classId = unresolvedClassId :=
        FactBase.classId_of_mem_diagnostics extracted member
      have classes : g.classId = f.classId := congrArg FindingKey.classId key
      exact resolved (by rw [← here, ← classes, unresolved])
    · exact other here

/-- To switch a class off is to take its detector out. -/
theorem ofFacts_disable {r : Registry} {settings : Settings} {classId : String}
    {classes : Option (List String)}
    (off : { settings with enabledClasses := classes }.isEnabled classId = false)
    (kept : ∀ d ∈ r.detectors, d.info.classId ≠ classId →
      { settings with enabledClasses := classes }.isEnabled d.info.classId =
        settings.isEnabled d.info.classId) (u : ProgramUnit) (facts : FactBase) :
    ofFacts r { settings with enabledClasses := classes } u facts =
      ofFacts (r.unregister classId) settings u facts := by
  have running : (r.detectors.filter fun d =>
        { settings with enabledClasses := classes }.isEnabled d.info.classId) =
      (r.detectors.filter fun d => d.info.classId != classId).filter fun d =>
        settings.isEnabled d.info.classId := by
    rw [List.filter_filter]
    refine List.filter_congr fun d member => ?_
    -- The class itself is off, and all others are as they were.
    by_cases here : d.info.classId = classId
    · simp [here, off]
    · simp [here, kept d member here]
  have collected : collect r { settings with enabledClasses := classes } u facts =
      collect (r.unregister classId) settings u facts := by
    rw [collect, running, collect, Registry.unregister]
  rw [ofFacts, collected]
  rfl

/-! ## Independence -/

def steady : Detector :=
  let info : DetectorInfo := { label := "Steady", classId := "EXT-1", name := "Steady" }
  { info, detect := fun u _ =>
      .ok [info.finding "Start" "The unit has a start." ⟨u.file, 0, 1, none⟩ "" []] }

def broken : Detector :=
  { info := { label := "Broken", classId := "EXT-2", name := "Broken" }
    detect := fun _ _ => .error { kind := "RuntimeError", message := "out of order" } }

def mixed : Registry :=
  { detectors := [broken, steady], distinct := by decide, named := by decide }

def sound : Registry :=
  { detectors := [steady], distinct := by decide, named := by decide }

theorem faithful_mixed : mixed.Faithful := by
  intro d member u facts findings detected f reported
  rcases List.mem_cons.1 member with rfl | member
  · cases detected
  · obtain rfl := List.mem_singleton.1 member
    obtain rfl := Except.ok.inj detected
    obtain rfl := List.mem_singleton.1 reported
    rfl

theorem faithful_sound : sound.Faithful :=
  fun d member => faithful_mixed d (List.mem_cons_of_mem _ member)

def blank : ProgramUnit :=
  { name := "blank", file := "blank.json" }

end Analysis
end AccountAudit
