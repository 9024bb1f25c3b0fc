import AccountAudit.Report.Assembly
import AccountAudit.Proofs.Analysis.Independence
import AccountAudit.Proofs.Assoc

/-!
# What a class report is made of

A class is reported exactly when it was found, and its report is made of all its findings, in the
order of their keys (`mem_assemble`). So every finding has its place in the report of its class
(`exists_report_of_mem`), and a report names no place but those of the findings of its class
(`exists_finding_of_mem_affected`).
-/

namespace AccountAudit

namespace Finding

/-- The place of a finding. -/
def place (f : Finding) : AffectedPlace :=
  { location := f.location, handler := f.handler }

theorem mem_ofClass {classId : String} {f : Finding} {findings : List Finding} :
    f ∈ ofClass classId findings ↔ f ∈ findings ∧ f.classId = classId := by
  simp [ofClass]

theorem valuesOf_eq_ofClass (classId : String) (findings : List Finding) :
    Assoc.valuesOf classId (findings.map fun f => (f.classId, f)) = ofClass classId findings := by
  induction findings with
  | nil => rfl
  | cons f rest ih =>
    rw [List.map_cons, Assoc.valuesOf_cons, ih, ofClass, ofClass, List.filter_cons]
    by_cases same : f.classId = classId <;> simp [same]

/-- The groups by class are the findings of each class. -/
theorem mem_gather_classes {classId : String} {f : Finding} {rest findings : List Finding} :
    (classId, f :: rest) ∈ Assoc.gather (findings.map fun f => (f.classId, f)) ↔
      ofClass classId findings = f :: rest := by
  rw [Assoc.mem_gather (List.cons_ne_nil _ _), valuesOf_eq_ofClass]
  exact eq_comm

theorem mem_ofClass_sort {classId : String} {f : Finding} {findings : List Finding} :
    f ∈ ofClass classId (sort findings) ↔ f ∈ findings ∧ f.classId = classId := by
  rw [mem_ofClass, (sort_perm findings).mem_iff]

end Finding

namespace ClassReport

open Finding

variable {registry : Registry} {units : List ProgramUnit} {findings : List Finding}
  {report : ClassReport} {f : Finding}

theorem mem_assemble :
    report ∈ assemble registry units findings ↔
      ∃ classId first rest, ofClass classId (sort findings) = first :: rest ∧
        report = ofGroup registry units classId first rest := by
  simp only [assemble, List.mem_filterMap]
  constructor
  · intro h
    obtain ⟨⟨classId, group⟩, member, made⟩ := h
    cases group with
    | nil => cases made
    | cons first rest =>
      exact ⟨classId, first, rest, mem_gather_classes.1 member, (Option.some.inj made).symm⟩
  · intro h
    obtain ⟨classId, first, rest, all, rfl⟩ := h
    exact ⟨(classId, first :: rest), mem_gather_classes.2 all, rfl⟩

/-- The places of a report are those of the findings of its class. -/
theorem affected_eq (member : report ∈ assemble registry units findings) :
    report.affected = (ofClass report.classId (sort findings)).map place := by
  obtain ⟨classId, first, rest, all, rfl⟩ := mem_assemble.1 member
  have whole : ofClass (ofGroup registry units classId first rest).classId (sort findings) =
      first :: rest := all
  rw [whole]
  rfl

/-- Every report is about a class that was found. -/
theorem exists_finding_of_mem_assemble (member : report ∈ assemble registry units findings) :
    ∃ f ∈ findings, f.classId = report.classId := by
  obtain ⟨classId, first, rest, all, rfl⟩ := mem_assemble.1 member
  have inside : first ∈ ofClass classId (sort findings) := by simp [all]
  have ofThis := mem_ofClass_sort.1 inside
  exact ⟨first, ofThis.1, ofThis.2⟩

theorem exists_finding_of_mem_affected {place : AffectedPlace}
    (member : report ∈ assemble registry units findings) (inside : place ∈ report.affected) :
    ∃ f ∈ findings, f.classId = report.classId ∧ f.place = place := by
  rw [affected_eq member] at inside
  obtain ⟨f, found, rfl⟩ := List.mem_map.1 inside
  have ofThis := mem_ofClass_sort.1 found
  exact ⟨f, ofThis.1, ofThis.2, rfl⟩

theorem place_mem_affected (member : report ∈ assemble registry units findings)
    (found : f ∈ findings) (ofThis : f.classId = report.classId) : f.place ∈ report.affected := by
  rw [affected_eq member]
  exact List.mem_map_of_mem (mem_ofClass_sort.2 ⟨found, ofThis⟩)

/-- Every finding is in the report of its class. -/
theorem exists_report_of_mem (registry : Registry) (units : List ProgramUnit)
    (found : f ∈ findings) :
    ∃ report ∈ assemble registry units findings, report.classId = f.classId := by
  have inside : f ∈ ofClass f.classId (sort findings) := mem_ofClass_sort.2 ⟨found, rfl⟩
  cases all : ofClass f.classId (sort findings) with
  | nil => simp [all] at inside
  | cons first rest => exact ⟨_, mem_assemble.2 ⟨f.classId, first, rest, all, rfl⟩, rfl⟩

end ClassReport
end AccountAudit
