import AccountAudit.Proofs.Report.Rating
import Mathlib.Data.List.Nodup
import Mathlib.Data.String.Basic
import Mathlib.Order.Compare

/-!
# Every finding in its place of one report

There is one report for each class that was found, and the reports are in the order of their ids
(`pairwise_classId`). The places and the messages of a report are those of the findings of its class,
one after the other in the order of their keys (`lists_of_mem_assemble`).

In which order the findings came is then seen only where two of them have one key. Where no two do,
they may be put in any order (`assemble_perm`).
-/

namespace AccountAudit

namespace Finding

variable {f g : Finding} {findings findings' : List Finding}

theorem classId_le_of_precedes (h : f.precedes g = true) : f.classId ≤ g.classId := by
  have first : (compare f.classId g.classId).isLE = true := by
    simp only [precedes, FindingKey.order, compareLex, Ordering.isLE_then_iff_and] at h
    exact h.1
  exact compare_le_iff_le.1 (Ordering.isLE_iff_ne_gt.1 first)

/-- Findings that all have keys of their own are sorted alike in whatever order they came. -/
theorem sort_eq_of_perm (distinct : (findings.map key).Nodup) (perm : findings'.Perm findings) :
    sort findings' = sort findings := by
  have both : (sort findings').Perm (sort findings) :=
    (sort_perm findings').trans (perm.trans (sort_perm findings).symm)
  refine both.eq_of_pairwise ?_ (sorts_sort findings').ordered (sorts_sort findings).ordered
  intro f g inside inside' before after
  -- Neither comes after the other, so they have one key, and then they are one finding.
  have same : f.key = g.key := FindingKey.isLE_order_antisymm before after
  exact List.inj_on_of_nodup_map distinct (perm.mem_iff.1 ((sort_perm findings').mem_iff.1 inside))
    ((sort_perm findings).mem_iff.1 inside') same

end Finding

namespace ClassReport

open Finding

variable {registry : Registry} {units : List ProgramUnit} {findings findings' : List Finding}
  {report : ClassReport}

/-- The report lists the findings of its class in the order of their keys, each of them once. -/
def Lists (report : ClassReport) (findings : List Finding) : Prop :=
  ∃ sorted, Sorts (ofClass report.classId findings) sorted ∧
    sorted.Perm (ofClass report.classId findings) ∧ report.affected = sorted.map place ∧
    report.messages = sorted.map Finding.message

theorem messages_eq (member : report ∈ assemble registry units findings) :
    report.messages = (ofClass report.classId (sort findings)).map Finding.message := by
  obtain ⟨classId, first, rest, all, rfl⟩ := mem_assemble.1 member
  have whole : ofClass (ofGroup registry units classId first rest).classId (sort findings) =
      first :: rest := all
  rw [whole]
  rfl

theorem lists_of_mem_assemble (member : report ∈ assemble registry units findings) :
    Lists report findings := by
  have sorted : ofClass report.classId (sort findings) = sort (ofClass report.classId findings) :=
    (sort_filter _ findings).symm
  refine ⟨sort (ofClass report.classId findings), sorts_sort _, sort_perm _, ?_, ?_⟩
  · rw [affected_eq member, sorted]
  · rw [messages_eq member, sorted]

theorem Lists.length_eq (h : Lists report findings) :
    report.affected.length = report.messages.length := by
  obtain ⟨sorted, -, -, affected, messages⟩ := h
  rw [affected, messages, List.length_map, List.length_map]

/-- The ids of the reports are the classes as they are gathered. -/
theorem classId_sublist (registry : Registry) (units : List ProgramUnit) (findings : List Finding) :
    ((assemble registry units findings).map classId).Sublist
      ((Assoc.gather ((sort findings).map fun f => (f.classId, f))).map Prod.fst) := by
  unfold assemble
  induction Assoc.gather ((sort findings).map fun f => (f.classId, f)) with
  | nil => exact .slnil
  | cons entry rest ih =>
    obtain ⟨classId, group⟩ := entry
    cases group with
    | nil => exact ih.cons classId
    | cons first later => exact ih.cons_cons classId

theorem pairwise_classId (registry : Registry) (units : List ProgramUnit)
    (findings : List Finding) :
    ((assemble registry units findings).map classId).Pairwise (· < ·) := by
  have gathered := Assoc.keys_gather_sublist ((sort findings).map fun f => (f.classId, f))
  rw [List.map_map] at gathered
  have ordered : ((sort findings).map Finding.classId).Pairwise (· ≤ ·) :=
    List.pairwise_map.2 ((sorts_sort findings).ordered.imp classId_le_of_precedes)
  have ascending := ordered.sublist ((classId_sublist registry units findings).trans gathered)
  -- No class is gathered twice, so it is strictly ascending.
  have distinct := (Assoc.nodup_keys_gather ((sort findings).map fun f => (f.classId, f))).sublist
    (classId_sublist registry units findings)
  exact ascending.imp₂ (fun _ _ le ne => lt_of_le_of_ne le ne) distinct

/-- A class is reported if it was found. -/
theorem mem_classId_iff (registry : Registry) (units : List ProgramUnit) (findings : List Finding)
    (classId : String) :
    classId ∈ (assemble registry units findings).map ClassReport.classId ↔
      ∃ f ∈ findings, f.classId = classId := by
  rw [List.mem_map]
  constructor
  · rintro ⟨report, member, rfl⟩
    exact exists_finding_of_mem_assemble member
  · rintro ⟨f, found, rfl⟩
    exact exists_report_of_mem registry units found

theorem assemble_perm (registry : Registry) (units : List ProgramUnit)
    (distinct : (findings.map key).Nodup) (perm : findings'.Perm findings) :
    assemble registry units findings' = assemble registry units findings := by
  unfold assemble
  rw [sort_eq_of_perm distinct perm]

end ClassReport
end AccountAudit
