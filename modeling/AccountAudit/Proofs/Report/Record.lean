import AccountAudit.Proofs.Value.Written
import AccountAudit.Report.Records

/-!
# What the records say

The record list is read as the records that it was written from (`parse_records`), and it tells as much
about severities as the findings do: some record is as grave as a threshold exactly if some finding is
(`anyReaches_iff_records`).
-/

namespace AccountAudit

theorem Severity.name_injective {s t : Severity} (same : s.name = t.name) : s = t := by
  have named := congrArg ofName? same
  rw [ofName?_name, ofName?_name] at named
  exact Option.some.inj named

namespace Report

/-! ## Severities -/

/-- The severity that a record holds is at least as grave as the threshold. -/
def RecordReaches (threshold : Severity) (record : Value) : Prop :=
  ∃ s : Severity, record.field? "severity" = some (.text s.name) ∧ s.rank ≤ threshold.rank

/-- The fields of a record. -/
def recordFields (f : Finding) : List (String × Value) :=
  [("classId", .text f.classId), ("severity", .text f.severity.name),
    ("file", .text f.location.file), ("startOffset", .int f.location.start),
    ("endOffset", .int f.location.stop), ("message", .text f.message),
    ("remediationId", .text f.remediationId)]

theorem nodup_recordFields (f : Finding) : ((recordFields f).map Prod.fst).Nodup := by
  have names : (recordFields f).map Prod.fst =
      ["classId", "severity", "file", "startOffset", "endOffset", "message", "remediationId"] := rfl
  rw [names]
  decide

theorem record_eq_table (f : Finding) :
    f.record = .table ((recordFields f).map fun (k, v) => (.text k, v)) :=
  Value.ofFields_of_nodup (nodup_recordFields f)

theorem field?_record {f : Finding} {key : String} {v : Value}
    (inside : (key, v) ∈ recordFields f) : f.record.field? key = some v := by
  have distinct := Value.nodup_text (nodup_recordFields f)
  rw [record_eq_table, Value.field?, Value.lookup_eq]
  exact Assoc.lookup_of_mem distinct (List.mem_map.2 ⟨(key, v), inside, rfl⟩)

theorem recordReaches_record (threshold : Severity) (f : Finding) :
    RecordReaches threshold f.record ↔ f.severity.atLeast threshold = true := by
  have severity : f.record.field? "severity" = some (.text f.severity.name) :=
    field?_record (by simp [recordFields])
  rw [Severity.atLeast, decide_eq_true_iff]
  constructor
  · rintro ⟨s, holds, grave⟩
    rw [severity] at holds
    have same : f.severity.name = s.name := by simpa using holds
    rwa [Severity.name_injective same]
  · intro grave
    exact ⟨f.severity, severity, grave⟩

/-- The findings and their records agree on whether something is too grave. -/
theorem anyReaches_iff_records (findings : List Finding) (threshold : Severity) :
    Finding.anyReaches findings threshold = true ↔
      ∃ record ∈ findings.map Finding.record, RecordReaches threshold record := by
  rw [Finding.anyReaches, List.any_eq_true]
  simp only [List.mem_map, exists_exists_and_eq_and, recordReaches_record]

/-! ## Reading -/

/-- No number in the records has more digits than can be read. -/
def Short (records : List Value) : Prop :=
  ∀ record ∈ records, ∀ key i, record.field? key = some (.int i) → i.natAbs < 10 ^ digitLimit

theorem plain_record {f : Finding}
    (short : ∀ key i, f.record.field? key = some (.int i) → i.natAbs < 10 ^ digitLimit) :
    Json.Plain f.record := by
  rw [record_eq_table]
  apply Json.Plain.table (nodup_recordFields f)
  intro field inside
  have numbers := short field.1
  rw [field?_record inside] at numbers
  simp only [recordFields, List.mem_cons, List.not_mem_nil, or_false] at inside
  rcases inside with rfl | rfl | rfl | rfl | rfl | rfl | rfl
  · exact .text _
  · exact .text _
  · exact .text _
  · exact .int (numbers _ rfl)
  · exact .int (numbers _ rfl)
  · exact .text _
  · exact .text _

/-- The record list is read as the records, also with a line end behind it. -/
theorem parse_records {findings : List Finding} (short : Short (findings.map Finding.record)) :
    Json.parse (records findings ++ "\n").toList = .ok (.list (findings.map Finding.record)) := by
  have plain : Json.Plain (.list (findings.map Finding.record)) := by
    apply Json.Plain.list
    intro record inside
    obtain ⟨f, -, rfl⟩ := List.mem_map.1 inside
    exact plain_record (short f.record inside)
  have space : Json.Space ['\n'] := by
    intro c inside
    exact .inr (List.mem_singleton.1 inside)
  rw [String.toList_append]
  exact Json.parse_indented plain 0 space

end Report
end AccountAudit
