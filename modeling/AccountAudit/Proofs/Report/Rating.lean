import AccountAudit.Proofs.Report.Assembly
import AccountAudit.Report.Sarif

/-!
# How grave a class is in the two formats

A class report is as grave as the gravest finding of its class, in whatever order the findings came
(`gravest_of_mem_assemble`). The SARIF document has one rule for each class as well, but makes it of
the finding of the class that comes first (`mem_firstOfClasses`).

So the rules have the level and the score of the reports if, and only if, the first finding of every
class is as grave as all others of the class (`rules_rate_reports_iff`).
-/

namespace AccountAudit

namespace Severity

theorem rank_injective {s t : Severity} (same : s.rank = t.rank) : s = t := by
  cases s <;> cases t <;> first | rfl | cases same

end Severity

namespace Finding

variable {findings : List Finding} {f g : Finding} {classId : String} {s t : Severity}

/-! ## The gravest finding of a class -/

/-- The severity of the gravest finding of a class. -/
structure Gravest (severity : Severity) (classId : String) (findings : List Finding) : Prop where
  found : ∃ f ∈ findings, f.classId = classId ∧ f.severity = severity
  least : ∀ f ∈ findings, f.classId = classId → severity.rank ≤ f.severity.rank

theorem Gravest.unique (h : Gravest s classId findings) (h' : Gravest t classId findings) :
    s = t := by
  obtain ⟨f, hf, ofThis, rfl⟩ := h.found
  obtain ⟨g, hg, ofThis', rfl⟩ := h'.found
  apply Severity.rank_injective
  exact Nat.le_antisymm (h.least g hg ofThis') (h'.least f hf ofThis)

/-! ## The first finding of a class -/

/-- No finding of the class comes earlier. -/
def IsFirst (f : Finding) (findings : List Finding) : Prop :=
  ∃ front back, findings = front ++ f :: back ∧ ∀ g ∈ front, g.classId ≠ f.classId

theorem classId_of_ofClass {rest : List Finding} (all : ofClass classId findings = f :: rest) :
    f.classId = classId := by
  have member : f ∈ ofClass classId findings := by simp [all]
  exact (mem_ofClass.1 member).2

theorem isFirst_iff :
    IsFirst f findings ↔ ∃ rest, ofClass f.classId findings = f :: rest := by
  unfold IsFirst ofClass
  constructor
  · intro h
    obtain ⟨front, back, rfl, none⟩ := h
    have skipped : (front.filter fun g => g.classId == f.classId) = [] := by
      simpa using none
    exact ⟨back.filter fun g => g.classId == f.classId, by simp [skipped]⟩
  · intro h
    obtain ⟨rest, all⟩ := h
    obtain ⟨front, back, whole, none, -, -⟩ := List.filter_eq_cons_iff.1 all
    exact ⟨front, back, whole, fun g earlier => by simpa using none g earlier⟩

theorem IsFirst.mem (h : IsFirst f findings) : f ∈ findings := by
  obtain ⟨front, back, rfl, -⟩ := h
  simp

theorem IsFirst.unique (h : IsFirst f findings) (h' : IsFirst g findings)
    (ofOne : f.classId = g.classId) : f = g := by
  obtain ⟨rest, all⟩ := isFirst_iff.1 h
  obtain ⟨rest', all'⟩ := isFirst_iff.1 h'
  rw [← ofOne, all] at all'
  exact (List.cons.inj all').1

/-- Every class that was found has a first finding. -/
theorem exists_isFirst (found : g ∈ findings) :
    ∃ f, IsFirst f findings ∧ f.classId = g.classId := by
  have inside : g ∈ ofClass g.classId findings := mem_ofClass.2 ⟨found, rfl⟩
  cases all : ofClass g.classId findings with
  | nil => simp [all] at inside
  | cons f rest =>
    have ofOne := classId_of_ofClass all
    exact ⟨f, isFirst_iff.2 ⟨rest, ofOne ▸ all⟩, ofOne⟩

end Finding

/-! ## Reports -/

namespace ClassReport

open Finding

variable {registry : Registry} {units : List ProgramUnit} {findings : List Finding}
  {report : ClassReport}

theorem rank_graver_le (a b : Severity) :
    (graver a b).rank ≤ a.rank ∧ (graver a b).rank ≤ b.rank := by
  unfold graver
  split <;> omega

/-- The gravest severity is one of those that were looked at, and none of them is graver. -/
theorem foldl_graver (severity : Severity) (rest : List Finding) :
    let gravest := rest.foldl (fun severity f => graver severity f.severity) severity
    (gravest = severity ∨ ∃ f ∈ rest, f.severity = gravest) ∧
      gravest.rank ≤ severity.rank ∧ ∀ f ∈ rest, gravest.rank ≤ f.severity.rank := by
  induction rest generalizing severity with
  | nil => simp
  | cons f rest ih =>
    obtain ⟨found, below, least⟩ := ih (graver severity f.severity)
    have ⟨left, right⟩ := rank_graver_le severity f.severity
    rw [List.foldl_cons]
    refine ⟨?_, Nat.le_trans below left, List.forall_mem_cons.2 ⟨Nat.le_trans below right, least⟩⟩
    rcases found with same | ⟨g, later, same⟩
    · rw [same]
      unfold graver
      split
      · exact .inr ⟨f, List.mem_cons_self, rfl⟩
      · exact .inl rfl
    · exact .inr ⟨g, List.mem_cons_of_mem f later, same⟩

theorem gravest_of_mem_assemble (member : report ∈ assemble registry units findings) :
    Gravest report.severity report.classId findings := by
  obtain ⟨classId, first, rest, all, rfl⟩ := mem_assemble.1 member
  have inClass : ∀ f, f ∈ first :: rest ↔ f ∈ findings ∧ f.classId = classId := by
    intro f
    rw [← all, mem_ofClass_sort]
  obtain ⟨found, below, least⟩ := foldl_graver first.severity rest
  constructor
  · rcases found with same | ⟨f, later, same⟩
    · have head := (inClass first).1 List.mem_cons_self
      exact ⟨first, head.1, head.2, same.symm⟩
    · have inside := (inClass f).1 (List.mem_cons_of_mem first later)
      exact ⟨f, inside.1, inside.2, same⟩
  · intro f inside ofThis
    cases (inClass f).2 ⟨inside, ofThis⟩ with
    | head => exact below
    | tail _ later => exact least f later

end ClassReport

/-! ## Rules -/

namespace Report
namespace Sarif

open Finding

variable {registry : Registry} {units : List ProgramUnit} {findings : List Finding} {f : Finding}
  {v : Value} {classId classId' : String} {s t : Severity}

theorem mem_firstOfClasses : f ∈ firstOfClasses findings ↔ IsFirst f findings := by
  rw [isFirst_iff, firstOfClasses, List.mem_filterMap]
  constructor
  · intro h
    obtain ⟨⟨classId, group⟩, member, first⟩ := h
    cases group with
    | nil => cases first
    | cons g rest =>
      obtain rfl := Option.some.inj first
      have all := mem_gather_classes.1 member
      exact ⟨rest, classId_of_ofClass all ▸ all⟩
  · intro h
    obtain ⟨rest, all⟩ := h
    exact ⟨(f.classId, f :: rest), mem_gather_classes.2 all, rfl⟩

/-- No class has two first findings. -/
theorem nodup_firstOfClasses (findings : List Finding) :
    ((firstOfClasses findings).map Finding.classId).Nodup := by
  have keys := Assoc.nodup_keys_gather (findings.map fun f => (f.classId, f))
  -- What is taken of a group has the key of the group.
  have ofKey : ∀ entry ∈ Assoc.gather (findings.map fun f => (f.classId, f)), ∀ f,
      entry.2.head? = some f → f.classId = entry.1 := by
    intro entry member f first
    obtain ⟨classId, group⟩ := entry
    cases group with
    | nil => cases first
    | cons g rest =>
      obtain rfl := Option.some.inj first
      exact classId_of_ofClass (mem_gather_classes.1 member)
  rw [List.Nodup, List.pairwise_map] at keys ⊢
  rw [firstOfClasses, List.pairwise_filterMap]
  refine keys.imp_of_mem fun {entry entry'} here there different f first f' first' => ?_
  rw [ofKey entry here f first, ofKey entry' there f' first']
  exact different

/-- The items of a list. -/
def items : Value → List Value
  | .list vs => vs
  | _ => []

/-- The rules of a document, run by run. -/
def rulesOf (document : Value) : List Value :=
  (items ((document.field? "runs").getD .null)).flatMap fun run =>
    let driver := (run.field? "tool").bind (·.field? "driver")
    items ((driver.bind (·.field? "rules")).getD .null)

/-- A rule is about a class and has the level and the score of a severity. -/
structure Rates (rule : Value) (classId : String) (severity : Severity) : Prop where
  id : rule.field? "id" = some (.text classId)
  level : (rule.field? "defaultConfiguration").bind (·.field? "level") =
    some (.text (level severity))
  score : (rule.field? "properties").bind (·.field? "security-severity") =
    some (.text (score severity))

theorem rulesOf_document (registry : Registry) (findings : List Finding) :
    rulesOf (document registry findings) = (firstOfClasses findings).map (rule registry) :=
  -- There is one run.
  List.append_nil _

theorem rates_rule (registry : Registry) (f : Finding) :
    Rates (rule registry f) f.classId f.severity := by
  constructor
  · rfl
  · rfl
  · change (ruleProperties f).field? "security-severity" = _
    unfold ruleProperties
    cases Remediation.get? f.remediationId <;> rfl

theorem score_injective (same : score s = score t) : s = t := by
  cases s <;> cases t <;> first | rfl | exact absurd same (by decide)

theorem Rates.unique (h : Rates v classId s) (h' : Rates v classId' t) :
    classId = classId' ∧ s = t := by
  have ids := h.id.symm.trans h'.id
  have scores := h.score.symm.trans h'.score
  simp only [Option.some.injEq, Value.text, Value.scalar.injEq, Scalar.text.injEq] at ids scores
  exact ⟨ids, score_injective scores⟩

/-- Every rule is made of the first finding of its class. -/
theorem exists_isFirst_of_mem_rulesOf (member : v ∈ rulesOf (document registry findings)) :
    ∃ f, IsFirst f findings ∧ Rates v f.classId f.severity := by
  rw [rulesOf_document] at member
  obtain ⟨f, first, rfl⟩ := List.mem_map.1 member
  exact ⟨f, mem_firstOfClasses.1 first, rates_rule registry f⟩

/-- There is one rule for each class that was found, and no other. -/
theorem exists_ids_rulesOf (registry : Registry) (findings : List Finding) :
    ∃ ids : List String,
      (rulesOf (document registry findings)).map (·.field? "id") = ids.map (some ∘ .text) ∧
        ids.Nodup ∧ ∀ id, id ∈ ids ↔ ∃ f ∈ findings, f.classId = id := by
  refine ⟨(firstOfClasses findings).map Finding.classId, ?_, nodup_firstOfClasses findings, ?_⟩
  · rw [rulesOf_document, List.map_map, List.map_map]
    rfl
  · intro id
    rw [List.mem_map]
    constructor
    · intro h
      obtain ⟨f, first, ofThis⟩ := h
      exact ⟨f, (mem_firstOfClasses.1 first).mem, ofThis⟩
    · intro h
      obtain ⟨g, found, rfl⟩ := h
      obtain ⟨f, first, ofOne⟩ := exists_isFirst found
      exact ⟨f, mem_firstOfClasses.2 first, ofOne⟩

/-- The first finding of every class is as grave as all findings of the class. -/
def FirstAreGravest (findings : List Finding) : Prop :=
  ∀ f, IsFirst f findings → ∀ g ∈ findings, g.classId = f.classId →
    f.severity.rank ≤ g.severity.rank

/-- The document has a rule for the class of every report, with its severity. -/
def AgreesWith (document : Value) (reports : List ClassReport) : Prop :=
  ∀ report ∈ reports, ∃ rule ∈ rulesOf document, Rates rule report.classId report.severity

theorem agreesWith_iff (registry : Registry) (units : List ProgramUnit)
    (findings : List Finding) :
    AgreesWith (document registry findings) (ClassReport.assemble registry units findings) ↔
      FirstAreGravest findings := by
  constructor
  · intro agrees f first g found ofOne
    obtain ⟨report, member, ofThis⟩ :=
      ClassReport.exists_report_of_mem registry units first.mem
    obtain ⟨rule, listed, rated⟩ := agrees report member
    obtain ⟨f', first', rated'⟩ := exists_isFirst_of_mem_rulesOf listed
    have same := rated'.unique rated
    -- The rule is made of the first finding of the class, which is `f`.
    obtain rfl := first.unique first' (ofThis.symm.trans same.1.symm)
    rw [same.2]
    exact (ClassReport.gravest_of_mem_assemble member).least g found (ofOne.trans ofThis.symm)
  · intro gravest report member
    have top := ClassReport.gravest_of_mem_assemble member
    obtain ⟨g, found, ofThis, -⟩ := top.found
    obtain ⟨f, first, ofOne⟩ := exists_isFirst found
    have ofReport : f.classId = report.classId := ofOne.trans ofThis
    have leads : Gravest f.severity report.classId findings :=
      { found := ⟨f, first.mem, ofReport, rfl⟩
        least := fun h inside same => gravest f first h inside (same.trans ofReport.symm) }
    refine ⟨rule registry f, ?_, ?_⟩
    · rw [rulesOf_document]
      exact List.mem_map_of_mem (mem_firstOfClasses.2 first)
    · rw [← ofReport, top.unique leads]
      exact rates_rule registry f

/-- The document has exactly one rule for each class that was found, rated by the first finding of the
class, while the report on the class is as grave as the gravest one. The two agree on all classes if,
and only if, no finding is graver than the first one of its class. -/
theorem rules_rate_reports_iff (registry : Registry) (units : List ProgramUnit)
    (findings : List Finding) :
    (∃ ids : List String,
      (rulesOf (document registry findings)).map (·.field? "id") = ids.map (some ∘ .text) ∧
        ids.Nodup ∧ ∀ id, id ∈ ids ↔ ∃ f ∈ findings, f.classId = id) ∧
    (∀ rule ∈ rulesOf (document registry findings), ∃ f, IsFirst f findings ∧
      Rates rule f.classId f.severity) ∧
    (∀ report ∈ ClassReport.assemble registry units findings,
      Gravest report.severity report.classId findings) ∧
    (AgreesWith (document registry findings) (ClassReport.assemble registry units findings) ↔
      FirstAreGravest findings) :=
  ⟨exists_ids_rulesOf registry findings,
    fun _ listed => exists_isFirst_of_mem_rulesOf listed,
    fun _ member => ClassReport.gravest_of_mem_assemble member,
    agreesWith_iff registry units findings⟩

/-- A sum that may overflow, in some line of one file. -/
def sum (line : Int) (severity : Severity) : Finding :=
  { classId := "SOL-003", title := "Unchecked arithmetic", message := "May overflow.", severity
    location := { file := "ledger.rs", start := 20 * line, stop := 20 * line + 19, line } }

/-- A grave finding behind a harmless one of its class does not count for the rule. -/
theorem sums_rated_apart :
    ¬ AgreesWith (document {} [sum 1 .low, sum 2 .high])
      (ClassReport.assemble {} [] [sum 1 .low, sum 2 .high]) := by
  rw [agreesWith_iff]
  intro gravest
  have first : IsFirst (sum 1 .low) [sum 1 .low, sum 2 .high] := ⟨[], [sum 2 .high], rfl, by simp⟩
  have := gravest _ first (sum 2 .high) (by simp) rfl
  contradiction

end Sarif
end Report
end AccountAudit
