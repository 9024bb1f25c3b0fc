import AccountAudit.Proofs.Analysis.Independence
import AccountAudit.Proofs.Analysis.Reduced
import AccountAudit.Proofs.Fact.Diagnostic

/-!
# Where findings lie

A detector that reports a place outside the unit is taken to have failed, so whatever detectors give
to an analysis lies in a file of the unit. Diagnostics are not checked in this way: they lie where the
document says that a construct stands, and a span may name any file.

The main statement `findings_inside_iff` says that the diagnostics are the only way out of a unit, and
that the findings on a unit lie in it exactly if each of its constructs that is reported outside of it
is suppressed.
-/

namespace AccountAudit

/-! ## Files of a unit -/

namespace ProgramUnit

/-- The span lies in a file of the unit. -/
def Owns (u : ProgramUnit) (span : Span) : Prop :=
  span.file = "" ∨ span.file ∈ u.files

theorem file_mem_files (u : ProgramUnit) : u.file ∈ u.files :=
  Text.mem_distinctSorted.2 List.mem_cons_self

theorem file_location (u : ProgramUnit) (span : Span) :
    (u.location span).file = if span.file = "" then u.file else span.file := by
  simp [location]

theorem location_mem_files_iff (u : ProgramUnit) (span : Span) :
    (u.location span).file ∈ u.files ↔ u.Owns span := by
  rw [file_location, Owns]
  by_cases unnamed : span.file = ""
  · simp [unnamed, u.file_mem_files]
  · simp [unnamed]

/-- A construct of the unit that a diagnostic is made about stands at the span. -/
inductive Reported (u : ProgramUnit) : Span → Prop where
  | account {handler : Handler} {account : Account} (inside : handler ∈ u.handlers)
      (declared : account ∈ handler.params)
      (unresolved : account.hasUnresolved handler.accountNames = true) : Reported u account.span
  | node {handler : Handler} {node : BodyNode} (inside : handler ∈ u.handlers)
      (within : node ∈ handler.body) (unknown : node.hasUnknown = true)
      (diagnosed : node.isDiagnosed = true) : Reported u node.span

theorem mem_unresolved_iff (u : ProgramUnit) (location : Location) :
    (∃ subject ∈ u.unresolved fun node => node.hasUnknown && node.isDiagnosed,
        subject.2.2 = location) ↔
      ∃ span, u.Reported span ∧ u.location span = location := by
  simp only [unresolved, Handler.unresolved, List.mem_flatMap, List.mem_append, List.mem_map,
    List.mem_filter, Bool.and_eq_true]
  constructor
  · intro named
    rcases named with ⟨_, ⟨handler, inside, ⟨account, ⟨declared, unresolved⟩, rfl⟩ |
      ⟨node, ⟨within, unknown, diagnosed⟩, rfl⟩⟩, rfl⟩
    · exact ⟨account.span, .account inside declared unresolved, rfl⟩
    · exact ⟨node.span, .node inside within unknown diagnosed, rfl⟩
  · intro reported
    rcases reported with ⟨_, @⟨handler, account, inside, declared, unresolved⟩ |
      @⟨handler, node, inside, within, unknown, diagnosed⟩, rfl⟩
    · exact ⟨_, ⟨handler, inside, .inl ⟨account, ⟨declared, unresolved⟩, rfl⟩⟩, rfl⟩
    · exact ⟨_, ⟨handler, inside, .inr ⟨node, ⟨within, unknown, diagnosed⟩, rfl⟩⟩, rfl⟩

end ProgramUnit

namespace FactBase

theorem subjects_of_ofUnit {u : ProgramUnit} {facts : FactBase} (made : ofUnit u = .ok facts) :
    facts.diagnostics.map Finding.subject =
      u.unresolved fun node => node.hasUnknown && node.isDiagnosed := by
  rcases ofUnit_eq_ok.1 made with ⟨handlers, structs, extracted, -, rfl⟩
  dsimp only
  rw [List.map_flatMap, ProgramUnit.unresolved]
  exact flatMap_zip_of_forall₂ (forall₂_of_handlersOf extracted) fun handler facts =>
    Handler.subjects_of_diagnostics

/-- Diagnostics lie where constructs are reported. -/
theorem mem_diagnostics_location_iff {u : ProgramUnit} {facts : FactBase}
    (made : ofUnit u = .ok facts) (location : Location) :
    (∃ f ∈ facts.diagnostics, f.location = location) ↔
      ∃ span, u.Reported span ∧ u.location span = location := by
  rw [← u.mem_unresolved_iff, ← subjects_of_ofUnit made]
  simp [Finding.subject]

end FactBase

/-! ## What an analysis gives -/

namespace Analysis

variable {u : ProgramUnit} {facts : FactBase}

/-- Also the finding about a failed detector lies in the unit. -/
theorem file_of_mem_runDetector {d : Detector} {f : Finding} (member : f ∈ runDetector u facts d) :
    f.location.file ∈ u.files := by
  unfold runDetector at member
  split at member
  · obtain rfl := List.mem_singleton.1 member
    exact u.file_mem_files
  · split at member
    · obtain rfl := List.mem_singleton.1 member
      exact u.file_mem_files
    · rename_i allInside
      simpa using List.find?_eq_none.1 allInside f member

theorem mem_diagnostics_of_mem_collect {registry : Registry} {settings : Settings} {f : Finding}
    (member : f ∈ collect registry settings u facts) (outside : f.location.file ∉ u.files) :
    f ∈ facts.diagnostics := by
  rcases List.mem_append.1 member with diagnostic | detected
  · exact diagnostic
  · rcases List.mem_flatMap.1 detected with ⟨d, -, reported⟩
    exact absurd (file_of_mem_runDetector reported) outside

theorem location_override (settings : Settings) (f : Finding) :
    (override settings f).location = f.location := by
  unfold override
  split <;> rfl

theorem classId_override (settings : Settings) (f : Finding) :
    (override settings f).classId = f.classId :=
  congrArg FindingKey.classId (key_override settings f)

/-- A finding is one that was collected, but perhaps for its severity. -/
theorem exists_source {registry : Registry} {settings : Settings} {f : Finding}
    (member : f ∈ ofFacts registry settings u facts) :
    ∃ g ∈ collect registry settings u facts, override settings g = f := by
  rcases mem_reduce.1 member with ⟨-, g, first, overridden⟩
  exact ⟨g, List.mem_of_find?_eq_some first, overridden⟩

/-- A diagnostic is left out only if it is suppressed. -/
theorem exists_kept (registry : Registry) (settings : Settings) {g : Finding}
    (diagnostic : g ∈ facts.diagnostics) (shown : settings.isSuppressed g = false) :
    ∃ f ∈ ofFacts registry settings u facts, f.key = g.key := by
  have collected : g ∈ collect registry settings u facts := List.mem_append_left _ diagnostic
  have notSilenced : ¬ ∃ f : Finding, f.key = g.key ∧
      settings.suppressions.any (·.applies f) = true := by
    intro silenced
    rcases silenced with ⟨f, same, applies⟩
    have hidden : settings.isSuppressed g = true :=
      (isSuppressed_congr settings same).symm.trans applies
    simp [shown] at hidden
  have kept : g.key ∈ (ofFacts registry settings u facts).map Finding.key :=
    ((reduces_reduce settings _).mem_keys_iff g.key).2
      ⟨List.mem_map_of_mem collected, notSilenced⟩
  exact List.mem_map.1 kept

/-- A finding outside the unit is a diagnostic of a construct in a foreign file. -/
theorem exists_reported_of_outside {registry : Registry} {settings : Settings}
    (extracted : FactBase.ofUnit u = .ok facts) {f : Finding}
    (member : f ∈ ofFacts registry settings u facts) (outside : f.location.file ∉ u.files) :
    f.classId = unresolvedClassId ∧
      ∃ span, u.Reported span ∧ ¬ u.Owns span ∧ f.location = u.location span := by
  rcases exists_source member with ⟨g, collected, rfl⟩
  rw [location_override] at outside ⊢
  have diagnostic := mem_diagnostics_of_mem_collect collected outside
  rcases (FactBase.mem_diagnostics_location_iff extracted g.location).1 ⟨g, diagnostic, rfl⟩ with
    ⟨span, reported, place⟩
  refine ⟨?_, span, reported, ?_, place.symm⟩
  · exact (classId_override settings g).trans
      (FactBase.classId_of_mem_diagnostics extracted diagnostic)
  · intro owned
    exact outside (place ▸ (u.location_mem_files_iff span).2 owned)

/-- Suppressions see the class and the location of a finding. -/
theorem isSuppressed_eq (settings : Settings) (f : Finding) :
    settings.isSuppressed f =
      settings.suppressions.any fun s => s.silences f.classId f.location :=
  rfl

/-- **Containment.** A finding that lies outside its unit stands where the unit has a construct that is
reported as not understood, at a span in a foreign file. So all findings lie in the unit exactly if
each such construct is suppressed. -/
theorem findings_inside_iff {registry : Registry} {settings : Settings} {findings : List Finding}
    (analysed : run registry settings u = .ok findings) :
    (∀ f ∈ findings, f.location.file ∉ u.files →
        f.classId = unresolvedClassId ∧
          ∃ span, u.Reported span ∧ ¬ u.Owns span ∧ f.location = u.location span) ∧
      ((∀ f ∈ findings, f.location.file ∈ u.files) ↔
        ∀ span, u.Reported span → u.Owns span ∨
          settings.suppressions.any (fun s => s.silences unresolvedClassId (u.location span)) =
            true) := by
  rcases map_eq_ok_iff.1 analysed with ⟨facts, extracted, rfl⟩
  refine ⟨fun f member => exists_reported_of_outside extracted member, ?_, ?_⟩
  · intro allInside span reported
    by_contra neither
    rw [not_or, Bool.not_eq_true] at neither
    rcases (FactBase.mem_diagnostics_location_iff extracted (u.location span)).2
      ⟨span, reported, rfl⟩ with ⟨g, diagnostic, place⟩
    have shown : settings.isSuppressed g = false := by
      rw [isSuppressed_eq, FactBase.classId_of_mem_diagnostics extracted diagnostic, place]
      exact neither.2
    -- The diagnostic is not suppressed, so a finding stays at its place.
    rcases exists_kept registry settings diagnostic shown with ⟨f, kept, same⟩
    have sameFile : f.location.file = g.location.file := congrArg FindingKey.file same
    have inside : f.location.file ∈ u.files := allInside f kept
    rw [sameFile, place, u.location_mem_files_iff] at inside
    exact neither.1 inside
  · intro suppressed f member
    by_contra outside
    rcases exists_reported_of_outside extracted member outside with
      ⟨classId, span, reported, foreign, place⟩
    have silenced := (suppressed span reported).resolve_left foreign
    have shown : settings.isSuppressed f = false := (mem_reduce.1 member).1
    rw [isSuppressed_eq, classId, place, silenced] at shown
    cases shown

/-! ### A construct in a foreign file -/

def spot (file : String) : Span :=
  { Span.ofLength 0 1 with file }

/-- An account that is declared in some file and has a text in place of a flag. -/
def misflagged (file : String) : Account :=
  { name := "vault"
    typeTag := "Account<'info, Vault>"
    attributes := [("signer", .text "owner")]
    span := spot file }

def payout (file : String) : Handler :=
  { name := "pay", span := .ofLength 0 9, params := [misflagged file], params_distinct := by simp }

/-- A unit in which the account stands. -/
def treasury (file : String) : ProgramUnit :=
  { name := "treasury", file := "treasury.json", handlers := [payout file],
    handlers_distinct := by simp }

theorem reported_treasury_iff {file : String} {span : Span} :
    (treasury file).Reported span ↔ span = spot file := by
  constructor
  · intro reported
    cases reported with
    | account inside declared _ =>
      obtain rfl := List.mem_singleton.1 inside
      obtain rfl := List.mem_singleton.1 declared
      rfl
    | node inside within _ _ =>
      obtain rfl := List.mem_singleton.1 inside
      cases within
  · rintro rfl
    have inside : payout file ∈ (treasury file).handlers := List.mem_cons_self
    have declared : misflagged file ∈ (payout file).params := List.mem_cons_self
    exact .account inside declared rfl

/-- What is not understood in the unit's own file is reported there. -/
theorem findings_inside_iff_treasury :
    ∃ findings, run .empty {} (treasury "treasury.json") = .ok findings ∧
      (treasury "treasury.json").Reported (spot "treasury.json") ∧
      ∀ f ∈ findings, f.location.file ∈ (treasury "treasury.json").files := by
  have analysed : ∃ findings, run .empty {} (treasury "treasury.json") = .ok findings := ⟨_, rfl⟩
  rcases analysed with ⟨findings, analysed⟩
  refine ⟨findings, analysed, reported_treasury_iff.2 rfl, (findings_inside_iff analysed).2.2 ?_⟩
  intro span reported
  obtain rfl := reported_treasury_iff.1 reported
  exact .inl (.inr (by decide))

/-- What is not understood in a foreign file is reported outside the unit. -/
theorem treasury_finding_outside :
    ∃ findings, run .empty {} (treasury "elsewhere.json") = .ok findings ∧
      ∃ f ∈ findings, f.location.file = "elsewhere.json" ∧
        f.location.file ∉ (treasury "elsewhere.json").files := by
  have extracted : ∃ facts, FactBase.ofUnit (treasury "elsewhere.json") = .ok facts := ⟨_, rfl⟩
  rcases extracted with ⟨facts, extracted⟩
  refine ⟨ofFacts .empty {} (treasury "elsewhere.json") facts,
    map_eq_ok_iff.2 ⟨facts, extracted, rfl⟩, ?_⟩
  rcases (FactBase.mem_diagnostics_location_iff extracted _).2
    ⟨_, reported_treasury_iff.2 rfl, rfl⟩ with ⟨g, diagnostic, place⟩
  rcases exists_kept .empty {} diagnostic rfl with ⟨f, kept, same⟩
  have file : f.location.file = "elsewhere.json" := by
    calc f.location.file
      _ = g.location.file := congrArg FindingKey.file same
      _ = "elsewhere.json" := congrArg Location.file place
  refine ⟨f, kept, file, ?_⟩
  rw [file]
  decide

end Analysis
end AccountAudit
