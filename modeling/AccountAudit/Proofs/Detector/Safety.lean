import AccountAudit.Proofs.Analysis.Containment
import AccountAudit.Proofs.Detector.Place
import AccountAudit.Proofs.Registry

/-!
# Built-in detectors never fail

A detector that comes from outside may fail, and the analysis then reports a finding about the failure.
The built-in detectors never are such detectors. Even their strict forms, in which each step without a
result is a fault, find what the detectors themselves find, all of it in the unit, whatever program is
analysed and however malformed its expressions are (`detect_safe`). Two things only are asked of the
unit: its spans lie in its own files, and it has no literal that cannot be written.
-/

namespace AccountAudit

/-! ## Units -/

namespace ProgramUnit

/-- The spans of handlers, accounts, nodes and layouts. -/
def spans (u : ProgramUnit) : List Span :=
  u.handlers.flatMap Handler.spans ++ u.structs.filterMap StructDecl.span

/-- All literals in the expressions of the unit can be written. -/
def HasShortLiterals (u : ProgramUnit) : Prop :=
  ∀ handler ∈ u.handlers, ∀ e, handler.Holds e → e.hasShortLiterals = true

end ProgramUnit

namespace FactBase

variable {u : ProgramUnit} {facts : FactBase}

theorem isTraversable_of_ofUnit (made : ofUnit u = .ok facts) (short : u.HasShortLiterals)
    {found : HandlerFacts} (inside : found ∈ facts.handlers) : found.IsTraversable := by
  rcases exists_handler_of_mem made inside with ⟨handler, declared, extracted⟩
  exact Handler.isTraversable_of_facts extracted (short handler declared)

/-- If all spans lie in files of the unit, so do the places of its handlers. -/
theorem file_mem_files_of_place (made : ofUnit u = .ok facts)
    (owned : ∀ span ∈ u.spans, u.Owns span) {found : HandlerFacts}
    (inside : found ∈ facts.handlers) {place : Location} (member : place ∈ found.places) :
    place.file ∈ u.files := by
  rcases exists_handler_of_mem made inside with ⟨handler, declared, extracted⟩
  rcases Handler.exists_span_of_mem_places extracted member with ⟨span, listed, rfl⟩
  have ofUnit : span ∈ u.spans :=
    List.mem_append_left _ (List.mem_flatMap.2 ⟨handler, declared, listed⟩)
  exact (u.location_mem_files_iff span).2 (owned span ofUnit)

end FactBase

/-! ## Analyses -/

/-- The registry of the strict forms of the built-in detectors. -/
def Registry.strict : Registry :=
  { detectors := Detector.strict, discovered := true, distinct := by decide, named := by decide }

theorem Registry.detectors_withBuiltin : withBuiltin.detectors = Detector.builtin := by
  have all : empty.found = Detector.builtin :=
    List.filter_eq_self.2 fun d _ => by simp [classIds, empty]
  rw [withBuiltin, detectors_discover, all]
  rfl

namespace Analysis

variable {u : ProgramUnit} {facts : FactBase}

theorem isFailure_override (settings : Settings) (f : Finding) :
    isFailure (override settings f) = isFailure f := by
  unfold override
  split <;> rfl

/-- Diagnostics are not about failures. -/
theorem isFailure_of_mem_diagnostics (made : FactBase.ofUnit u = .ok facts) {f : Finding}
    (member : f ∈ facts.diagnostics) : isFailure f = false := by
  rcases FactBase.exists_unresolvedFinding made member with ⟨location, handler, what, rfl⟩
  rfl

/-- Detectors that have the same description and say the same are run alike. -/
theorem collect_congr {r r' : Registry} (settings : Settings)
    (alike : List.Forall₂ (fun d d' => d.info = d'.info ∧ d.detect u facts = d'.detect u facts)
      r.detectors r'.detectors) :
    collect r settings u facts = collect r' settings u facts := by
  have enabled := forall₂_filter alike (p := fun d => settings.isEnabled d.info.classId)
    (q := fun d => settings.isEnabled d.info.classId) fun d d' same => by rw [same.1]
  have ran : ∀ d d' : Detector, (d.info = d'.info ∧ d.detect u facts = d'.detect u facts) →
      runDetector u facts d' = runDetector u facts d := by
    intro d d' same
    rw [runDetector, runDetector, same.1, same.2]
  rw [collect, collect, List.flatMap_def, List.flatMap_def, map_eq_of_forall₂ enabled ran]

/-- A detector that only reports places in the unit is not taken to have failed. -/
theorem runDetector_of_inside {d : Detector} {findings : List Finding}
    (detected : d.detect u facts = .ok findings)
    (inside : ∀ f ∈ findings, f.location.file ∈ u.files) : runDetector u facts d = findings := by
  have none : findings.find? (fun f => !u.files.contains f.location.file) = none :=
    List.find?_eq_none.2 fun f member => by simp [inside f member]
  rw [runDetector, detected]
  simp only [none]

end Analysis

namespace Detector

variable {u : ProgramUnit} {facts : FactBase}

/-- A built-in detector and its strict form say the same, and all of it lies in the unit. -/
structure IsSafe (u : ProgramUnit) (facts : FactBase) (s d : Detector) (findings : List Finding) :
    Prop where
  info : s.info = d.info
  strict : s.detect u facts = .ok findings
  detected : d.detect u facts = .ok findings
  inside : ∀ f ∈ findings, f.location.file ∈ u.files

/-- **Safety.** On the facts of a unit whose spans lie in its files and whose literals can be written,
no step of a built-in detector lacks a result: positions of accounts can be followed, operations have
two operands and expressions can be shown. So the strict forms of the built-in detectors find what
these find, and an analysis of the unit, by the one or the other, reports no failure. -/
theorem detect_safe (made : FactBase.ofUnit u = .ok facts) (owned : ∀ span ∈ u.spans, u.Owns span)
    (short : u.HasShortLiterals) :
    (∀ handler ∈ facts.handlers, handler.IsTraversable) ∧
    List.Forall₂ (fun s d => ∃ findings, IsSafe u facts s d findings) strict builtin ∧
    ∀ settings, ∃ findings, Analysis.run .strict settings u = .ok findings ∧
      Analysis.run .withBuiltin settings u = .ok findings ∧
      ∀ f ∈ findings, Analysis.isFailure f = false := by
  have traversable : ∀ handler ∈ facts.handlers, handler.IsTraversable :=
    fun handler => FactBase.isTraversable_of_ofUnit made short
  have regular : ∀ d ∈ builtin, ∃ findings, d.detect u facts = .ok findings ∧
      ∀ f ∈ findings, f.location.file ∈ u.files ∧ Analysis.isFailure f = false := by
    intro d listed
    rcases exists_regular_of_mem_builtin listed u facts with ⟨findings, detected, regular⟩
    refine ⟨findings, detected, fun f member => ?_⟩
    rcases regular f member with ⟨handler, inside, isRegular⟩
    exact ⟨FactBase.file_mem_files_of_place made owned inside isRegular.place, isRegular.unmarked⟩
  refine ⟨traversable, ?_, fun settings => ?_⟩
  · have forms := (List.forall₂_and_left _ _).2 ⟨regular, forall₂_strict.flip⟩
    refine forms.flip.imp fun s d safe => ?_
    rcases safe with ⟨⟨findings, detected, fine⟩, form⟩
    have strict : s.detect u facts = .ok findings :=
      (form.detect u facts traversable).trans detected
    exact ⟨findings, form.info, strict, detected, fun f member => (fine f member).1⟩
  · have same : Analysis.collect .strict settings u facts =
        Analysis.collect .withBuiltin settings u facts := by
      refine Analysis.collect_congr settings ?_
      rw [Registry.detectors_withBuiltin]
      exact forall₂_strict.imp fun s d form => ⟨form.info, form.detect u facts traversable⟩
    refine ⟨_, ?_, map_eq_ok_iff.2 ⟨facts, made, rfl⟩, fun f member => ?_⟩
    · exact map_eq_ok_iff.2 ⟨facts, made, congrArg (Analysis.reduce settings) same⟩
    · rcases Analysis.exists_source member with ⟨g, collected, rfl⟩
      rw [Analysis.isFailure_override]
      rcases List.mem_append.1 collected with diagnostic | detected
      · exact Analysis.isFailure_of_mem_diagnostics made diagnostic
      · rcases List.mem_flatMap.1 detected with ⟨d, enabled, reported⟩
        have listed := (List.mem_filter.1 enabled).1
        rw [Registry.detectors_withBuiltin] at listed
        rcases regular d listed with ⟨findings, said, fine⟩
        rw [Analysis.runDetector_of_inside said fun f member => (fine f member).1] at reported
        exact (fine g reported).2

/-! ### A handler that every kind of step is needed for -/

/-- The keeper of a pot reads it, takes the stake off, empties it and calls whatever the pot says. -/
def emptyPot : Handler :=
  { name := "init_and_empty"
    span := .ofLength 0 30
    params :=
      [{ name := "pot", typeTag := "Account<'info, Pot>", isMut := true,
         attributes := [("space", .int 64)], span := .ofLength 0 1 },
       { name := "keeper", typeTag := "Signer<'info>", span := .ofLength 1 1 }]
    args := [{ name := "stake", typeTag := "u64" }]
    body :=
      [⟨.ofLength 2 1, .call "Pot::try_from_slice" "" [.ofPath "pot.data"]⟩,
       ⟨.ofLength 3 1, .arith "-" (.ofPath "pot.total") (.ofPath "stake") none⟩,
       ⟨.ofLength 4 1, .assign (.ofPath "pot.lamports") (.ofValue (.int 0))⟩,
       ⟨.ofLength 5 1, .assign (.ofPath "pot.total") (.ofValue (.int 0))⟩,
       ⟨.ofLength 6 1, .invoke (.ofPath "pot.program") true⟩]
    params_distinct := by simp }

def raffle : ProgramUnit :=
  { name := "raffle", file := "raffle.json", handlers := [emptyPot],
    structs := [{ name := "Pot", size := some 8 }, { name := "Ticket", size := some 8 }],
    handlers_distinct := by simp }

theorem owns_raffle : ∀ span ∈ raffle.spans, raffle.Owns span := by
  have unnamed : ∀ span ∈ raffle.spans, span.file = "" := by decide
  exact fun span listed => .inl (unnamed span listed)

theorem hasShortLiterals_raffle : raffle.HasShortLiterals := by
  intro handler inside e holds
  obtain rfl := List.mem_singleton.1 inside
  have nodes : ∀ node ∈ emptyPot.body, ∀ e ∈ node.exprs, e.hasShortLiterals = true := by
    decide +kernel
  cases holds with
  | ofAttribute declared carried listed stated =>
    rcases List.mem_pair.1 declared with rfl | rfl
    · cases List.mem_singleton.1 carried
      obtain rfl := List.mem_singleton.1 listed
      have read : Expr.read (Resolved.withoutRemark (.int 64)) = .ok (.ofValue (.int 64)) := rfl
      obtain rfl := Except.ok.inj (read.symm.trans stated.1)
      decide +kernel
    · cases carried
  | ofNode within inside => exact nodes _ within _ inside

/-- Neither form of the detectors fails on the handler. -/
theorem detect_safe_raffle :
    ∃ facts findings, FactBase.ofUnit raffle = .ok facts ∧
      (∀ span ∈ raffle.spans, raffle.Owns span) ∧ raffle.HasShortLiterals ∧
      List.Forall₂ (fun s d => ∃ findings, IsSafe raffle facts s d findings) strict builtin ∧
      Analysis.run .strict {} raffle = .ok findings ∧
      Analysis.run .withBuiltin {} raffle = .ok findings ∧
      ∀ f ∈ findings, Analysis.isFailure f = false := by
  have made : ∃ facts, FactBase.ofUnit raffle = .ok facts := ⟨_, rfl⟩
  rcases made with ⟨facts, made⟩
  rcases detect_safe made owns_raffle hasShortLiterals_raffle with ⟨-, safe, analysed⟩
  rcases analysed {} with ⟨findings, strict, builtin, unmarked⟩
  exact ⟨facts, findings, made, owns_raffle, hasShortLiterals_raffle, safe, strict, builtin,
    unmarked⟩

end Detector

end AccountAudit
