import AccountAudit.Proofs.Fact.Extraction
import AccountAudit.Proofs.Fact.Resolution
import AccountAudit.Proofs.Program.Layout
import AccountAudit.Proofs.Text.Split

/-!
# Which units have facts

A unit has facts unless one of three things is in it (`ProgramUnit.IsExtractable`): an attribute that
ends the extraction (`Resolved.Aborts`), a condition that was neither understood nor can be shown, or a
layout whose size cannot be found (`StructDecl.Aborts`). The facts of a unit settle every attribute
(`FactBase.Settles`): it has its meaning, or it is marked as unresolved and reported.
-/

namespace AccountAudit

/-! ## Success, part by part -/

namespace AccountFact

theorem exists_attributes?_iff {names : List String} {raws : List (String × Value)} :
    (∃ attributes, attributes? names raws = .ok attributes) ↔
      ∀ raw ∈ raws, ¬ Resolved.Aborts names raw.1 raw.2 := by
  induction raws with
  | nil => exact iff_of_true ⟨[], rfl⟩ (by simp)
  | cons raw rest ih =>
    rcases raw with ⟨kind, raw⟩
    rw [List.forall_mem_cons, ← ih, ← Resolved.exists_ofAttribute_iff]
    constructor
    · rintro ⟨attributes, made⟩
      rcases attributes?_cons_eq_ok.1 made with ⟨value, more, said, others, -⟩
      exact ⟨⟨value, said⟩, more, others⟩
    · rintro ⟨⟨value, said⟩, more, others⟩
      exact ⟨_, attributes?_cons_eq_ok.2 ⟨value, more, said, others, rfl⟩⟩

theorem exists_ofAccount_iff (u : ProgramUnit) (handler : Handler) (index : Nat)
    (account : Account) :
    (∃ fact, ofAccount u handler index account = .ok fact) ↔
      ∀ raw ∈ account.attributes, ¬ Resolved.Aborts handler.accountNames raw.1 raw.2 := by
  rw [ofAccount, exists_map_iff]
  exact exists_attributes?_iff

end AccountFact

namespace Handler

theorem exists_accountFacts_iff {u : ProgramUnit} {handler : Handler} {index : Nat}
    {accounts : List Account} :
    (∃ facts, accountFacts u handler index accounts = .ok facts) ↔
      ∀ account ∈ accounts, ∀ raw ∈ account.attributes,
        ¬ Resolved.Aborts handler.accountNames raw.1 raw.2 := by
  induction accounts generalizing index with
  | nil => exact iff_of_true ⟨[], rfl⟩ (by simp)
  | cons account rest ih =>
    rw [List.forall_mem_cons, ← @ih (index + 1),
      ← AccountFact.exists_ofAccount_iff u handler index account]
    constructor
    · rintro ⟨facts, made⟩
      rcases accountFacts_cons_eq_ok.1 made with ⟨fact, more, extracted, others, -⟩
      exact ⟨⟨fact, extracted⟩, more, others⟩
    · rintro ⟨⟨fact, extracted⟩, more, others⟩
      exact ⟨_, accountFacts_cons_eq_ok.2 ⟨fact, more, extracted, others, rfl⟩⟩

theorem exists_facts_iff {u : ProgramUnit} {handler : Handler} :
    (∃ facts, handler.facts u = .ok facts) ↔
      ∀ account ∈ handler.params, ∀ raw ∈ account.attributes,
        ¬ Resolved.Aborts handler.accountNames raw.1 raw.2 := by
  rw [facts, exists_map_iff]
  exact exists_accountFacts_iff

/-- The body stops no extraction: each condition that was not understood can be shown. -/
def IsShowable (handler : Handler) : Prop :=
  ∀ node ∈ handler.body, ∀ condition, node.action = .check condition →
    condition.hasUnknown = true → condition.isWritable = true

theorem isReportable_iff {handler : Handler} :
    handler.isReportable = true ↔ handler.IsShowable := by
  rw [isReportable, List.all_eq_true]
  refine forall₂_congr fun node _ => ?_
  cases node.action with
  | check condition =>
    simp only [Bool.or_eq_true, Bool.not_eq_true', Action.check.injEq, forall_eq']
    cases condition.hasUnknown <;> simp
  | _ => simp

end Handler

/-! ## Units with facts -/

/-- Nothing in a unit stops the extraction of its facts. -/
structure ProgramUnit.IsExtractable (u : ProgramUnit) : Prop where
  attributes : ∀ handler ∈ u.handlers, ∀ account ∈ handler.params, ∀ raw ∈ account.attributes,
    ¬ Resolved.Aborts handler.accountNames raw.1 raw.2
  conditions : ∀ handler ∈ u.handlers, handler.IsShowable
  layouts : ∀ decl ∈ u.structs, ¬ decl.Aborts

namespace FactBase

theorem exists_handlersOf_iff {u : ProgramUnit} {handlers : List Handler} :
    (∃ facts, handlersOf u handlers = .ok facts) ↔
      ∀ handler ∈ handlers, (∃ fact, handler.facts u = .ok fact) ∧ handler.IsShowable := by
  induction handlers with
  | nil => exact iff_of_true ⟨[], rfl⟩ (by simp)
  | cons handler rest ih =>
    rw [List.forall_mem_cons, ← ih, ← Handler.isReportable_iff]
    constructor
    · rintro ⟨facts, made⟩
      rcases handlersOf_cons_eq_ok.1 made with ⟨fact, more, extracted, showable, others, -⟩
      exact ⟨⟨⟨fact, extracted⟩, showable⟩, more, others⟩
    · rintro ⟨⟨⟨fact, extracted⟩, showable⟩, more, others⟩
      exact ⟨_, handlersOf_cons_eq_ok.2 ⟨fact, more, extracted, showable, others, rfl⟩⟩

theorem exists_ofUnit_iff {u : ProgramUnit} :
    (∃ facts, ofUnit u = .ok facts) ↔ u.IsExtractable := by
  have parts : (∃ facts, ofUnit u = .ok facts) ↔ (∃ facts, handlersOf u u.handlers = .ok facts) ∧
      ∃ structs, u.structs.mapM StructDecl.fact = .ok structs := by
    constructor
    · rintro ⟨facts, made⟩
      rcases ofUnit_eq_ok.1 made with ⟨handlers, structs, extracted, sized, -⟩
      exact ⟨⟨handlers, extracted⟩, structs, sized⟩
    · rintro ⟨⟨handlers, extracted⟩, structs, sized⟩
      exact ⟨_, ofUnit_eq_ok.2 ⟨handlers, structs, extracted, sized, rfl⟩⟩
  rw [parts, exists_handlersOf_iff, exists_mapM_iff]
  simp only [Handler.exists_facts_iff, StructDecl.exists_fact_iff]
  constructor
  · rintro ⟨handlers, layouts⟩
    exact ⟨fun handler inside => (handlers handler inside).1,
      fun handler inside => (handlers handler inside).2, layouts⟩
  · rintro ⟨attributes, conditions, layouts⟩
    exact ⟨fun handler inside => ⟨attributes handler inside, conditions handler inside⟩, layouts⟩

end FactBase

/-! ## What the facts of a unit say -/

/-- Every attribute of an account is settled, and what was not understood is reported. -/
structure AccountFact.Settles (u : ProgramUnit) (handler : Handler) (diagnostics : List Finding)
    (account : Account) (fact : AccountFact) : Prop where
  attributes : List.Forall₂ (fun raw said => said.1 = raw.1 ∧
    Resolved.Settles handler.accountNames raw.1 raw.2 said.2) account.attributes fact.attributes
  reported : ∀ said ∈ fact.attributes, said.2.isUnknown = true →
    ∃ f ∈ diagnostics, fact.diagnostic? = some f ∧ f.classId = unresolvedClassId ∧
      f.handler = handler.name ∧ f.location = u.location account.span

/-- The facts of a unit settle every attribute of every account. -/
def FactBase.Settles (facts : FactBase) (u : ProgramUnit) : Prop :=
  List.Forall₂ (fun handler handlerFacts =>
    List.Forall₂ (AccountFact.Settles u handler facts.diagnostics) handler.params
      handlerFacts.accounts) u.handlers facts.handlers

theorem AccountFact.exists_diagnostic {account : AccountFact} {said : String × Resolved}
    (inside : said ∈ account.attributes) (unknown : said.2.isUnknown = true) :
    ∃ f, account.diagnostic? = some f ∧ f.classId = unresolvedClassId ∧
      f.handler = account.handler ∧ f.location = account.location := by
  have nonempty : (account.attributes.filter (·.2.isUnknown)).isEmpty = false := by
    rw [List.isEmpty_eq_false_iff_exists_mem]
    exact ⟨said, List.mem_filter.2 ⟨inside, unknown⟩⟩
  simp only [diagnostic?, nonempty]
  exact ⟨_, rfl, rfl, rfl, rfl⟩

theorem AccountFact.settles_of_ofAccount {u : ProgramUnit} {handler : Handler} {index : Nat}
    {account : Account} {fact : AccountFact} {diagnostics : List Finding}
    (made : ofAccount u handler index account = .ok fact)
    (reports : ∀ f, fact.diagnostic? = some f → f ∈ diagnostics) :
    Settles u handler diagnostics account fact := by
  rcases ofAccount_eq_ok.1 made with ⟨attributes, resolved, rfl⟩
  refine ⟨?_, fun said inside unknown => ?_⟩
  · refine (forall₂_of_attributes? resolved).imp fun raw said both => ⟨both.1, ?_⟩
    exact Resolved.settles_of_ofAttribute both.2
  · rcases exists_diagnostic inside unknown with ⟨f, found, classId, name, location⟩
    exact ⟨f, reports f found, found, classId, name, location⟩

namespace FactBase

variable {u : ProgramUnit}

theorem settles_of_ofUnit {facts : FactBase} (made : ofUnit u = .ok facts) : facts.Settles u := by
  rcases ofUnit_eq_ok.1 made with ⟨handlers, structs, extracted, -, rfl⟩
  rcases List.forall₂_iff_zip.1 (forall₂_of_handlersOf extracted) with ⟨sameLength, pairs⟩
  refine List.forall₂_iff_zip.2 ⟨sameLength, fun {handler handlerFacts} pair => ?_⟩
  rcases Handler.facts_eq_ok.1 (pairs pair) with ⟨accounts, found, rfl⟩
  -- The facts are made with the positions of the accounts, which nothing below asks for.
  rw [← List.zipIdx_map_fst 0 handler.params]
  refine List.forall₂_map_left_iff.2 ?_
  rcases List.forall₂_iff_zip.1 (Handler.forall₂_of_accountFacts found) with ⟨sameLength, each⟩
  refine List.forall₂_iff_zip.2 ⟨sameLength, fun {placed fact} inside => ?_⟩
  refine AccountFact.settles_of_ofAccount (each inside) fun f reported => ?_
  refine List.mem_flatMap.2 ⟨_, pair, List.mem_append_left _ ?_⟩
  exact List.mem_filterMap.2 ⟨fact, (List.of_mem_zip inside).2, reported⟩

/-- **Extraction of facts.** A unit has facts, and they settle all its attributes, exactly if nothing
in it stops the extraction. -/
theorem exists_settled_iff :
    (∃ facts, ofUnit u = .ok facts ∧ facts.Settles u) ↔ u.IsExtractable := by
  rw [← exists_ofUnit_iff]
  constructor
  · rintro ⟨facts, made, -⟩
    exact ⟨facts, made⟩
  · rintro ⟨facts, made⟩
    exact ⟨facts, made, settles_of_ofUnit made⟩

/-! ### A long account name -/

/-- A unit with an account that has to be related to another one. -/
def ledger (related : String) : ProgramUnit :=
  { name := "ledger"
    file := "ledger.json"
    handlers := [{ name := "pay", span := .ofLength 0 9,
                   params := [{ name := "vault", typeTag := "Account<'info, Vault>",
                                attributes := [("has_one", .text related)],
                                span := .ofLength 0 1 }],
                   params_distinct := by simp }]
    handlers_distinct := by simp }

/-- The shortest numeral that cannot be read. -/
def longNumeral : String :=
  String.ofList (List.replicate (digitLimit + 1) '9')

theorem holdsLongInteger_longNumeral :
    Expr.HoldsLongInteger (Resolved.beforeRemark longNumeral).toList := by
  have absent : ' ' ∉ List.replicate (digitLimit + 1) '9' := by simp
  have whole : (Resolved.beforeRemark longNumeral).toList = List.replicate (digitLimit + 1) '9' := by
    rw [Resolved.beforeRemark, longNumeral, String.toList_ofList, String.toList_ofList,
      Text.before_of_not_mem absent]
  have digits : ∀ c ∈ List.replicate (digitLimit + 1) '9', Text.isDigit c = true := by
    intro c inside
    obtain rfl := List.eq_of_mem_replicate inside
    decide
  rw [whole]
  exact Expr.holdsLongInteger_of_digits digits (by simp)

/-- An account name that is a long numeral is not marked as unresolved: no facts are made at all. -/
theorem ledger_longNumeral_without_facts :
    ¬ ∃ facts, ofUnit (ledger longNumeral) = .ok facts := by
  intro extracted
  have fine := exists_ofUnit_iff.1 extracted
  have unreadable : Resolved.UnreadableAmong ["vault"] [longNumeral] :=
    .here holdsLongInteger_longNumeral
  exact fine.attributes _ List.mem_cons_self _ List.mem_cons_self _ List.mem_cons_self
    (.unreadable (by decide) rfl unreadable)

end FactBase

end AccountAudit
