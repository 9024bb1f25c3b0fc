import AccountAudit.Detector.TypeConfusion
import AccountAudit.Proofs.Detector.Prefix
import AccountAudit.Proofs.Guard.Reference

/-!
# Whose discriminator is looked at

Bytes that are read as a layout are not reported once something in front of the call looks at a
discriminator: a check that leads through a field which tells one layout from another, or a call of a
function that does so. It need not be the discriminator of an account that the bytes belong to
(`Elsewhere`); the discriminator of any other account silences the call as well.

The main statement `deserialization_reported_iff` says which calls are reported, and so for which of
them it makes no difference that the accounts are not compared.
-/

namespace AccountAudit

/-- The check leads through a field that tells one layout from another. -/
def CheckFact.discriminates (check : CheckFact) : Bool :=
  check.condition.paths.any fun p =>
    p.segments.any fun segment =>
      TypeConfusion.discriminatorNames.contains (TypeConfusion.plainSegment segment.toList)

namespace TypeConfusion

variable {u : ProgramUnit} {h : Handler} {base : FactBase} {facts : HandlerFacts} {call : CallFact}

/-! ## Reports -/

/-- The findings about the calls of a handler, each with the position of its call. -/
def verdicts (base : FactBase) (facts : HandlerFacts) : List (Nat × Finding) :=
  (facts.callsNamed readers).filterMap fun call =>
    (callFinding? base facts call).map fun f => (call.seq, f)

/-- What is said of the calls is what the detector reports. -/
theorem detect_eq_verdicts :
    detector.detect u base =
      .ok (base.handlers.flatMap fun facts => (verdicts base facts).map Prod.snd) := by
  refine congrArg Except.ok (congrArg (List.flatMap · base.handlers) (funext fun facts => ?_))
  rw [scan, verdicts, List.map_filterMap]
  refine List.filterMap_congr fun call _ => ?_
  simp [Option.map_map, Function.comp_def]

/-- The detector reports the call at position `seq`. -/
def Reports (base : FactBase) (facts : HandlerFacts) (seq : Nat) : Prop :=
  ∃ verdict ∈ verdicts base facts, verdict.1 = seq

instance (base : FactBase) (facts : HandlerFacts) (seq : Nat) :
    Decidable (Reports base facts seq) :=
  inferInstanceAs (Decidable (∃ verdict ∈ verdicts base facts, verdict.1 = seq))

theorem reports_iff (extracted : h.facts u = .ok facts) (inside : call ∈ facts.calls)
    (reads : call.shortName ∈ readers) :
    Reports base facts call.seq ↔ callFinding? base facts call ≠ none := by
  have silent : (∀ verdict ∈ verdicts base facts, verdict.1 ≠ call.seq) ↔
      callFinding? base facts call = none :=
    Handler.forall_ne_callSeq_iff extracted inside reads
  rw [ne_eq, ← silent, Reports]
  simp only [ne_eq, not_forall, not_not, exists_prop]

/-! ## Discriminators -/

/-- The accounts that are mentioned by what looks at a discriminator in front of a position, for each
check and each call that does. -/
def discriminationsBefore (facts : HandlerFacts) (seq : Nat) : List (List Nat) :=
  ((facts.checksBefore seq).filter CheckFact.discriminates).map CheckFact.refs ++
    ((facts.callsNamed discriminatorCalls).filter (·.seq < seq)).map CallFact.refs

/-- The accounts are known, and none of them is an account of the call. -/
def Elsewhere (call : CallFact) (refs : List Nat) : Prop :=
  refs ≠ [] ∧ ∀ ref ∈ refs, ref ∉ call.refs

instance (call : CallFact) (refs : List Nat) : Decidable (Elsewhere call refs) :=
  inferInstanceAs (Decidable (_ ∧ _))

theorem isDiscriminatorPath_pathKey {p : Expr} (path : p.kind = .path) :
    isDiscriminatorPath p.pathKey =
      p.segments.any fun segment => discriminatorNames.contains (plainSegment segment.toList) := by
  have pieces := Expr.splitString_pathKey (Expr.segments_ne_nil path)
  rw [← pieces, Text.splitString, List.any_map, isDiscriminatorPath]
  simp [Function.comp_def]

/-- What is recorded of a check are the paths of its condition. -/
theorem any_isDiscriminatorPath (extracted : h.facts u = .ok facts) {check : CheckFact}
    (inside : check ∈ facts.checks) :
    check.paths.any isDiscriminatorPath = check.discriminates := by
  rw [HandlerFacts.paths_of_mem_checks extracted inside, List.any_map, CheckFact.discriminates,
    Bool.eq_iff_iff, List.any_eq_true, List.any_eq_true]
  refine exists_congr fun p => and_congr_right fun member => ?_
  rw [Function.comp_apply, isDiscriminatorPath_pathKey (by simpa using (List.mem_filter.1 member).2)]

/-- No discriminator is looked at if there is nothing in front that looks at one. -/
theorem isDiscriminatorChecked_eq_false_iff (extracted : h.facts u = .ok facts) :
    isDiscriminatorChecked facts call = false ↔ discriminationsBefore facts call.seq = [] := by
  rw [isDiscriminatorChecked, discriminationsBefore, Bool.or_eq_false_iff, List.append_eq_nil_iff,
    List.map_eq_nil_iff, List.map_eq_nil_iff, List.filter_eq_nil_iff, List.filter_eq_nil_iff,
    List.any_eq_false, List.any_eq_false]
  refine and_congr (forall_congr' fun check => imp_congr_right fun front => ?_) Iff.rfl
  rw [any_isDiscriminatorPath extracted (HandlerFacts.mem_checksBefore.1 front).1]

/-- The accounts of a call are those at the positions that it refers to. -/
theorem any_accountsOf_eq_false (extracted : h.facts u = .ok facts) {p : AccountFact → Bool}
    (none : ∀ account ∈ facts.accounts, account.index ∈ call.refs → p account = false) :
    (accountsOf facts call).any p = false := by
  refine List.any_eq_false.2 fun account member => ?_
  rcases List.mem_filterMap.1 member with ⟨index, refers, here⟩
  obtain rfl := Handler.index_of_getElem? extracted here
  rw [none account (List.mem_of_getElem? here) refers]
  exact Bool.false_ne_true

/-- **Calls that read bytes as a layout.** A call that reads the bytes of accounts that nothing may
guard, as a layout of the same size as others, is reported exactly if nothing in front of it looks at a
discriminator. So what looks at the discriminator of one of its accounts silences it. That looking at
other accounts does not silence it holds for a call exactly if nothing in front looks at a
discriminator, or something does that concerns an account of the call or no known account. -/
theorem deserialization_reported_iff (made : FactBase.ofUnit u = .ok base)
    (present : facts ∈ base.handlers) (inside : call ∈ facts.calls)
    (reads : call.shortName ∈ readers) (confusable : base.collidingStructs (targetStruct call) ≠ [])
    (refers : call.refs ≠ [])
    (exposed : ∀ account ∈ facts.accounts, account.index ∈ call.refs →
      facts.possiblyGuarded account = false) :
    (Reports base facts call.seq ↔ discriminationsBefore facts call.seq = []) ∧
      ((∃ refs ∈ discriminationsBefore facts call.seq, ¬ Elsewhere call refs) →
        ¬ Reports base facts call.seq) ∧
      (((∀ refs ∈ discriminationsBefore facts call.seq, Elsewhere call refs) →
          Reports base facts call.seq) ↔
        discriminationsBefore facts call.seq = [] ∨
          ∃ refs ∈ discriminationsBefore facts call.seq, ¬ Elsewhere call refs) := by
  rcases FactBase.exists_handler_of_mem made present with ⟨h, -, extracted⟩
  have reported : Reports base facts call.seq ↔ discriminationsBefore facts call.seq = [] := by
    rw [reports_iff extracted inside reads, ← isDiscriminatorChecked_eq_false_iff extracted,
      callFinding?, List.isEmpty_eq_false_iff.2 refers, List.isEmpty_eq_false_iff.2 confusable,
      any_accountsOf_eq_false extracted exposed]
    cases isDiscriminatorChecked facts call <;> simp
  refine ⟨reported, ?_, ?_⟩
  · rintro ⟨refs, member, -⟩ reports
    rw [reported.1 reports] at member
    cases member
  · rw [reported]
    constructor
    · intro meets
      by_cases elsewhere : ∀ refs ∈ discriminationsBefore facts call.seq, Elsewhere call refs
      · exact .inl (meets elsewhere)
      · simp only [not_forall, exists_prop] at elsewhere
        exact .inr elsewhere
    · rintro (none | ⟨refs, member, here⟩) elsewhere
      · exact none
      · exact absurd (elsewhere refs member) here

/-! ### The discriminator of another account -/

/-- A handler that does something and then reads one of its accounts as a layout. -/
def promote (actions : List Action) : Handler :=
  { name := "promote"
    span := .ofLength 0 9
    params := [{ name := "user", typeTag := "AccountInfo<'info>", isMut := true,
                 span := .ofLength 0 1 },
      { name := "other", typeTag := "AccountInfo<'info>", span := .ofLength 1 1 }]
    body := actions.map (fun action => ⟨.ofLength 4 1, action⟩) ++
      [⟨.ofLength 6 1, .call "User::try_from_slice" "User" [.ofPath "user.data.borrow()"]⟩]
    params_distinct := by simp }

/-- A unit with two layouts of one size. -/
def promotion (actions : List Action) : ProgramUnit :=
  { name := "promotion", file := "promotion.json", handlers := [promote actions]
    structs := [{ name := "User", size := some 40 }, { name := "Admin", size := some 40 }]
    handlers_distinct := by simp }

/-- `other.account_type == AccountType::User` -/
def otherIsUser : Action :=
  .check (.ofBinary "==" (.ofPath "other.account_type") (.ofPath "AccountType::User"))

/-- `verify_discriminator(other)` -/
def verifiesOther : Action :=
  .call "verify_discriminator" "" [.ofPath "other"]

/-- The call reads one account, which nothing may guard, as a layout of the size of another one. -/
def ReadsUser (base : FactBase) (facts : HandlerFacts) (call : CallFact) : Prop :=
  call.shortName ∈ readers ∧ base.collidingStructs (targetStruct call) = ["Admin"] ∧
    call.refs = [0] ∧ ∀ account ∈ facts.accounts, account.index ∈ call.refs →
      facts.possiblyGuarded account = false

instance (base : FactBase) (facts : HandlerFacts) (call : CallFact) :
    Decidable (ReadsUser base facts call) :=
  inferInstanceAs (Decidable (_ ∧ _))

/-- The account may belong to the other layout. -/
theorem deserialization_reported_iff_promotion :
    ∃ base facts, FactBase.ofUnit (promotion []) = .ok base ∧ facts ∈ base.handlers ∧
      ∃ call ∈ facts.calls, ReadsUser base facts call ∧ Reports base facts call.seq := by
  have computed : ∃ base facts, FactBase.ofUnit (promotion []) = .ok base ∧
      facts ∈ base.handlers ∧ ∃ call ∈ facts.calls, ReadsUser base facts call ∧
        discriminationsBefore facts call.seq = [] :=
    FactBase.exists_handler_of_any (by decide +kernel)
  rcases computed with ⟨base, facts, made, present, call, inside, readsUser, none⟩
  refine ⟨base, facts, made, present, call, inside, readsUser, ?_⟩
  rcases readsUser with ⟨reads, confusable, refers, exposed⟩
  exact (deserialization_reported_iff made present inside reads (by simp [confusable])
    (by simp [refers]) exposed).1.2 none

/-- Nothing is reported if the handler does something that concerns other accounts only. -/
def IsExcusedBy (action : Action) : Prop :=
  ∃ base facts, FactBase.ofUnit (promotion [action]) = .ok base ∧ facts ∈ base.handlers ∧
    ∃ call ∈ facts.calls, ReadsUser base facts call ∧
      (∀ refs ∈ discriminationsBefore facts call.seq, Elsewhere call refs) ∧
      ¬ Reports base facts call.seq

/-- It still may if the discriminator of another account is looked at, but this excuses the call. -/
theorem promotion_unreported_elsewhere : IsExcusedBy otherIsUser ∧ IsExcusedBy verifiesOther := by
  constructor
  · exact FactBase.exists_handler_of_any (by decide +kernel)
  · exact FactBase.exists_handler_of_any (by decide +kernel)

end TypeConfusion

end AccountAudit
