import AccountAudit.Detector.AddressDerivation
import AccountAudit.Detector.ArbitraryInvocation
import AccountAudit.Detector.UncheckedArithmetic
import AccountAudit.Proofs.Related

/-!
# Rules about single nodes

Three built-in detectors look at the nodes of a body one by one: at arithmetic, at invocations of
other programs, and at calls that derive an address. A rule is such a detector together with what it
looks at (`NodeRule`), so that each of its findings comes with the position of the node that it is
about (`NodeRule.verdicts`). What a rule says apart from that is what its detector reports
(`NodeRule.detect_eq`).
-/

namespace AccountAudit

/-- Where what is reported of events comes with their positions, none of it has a position exactly if
nothing is reported of the events there. -/
theorem forall_ne_seq_iff {Event : Type} {events : List Event} {seq : Event → Nat}
    {report? : Event → Option Finding} {i : Nat} :
    (∀ verdict ∈ events.filterMap fun event => (report? event).map fun f => (seq event, f),
        verdict.1 ≠ i) ↔
      ∀ event, event ∈ events ∧ seq event = i → report? event = none := by
  constructor
  · rintro silent event ⟨inside, rfl⟩
    cases report : report? event with
    | none => rfl
    | some f =>
      refine absurd rfl (silent (seq event, f) (List.mem_filterMap.2 ⟨event, inside, ?_⟩))
      rw [report]
      rfl
  · intro none verdict reported here
    rcases List.mem_filterMap.1 reported with ⟨event, inside, made⟩
    rcases Option.map_eq_some_iff.1 made with ⟨f, report, rfl⟩
    rw [none event ⟨inside, here⟩] at report
    cases report

/-- A detector that looks at one event of a body after the other. -/
structure NodeRule where
  detector : Detector
  Event : Type
  events : HandlerFacts → List Event
  seq : Event → Nat
  report? : HandlerFacts → Event → Option Finding
  /-- What it reports about accounts, in front of what it reports about nodes. -/
  aboutAccounts : HandlerFacts → List Finding
  detect_eq : ∀ u facts, detector.detect u facts =
    .ok (facts.handlers.flatMap fun handler =>
      aboutAccounts handler ++ (events handler).filterMap (report? handler))

namespace NodeRule

/-- The findings about the nodes of a handler's body, each with the position of its node. -/
def verdicts (rule : NodeRule) (handler : HandlerFacts) : List (Nat × Finding) :=
  (rule.events handler).filterMap fun event =>
    (rule.report? handler event).map fun f => (rule.seq event, f)

/-- The rule says nothing about the node at position `seq`. -/
def SilentAt (rule : NodeRule) (handler : HandlerFacts) (seq : Nat) : Prop :=
  ∀ verdict ∈ rule.verdicts handler, verdict.1 ≠ seq

instance (rule : NodeRule) (handler : HandlerFacts) (seq : Nat) :
    Decidable (rule.SilentAt handler seq) :=
  inferInstanceAs (Decidable (∀ verdict ∈ rule.verdicts handler, verdict.1 ≠ seq))

/-- The rule says something about the node at position `seq`. -/
def ReportsAt (rule : NodeRule) (handler : HandlerFacts) (seq : Nat) : Prop :=
  ∃ verdict ∈ rule.verdicts handler, verdict.1 = seq

instance (rule : NodeRule) (handler : HandlerFacts) (seq : Nat) :
    Decidable (rule.ReportsAt handler seq) :=
  inferInstanceAs (Decidable (∃ verdict ∈ rule.verdicts handler, verdict.1 = seq))

theorem not_silentAt_iff {rule : NodeRule} {handler : HandlerFacts} {seq : Nat} :
    ¬ rule.SilentAt handler seq ↔ rule.ReportsAt handler seq := by
  simp only [SilentAt, ReportsAt, ne_eq, not_forall, not_not, exists_prop]

/-- Nothing is said about a node if nothing is reported of the events at its position. -/
theorem silentAt_iff {rule : NodeRule} {handler : HandlerFacts} {seq : Nat} :
    rule.SilentAt handler seq ↔
      ∀ event, event ∈ rule.events handler ∧ rule.seq event = seq →
        rule.report? handler event = none :=
  forall_ne_seq_iff

/-! ## The three rules -/

/-- Arithmetic that may overflow. -/
def arithmetic : NodeRule where
  detector := UncheckedArithmetic.detector
  Event := ArithmeticSite
  events := HandlerFacts.arithmetic
  seq := ArithmeticSite.seq
  report? handler site :=
    if UncheckedArithmetic.reports site then some (UncheckedArithmetic.finding handler site) else none
  aboutAccounts _ := []
  detect_eq u facts := by
    refine congrArg Except.ok (congrArg (List.flatMap · facts.handlers) (funext fun handler => ?_))
    exact map_filter_eq_filterMap _ _ handler.arithmetic

/-- Invocations of programs that are not known. -/
def invocation : NodeRule where
  detector := ArbitraryInvocation.detector
  Event := InvokeSite
  events := HandlerFacts.invokes
  seq := InvokeSite.seq
  report? handler site :=
    if !ArbitraryInvocation.isPinned handler site then
      some (ArbitraryInvocation.finding handler site)
    else none
  aboutAccounts _ := []
  detect_eq u facts := by
    refine congrArg Except.ok (congrArg (List.flatMap · facts.handlers) (funext fun handler => ?_))
    exact map_filter_eq_filterMap _ _ handler.invokes

/-- Calls that derive an address from what the caller supplies. -/
def derivation : NodeRule where
  detector := AddressDerivation.detector
  Event := CallFact
  events handler := handler.callsNamed AddressDerivation.rawDeriveCalls
  seq := CallFact.seq
  report? := AddressDerivation.callFinding?
  aboutAccounts handler := handler.accounts.filterMap (AddressDerivation.accountFinding? handler)
  detect_eq _ _ := rfl

end NodeRule
end AccountAudit
