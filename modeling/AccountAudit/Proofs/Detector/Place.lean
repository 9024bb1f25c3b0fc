import AccountAudit.Analysis
import AccountAudit.Proofs.Detector.Pair
import AccountAudit.Proofs.Detector.Strict

/-!
# Places of findings

A built-in detector reports accounts of a handler and events of its body where they stand, and marks
none of its findings as one about a failure (`Detector.exists_regular_of_mem_builtin`). The places of a
handler are those of its declaration and of the nodes of its body
(`Handler.exists_span_of_mem_places`).
-/

namespace AccountAudit

/-! ## Places of a handler -/

/-- The place of the node. -/
def BodyFact.location : BodyFact → Location
  | arithmetic site => site.location
  | invoke site => site.location
  | assign write => write.location
  | check guard => guard.location
  | call called => called.location

theorem BodyFact.location_of_records {u : ProgramUnit} {node : BodyNode} {event : BodyFact}
    (records : Records u node event) : event.location = u.location node.span := by
  cases records <;> assumption

namespace HandlerFacts

variable {handler : HandlerFacts}

/-- The places of the accounts and of the events of the body. -/
def places (handler : HandlerFacts) : List Location :=
  handler.accounts.map AccountFact.location ++ handler.events.map BodyFact.location

theorem place_of_account {account : AccountFact} (inside : account ∈ handler.accounts) :
    account.location ∈ handler.places :=
  List.mem_append_left _ (List.mem_map_of_mem inside)

theorem place_of_event {event : BodyFact} (inside : event ∈ handler.events) :
    event.location ∈ handler.places :=
  List.mem_append_right _ (List.mem_map_of_mem inside)

end HandlerFacts

namespace Handler

/-- The spans of the handler, of its accounts and of the nodes of its body. -/
def spans (handler : Handler) : List Span :=
  handler.span :: (handler.params.map Account.span ++ handler.body.map BodyNode.span)

theorem exists_span_of_mem_places {u : ProgramUnit} {handler : Handler} {facts : HandlerFacts}
    (made : handler.facts u = .ok facts) {place : Location} (member : place ∈ facts.places) :
    ∃ span ∈ handler.spans, place = u.location span := by
  rcases List.mem_append.1 member with ofAccount | ofEvent
  · rcases List.mem_map.1 ofAccount with ⟨account, inside, rfl⟩
    rcases List.getElem?_of_mem inside with ⟨i, here⟩
    rcases exists_left_of_rel (rel_accounts made i) here with ⟨declared, there, extracted⟩
    obtain ⟨attributes, -, rfl⟩ := AccountFact.ofAccount_eq_ok.1 extracted
    refine ⟨declared.span, List.mem_cons_of_mem _ (List.mem_append_left _ ?_), rfl⟩
    exact List.mem_map_of_mem (List.mem_of_getElem? there)
  · rcases List.mem_map.1 ofEvent with ⟨event, inside, rfl⟩
    rcases (isConsistent_of_facts made).recorded event inside with ⟨node, here, records⟩
    refine ⟨node.span, List.mem_cons_of_mem _ (List.mem_append_right _ ?_),
      BodyFact.location_of_records records⟩
    exact List.mem_map_of_mem (List.mem_of_getElem? here)

end Handler

/-! ## Findings of a handler -/

/-- The finding lies at an account of the handler or in its body, and is not one about a failure. -/
structure Finding.IsRegular (handler : HandlerFacts) (f : Finding) : Prop where
  place : f.location ∈ handler.places
  unmarked : Analysis.isFailure f = false

/-- A detector makes regular findings if it uses no mark for failures. -/
theorem DetectorInfo.isRegular_finding {info : DetectorInfo} {handler : HandlerFacts}
    {title message : String} {location : Location} {name : String}
    {metadata : List (String × Value)} {severity : Severity} {confidence : Binary64}
    (place : location ∈ handler.places)
    (unmarked : (metadata.map Prod.fst).contains Analysis.failureMark = false) :
    (info.finding title message location name metadata severity confidence).IsRegular handler where
  place := place
  unmarked := by
    have other : "detector_name" ≠ Analysis.failureMark := by decide
    have absent : Assoc.valuesOf Analysis.failureMark
        (("detector_name", .text info.name) :: metadata) = [] := by
      rw [Assoc.valuesOf_cons, if_neg other, Assoc.valuesOf, List.filter_eq_nil_iff.2, List.map_nil]
      intro entry inside same
      have marked : entry.1 = Analysis.failureMark := by simpa using same
      have listed : Analysis.failureMark ∈ metadata.map Prod.fst :=
        marked ▸ List.mem_map_of_mem inside
      rw [List.contains_iff_mem.2 listed] at unmarked
      cases unmarked
    rw [Analysis.isFailure, finding, Assoc.lookup_ofPairs, absent]
    rfl

section

variable {facts : FactBase} {handler : HandlerFacts} {f : Finding}

theorem SignerAuthorization.isRegular (member : f ∈ scan facts handler) : f.IsRegular handler := by
  rcases List.mem_map.1 member with ⟨account, chosen, rfl⟩
  have place := HandlerFacts.place_of_account (List.mem_filter.1 chosen).1
  exact DetectorInfo.isRegular_finding place rfl

theorem OwnerProgram.isRegular (member : f ∈ scan handler) : f.IsRegular handler := by
  rcases List.mem_map.1 member with ⟨account, chosen, rfl⟩
  have place := HandlerFacts.place_of_account (List.mem_filter.1 chosen).1
  exact DetectorInfo.isRegular_finding place rfl

theorem UncheckedArithmetic.isRegular (member : f ∈ scan handler) : f.IsRegular handler := by
  rcases List.mem_map.1 member with ⟨site, chosen, rfl⟩
  have inside := HandlerFacts.mem_events_of_arithmetic (List.mem_filter.1 chosen).1
  exact DetectorInfo.isRegular_finding (HandlerFacts.place_of_event inside) rfl

theorem AddressDerivation.isRegular (member : f ∈ scan handler) : f.IsRegular handler := by
  rcases List.mem_append.1 member with accounts | calls
  · rcases List.mem_filterMap.1 accounts with ⟨account, inside, found⟩
    unfold accountFinding? at found
    split at found
    · dsimp only at found
      split at found
      · cases found
      · split at found
        · cases found
        · obtain rfl := Option.some.inj found
          exact DetectorInfo.isRegular_finding (HandlerFacts.place_of_account inside) rfl
    · cases found
  · rcases List.mem_filterMap.1 calls with ⟨call, chosen, found⟩
    have inside := HandlerFacts.mem_events_of_call (List.mem_filter.1 chosen).1
    unfold callFinding? at found
    dsimp only at found
    split at found
    · cases found
    · obtain rfl := Option.some.inj found
      exact DetectorInfo.isRegular_finding (HandlerFacts.place_of_event inside) rfl

theorem ArbitraryInvocation.isRegular (member : f ∈ scan handler) : f.IsRegular handler := by
  rcases List.mem_map.1 member with ⟨site, chosen, rfl⟩
  have inside := HandlerFacts.mem_events_of_invoke (List.mem_filter.1 chosen).1
  exact DetectorInfo.isRegular_finding (HandlerFacts.place_of_event inside) rfl

theorem Reinitialization.isRegular (member : f ∈ scan handler) : f.IsRegular handler := by
  rcases List.mem_append.1 member with creations | rewrites
  · rcases List.mem_filterMap.1 creations with ⟨account, inside, found⟩
    have place := HandlerFacts.place_of_account inside
    unfold creationFinding? ifNeededFinding? singletonFinding? at found
    split_ifs at found
    · obtain rfl := Option.some.inj found
      exact DetectorInfo.isRegular_finding place rfl
    · obtain rfl := Option.some.inj found
      exact DetectorInfo.isRegular_finding place rfl
  · unfold rewriteFindings at rewrites
    split at rewrites
    · rcases List.mem_filterMap.1 rewrites with ⟨⟨index, location⟩, writes, found⟩
      rcases Option.bind_eq_some_iff.1 found with ⟨account, -, found⟩
      rcases exists_write writes with ⟨write, inside, -, rfl⟩
      unfold rewriteFinding? at found
      split at found
      · obtain rfl := Option.some.inj found
        have inside := HandlerFacts.mem_events_of_assign inside
        exact DetectorInfo.isRegular_finding (HandlerFacts.place_of_event inside) rfl
      · cases found
    · cases rewrites

theorem TypeConfusion.isRegular (member : f ∈ scan facts handler) : f.IsRegular handler := by
  rcases List.mem_filterMap.1 member with ⟨call, chosen, found⟩
  have inside := HandlerFacts.mem_events_of_call (List.mem_filter.1 chosen).1
  unfold callFinding? at found
  dsimp only at found
  split at found
  · cases found
  · obtain rfl := Option.some.inj found
    exact DetectorInfo.isRegular_finding (HandlerFacts.place_of_event inside) rfl

theorem DuplicateAccounts.isRegular (member : f ∈ scan handler) : f.IsRegular handler := by
  rcases mem_scan_iff.1 member with ⟨first, rest, listed, -, rfl⟩
  rcases mem_groups.1 listed with ⟨-, type, group⟩
  have inside : first ∈ ofType handler type := group ▸ List.mem_cons_self
  exact DetectorInfo.isRegular_finding (HandlerFacts.place_of_account (mem_ofType.1 inside).1) rfl

theorem AccountClose.isRegular (member : f ∈ scan handler) : f.IsRegular handler := by
  rcases List.mem_filterMap.1 member with ⟨⟨index, location⟩, drains, found⟩
  have place : location ∈ handler.places := by
    rcases exists_drain drains with ⟨write, inside, -, rfl⟩ | ⟨call, inside, -, rfl⟩
    · exact HandlerFacts.place_of_event (HandlerFacts.mem_events_of_assign inside)
    · exact HandlerFacts.place_of_event (HandlerFacts.mem_events_of_call inside)
  dsimp only at found
  split at found
  · split at found
    · obtain rfl := Option.some.inj found
      exact DetectorInfo.isRegular_finding place rfl
    · cases found
  · cases found

end

namespace Detector

/-- The built-in detectors give regular findings. -/
theorem exists_regular_of_mem_builtin {d : Detector} (listed : d ∈ builtin) (u : ProgramUnit)
    (facts : FactBase) : ∃ findings, d.detect u facts = .ok findings ∧
      ∀ f ∈ findings, ∃ handler ∈ facts.handlers, f.IsRegular handler := by
  -- Findings of a scan are those of some handler.
  have ofScan : ∀ {info : DetectorInfo} {scan : FactBase → HandlerFacts → List Finding},
      (∀ facts handler, ∀ f ∈ scan facts handler, f.IsRegular handler) →
      ∃ findings, (ofHandlers info scan).detect u facts = .ok findings ∧
        ∀ f ∈ findings, ∃ handler ∈ facts.handlers, f.IsRegular handler := by
    intro info scan regular
    refine ⟨_, rfl, fun f member => ?_⟩
    rcases List.mem_flatMap.1 member with ⟨handler, inside, found⟩
    exact ⟨handler, inside, regular facts handler f found⟩
  simp only [builtin, List.mem_cons, List.not_mem_nil, or_false] at listed
  rcases listed with rfl | rfl | rfl | rfl | rfl | rfl | rfl | rfl | rfl
  · exact ofScan fun _ _ _ => SignerAuthorization.isRegular
  · exact ofScan fun _ _ _ => OwnerProgram.isRegular
  · exact ofScan fun _ _ _ => UncheckedArithmetic.isRegular
  · exact ofScan fun _ _ _ => AddressDerivation.isRegular
  · exact ofScan fun _ _ _ => ArbitraryInvocation.isRegular
  · exact ofScan fun _ _ _ => Reinitialization.isRegular
  · exact ofScan fun _ _ _ => TypeConfusion.isRegular
  · exact ofScan fun _ _ _ => DuplicateAccounts.isRegular
  · exact ofScan fun _ _ _ => AccountClose.isRegular

end Detector
end AccountAudit
