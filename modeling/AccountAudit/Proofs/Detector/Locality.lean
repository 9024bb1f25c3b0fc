import AccountAudit.Proofs.Detector.Conservative
import AccountAudit.Proofs.Order.Extraction

/-!
# Handlers are analysed independently

What is extracted from a unit and what the built-in detectors find in it is, handler by handler, what
they make of the unit that has this handler only (`detect_handlerwise`). So no guard, account or
argument of a handler creates or silences a finding about another one, also if both use the same names
and spans: findings carry the name of their handler, and those with the name of a handler are the
findings about it.

A detector owes two things for this (`Detector.IsLocal`): besides the handler that it scans it looks at
the layouts of the unit only, and it reports under the name of that handler.
-/

namespace AccountAudit

/-! ## Parts of a list that are told apart by labels -/

/-- If all that is made of an item bears the item's own label, the label finds it again. -/
theorem filter_flatMap_eq {α β κ : Type} [BEq κ] [LawfulBEq κ] {key : α → κ} {label : β → κ}
    {f : α → List β} {items : List α} (distinct : (items.map key).Nodup)
    (labelled : ∀ a ∈ items, ∀ b ∈ f a, label b = key a) {a : α} (inside : a ∈ items) :
    (items.flatMap f).filter (fun b => label b == key a) = f a := by
  -- Everything that is made of one item is chosen, or nothing of it.
  have chosen : ∀ item ∈ items, (f item).filter (fun b => label b == key a) =
      if key item == key a then f item else [] := by
    intro item member
    split
    · rename_i same
      exact List.filter_eq_self.2 fun b made => by rwa [labelled item member b made]
    · rename_i other
      exact List.filter_eq_nil_iff.2 fun b made => by rwa [labelled item member b made]
  rw [List.filter_flatMap]
  induction items with
  | nil => cases inside
  | cons first rest ih =>
    rw [List.map_cons, List.nodup_cons] at distinct
    rw [List.flatMap_cons, chosen first List.mem_cons_self]
    have later : ∀ item ∈ rest, item ∈ first :: rest := fun _ => List.mem_cons_of_mem _
    rcases List.mem_cons.1 inside with rfl | inside
    · -- The labels of the others are different, so nothing of them is chosen.
      have others : rest.flatMap (fun item => (f item).filter fun b => label b == key a) = [] := by
        refine List.flatMap_eq_nil_iff.2 fun item member => ?_
        have other : key item ≠ key a := by
          intro same
          exact distinct.1 (same ▸ List.mem_map_of_mem member)
        rw [chosen item (later item member), if_neg (by simpa using other)]
      rw [others, if_pos (by simp), List.append_nil]
    · have other : key first ≠ key a := by
        intro same
        exact distinct.1 (same ▸ List.mem_map_of_mem inside)
      rw [if_neg (by simpa using other), List.nil_append]
      exact ih distinct.2 (fun item member => labelled item (later item member)) inside
        fun item member => chosen item (later item member)

/-! ## A unit with one handler -/

/-- The unit with one handler only. -/
def ProgramUnit.only (u : ProgramUnit) (handler : Handler) : ProgramUnit :=
  { u with
    handlers := [handler]
    handlers_distinct := List.nodup_singleton _ }

/-- What is known of one handler, and of the layouts of the unit. -/
def FactBase.only (facts : FactBase) (name : String) : FactBase :=
  { facts with
    handlers := facts.handlers.filter (·.name == name)
    diagnostics := facts.diagnostics.filter (·.handler == name) }

theorem ProgramUnit.location_only (u : ProgramUnit) (handler : Handler) :
    (u.only handler).location = u.location :=
  location_congr rfl rfl rfl

namespace Handler

variable {u u' : ProgramUnit} {handler : Handler} {facts : HandlerFacts}

theorem handler_of_diagnostic? {account : AccountFact} {f : Finding}
    (found : account.diagnostic? = some f) : f.handler = account.handler := by
  unfold AccountFact.diagnostic? at found
  dsimp only at found
  split at found
  · cases found
  · obtain rfl := Option.some.inj found
    rfl

theorem handler_of_nodeDiagnostic? {node : BodyNode} {f : Finding}
    (found : nodeDiagnostic? u handler node = some f) : f.handler = handler.name := by
  unfold nodeDiagnostic? at found
  split at found
  · split at found
    · obtain rfl := Option.some.inj found
      rfl
    · cases found
  · dsimp only at found
    split at found
    · cases found
    · obtain rfl := Option.some.inj found
      rfl
  · cases found

/-- The diagnostics of a handler bear its name. -/
theorem handler_of_mem_diagnostics (made : handler.facts u = .ok facts) {f : Finding}
    (member : f ∈ handler.diagnostics u facts) : f.handler = handler.name := by
  rcases List.mem_append.1 member with accounts | nodes
  · rcases List.mem_filterMap.1 accounts with ⟨account, inside, found⟩
    rcases facts_eq_ok.1 made with ⟨all, extracted, rfl⟩
    rcases exists_left_of_forall₂ (forall₂_of_accountFacts extracted) inside with ⟨placed, -, built⟩
    obtain ⟨attributes, -, rfl⟩ := AccountFact.ofAccount_eq_ok.1 built
    exact handler_of_diagnostic? found
  · rcases List.mem_filterMap.1 nodes with ⟨node, -, found⟩
    exact handler_of_nodeDiagnostic? found

/-- Of its unit, a handler's diagnostics depend on the places of spans only. -/
theorem diagnostics_congr (same : u'.location = u.location) (handler : Handler)
    (facts : HandlerFacts) : handler.diagnostics u' facts = handler.diagnostics u facts := by
  rw [diagnostics, diagnostics, nodeDiagnostic?_congr same rfl]

end Handler

namespace FactBase

variable {u : ProgramUnit} {facts : FactBase}

/-- What a unit is made of, one handler with its facts after the other. -/
structure Pairs (u : ProgramUnit) (facts : FactBase) (pairs : List (Handler × HandlerFacts)) :
    Prop where
  made : ∀ pair ∈ pairs, pair.1.facts u = .ok pair.2 ∧ pair.1.isReportable = true
  handlers : u.handlers = pairs.map Prod.fst
  facts_handlers : facts.handlers = pairs.map Prod.snd
  diagnostics : facts.diagnostics = pairs.flatMap fun pair => pair.1.diagnostics u pair.2

theorem made_of_mem_zip {handlers : List Handler} {made : List HandlerFacts}
    (extracted : handlersOf u handlers = .ok made) :
    ∀ pair ∈ handlers.zip made, pair.1.facts u = .ok pair.2 ∧ pair.1.isReportable = true := by
  induction handlers generalizing made with
  | nil =>
    intro pair member
    cases member
  | cons handler rest ih =>
    obtain ⟨fact, more, here, reportable, others, rfl⟩ := handlersOf_cons_eq_ok.1 extracted
    intro pair member
    rcases List.mem_cons.1 member with rfl | later
    · exact ⟨here, reportable⟩
    · exact ih others pair later

theorem exists_pairs (made : ofUnit u = .ok facts) : ∃ pairs, Pairs u facts pairs := by
  rcases ofUnit_eq_ok.1 made with ⟨handlers, structs, extracted, -, rfl⟩
  have length := (forall₂_of_handlersOf extracted).length_eq
  exact ⟨u.handlers.zip handlers,
    { made := made_of_mem_zip extracted
      handlers := (List.map_fst_zip length.le).symm
      facts_handlers := (List.map_snd_zip length.ge).symm
      diagnostics := rfl }⟩

theorem Pairs.distinct {pairs : List (Handler × HandlerFacts)} (h : Pairs u facts pairs) :
    (pairs.map fun pair => pair.1.name).Nodup := by
  have names := u.handlers_distinct
  rw [h.handlers, List.map_map] at names
  exact names

theorem Pairs.distinct_facts {pairs : List (Handler × HandlerFacts)} (h : Pairs u facts pairs) :
    (facts.handlers.map HandlerFacts.name).Nodup := by
  have names : facts.handlers.map HandlerFacts.name = pairs.map fun pair => pair.1.name := by
    rw [h.facts_handlers, List.map_map]
    exact List.map_congr_left fun pair among => Handler.name_of_facts (h.made pair among).1
  exact names ▸ h.distinct

/-- The name of a handler chooses its own facts and its own diagnostics. -/
theorem Pairs.only_eq {pairs : List (Handler × HandlerFacts)} (h : Pairs u facts pairs)
    {pair : Handler × HandlerFacts} (inside : pair ∈ pairs) :
    facts.only pair.1.name =
      { facts with handlers := [pair.2], diagnostics := pair.1.diagnostics u pair.2 } := by
  have own : facts.handlers.filter (·.name == pair.1.name) = [pair.2] := by
    have listed : facts.handlers = pairs.flatMap fun pair => [pair.2] := by
      rw [h.facts_handlers, List.map_eq_flatMap]
    rw [listed]
    refine filter_flatMap_eq h.distinct (fun pair member made same => ?_) inside
    obtain rfl := List.mem_singleton.1 same
    exact Handler.name_of_facts (h.made pair member).1
  have said : facts.diagnostics.filter (·.handler == pair.1.name) =
      pair.1.diagnostics u pair.2 := by
    rw [h.diagnostics]
    exact filter_flatMap_eq h.distinct (fun pair member f =>
      Handler.handler_of_mem_diagnostics (h.made pair member).1) inside
  rw [only, own, said]

/-- The facts of the unit with one handler only are found among those of the whole unit. -/
theorem ofUnit_only (made : ofUnit u = .ok facts) {handler : Handler}
    (inside : handler ∈ u.handlers) : ofUnit (u.only handler) = .ok (facts.only handler.name) := by
  rcases exists_pairs made with ⟨pairs, h⟩
  have listed := inside
  rw [h.handlers] at listed
  rcases List.mem_map.1 listed with ⟨pair, member, rfl⟩
  have own : pair.1.facts (u.only pair.1) = .ok pair.2 := by
    rw [Handler.facts_congr (u.location_only pair.1)]
    exact (h.made pair member).1
  have extracted : handlersOf (u.only pair.1) (u.only pair.1).handlers = .ok [pair.2] :=
    handlersOf_cons_eq_ok.2 ⟨pair.2, [], own, (h.made pair member).2, rfl, rfl⟩
  -- The layouts are those of the whole unit.
  obtain ⟨handlers, structs, -, layouts, rfl⟩ := ofUnit_eq_ok.1 made
  rw [h.only_eq member]
  refine ofUnit_eq_ok.2 ⟨[pair.2], structs, extracted, layouts, ?_⟩
  have said : ([pair.1].zip [pair.2]).flatMap (fun placed =>
      placed.1.diagnostics (u.only pair.1) placed.2) = pair.1.diagnostics u pair.2 := by
    rw [← Handler.diagnostics_congr (u.location_only pair.1)]
    exact List.append_nil _
  exact congrArg (FactBase.mk u.name u.file [pair.2] _ _) said.symm

theorem diagnostics_eq_flatMap (made : ofUnit u = .ok facts) :
    facts.diagnostics = u.handlers.flatMap fun handler =>
      (facts.only handler.name).diagnostics := by
  rcases exists_pairs made with ⟨pairs, h⟩
  rw [h.handlers, List.flatMap_map]
  calc facts.diagnostics
      = pairs.flatMap fun pair => pair.1.diagnostics u pair.2 := h.diagnostics
    _ = pairs.flatMap fun pair => (facts.only pair.1.name).diagnostics :=
        List.flatMap_congr fun pair member => by rw [h.only_eq member]

theorem flatMap_handlers {α : Type} (made : ofUnit u = .ok facts) (f : HandlerFacts → List α) :
    facts.handlers.flatMap f = u.handlers.flatMap fun handler =>
      (facts.only handler.name).handlers.flatMap f := by
  rcases exists_pairs made with ⟨pairs, h⟩
  rw [h.facts_handlers, h.handlers, List.flatMap_map, List.flatMap_map]
  refine List.flatMap_congr fun pair member => ?_
  rw [h.only_eq member, List.flatMap_singleton]

end FactBase

/-! ## Local detectors -/

/-- A scan sees of the unit the layouts only, and reports under the name of the handler. -/
structure Detector.IsLocal (scan : FactBase → HandlerFacts → List Finding) : Prop where
  layouts : ∀ facts facts' : FactBase, facts'.structs = facts.structs →
    facts'.sizeGroups = facts.sizeGroups → scan facts' = scan facts
  about : ∀ facts handler, ∀ f ∈ scan facts handler, f.handler = handler.name

theorem SignerAuthorization.isLocal : Detector.IsLocal scan where
  layouts facts facts' structs _ := by
    have candidates : isCandidate facts' = isCandidate facts := by
      funext account
      simp only [isCandidate, dataNamesAuthority, FactBase.struct?, structs]
    funext handler
    have reported : reports facts' handler = reports facts handler := by
      funext account
      rw [reports, reports, candidates]
    rw [scan, scan, reported]
  about facts handler f member := (accusesExposed facts handler f member).1

theorem OwnerProgram.isLocal : Detector.IsLocal fun _ => scan where
  layouts _ _ _ _ := rfl
  about facts handler f member := (accusesExposed facts handler f member).1

theorem UncheckedArithmetic.isLocal : Detector.IsLocal fun _ => scan where
  layouts _ _ _ _ := rfl
  about facts handler f member := by
    rcases List.mem_map.1 member with ⟨site, -, rfl⟩
    rfl

theorem AddressDerivation.isLocal : Detector.IsLocal fun _ => scan where
  layouts _ _ _ _ := rfl
  about facts handler f member := by
    rcases List.mem_append.1 member with accounts | calls
    · rcases List.mem_filterMap.1 accounts with ⟨account, -, found⟩
      unfold accountFinding? at found
      split at found
      · dsimp only at found
        split at found
        · cases found
        · split at found
          · cases found
          · obtain rfl := Option.some.inj found
            rfl
      · cases found
    · rcases List.mem_filterMap.1 calls with ⟨call, -, found⟩
      unfold callFinding? at found
      dsimp only at found
      split at found
      · cases found
      · obtain rfl := Option.some.inj found
        rfl

theorem ArbitraryInvocation.isLocal : Detector.IsLocal fun _ => scan where
  layouts _ _ _ _ := rfl
  about facts handler f member := by
    rcases List.mem_map.1 member with ⟨site, -, rfl⟩
    rfl

theorem Reinitialization.isLocal : Detector.IsLocal fun _ => scan where
  layouts _ _ _ _ := rfl
  about facts handler f member := (accusesExposed facts handler f member).1

theorem TypeConfusion.isLocal : Detector.IsLocal scan where
  layouts facts facts' structs groups := by
    have colliding : facts'.collidingStructs = facts.collidingStructs := by
      funext name
      simp only [FactBase.collidingStructs, FactBase.struct?, structs, groups]
    funext handler
    have found : callFinding? facts' handler = callFinding? facts handler := by
      funext call
      simp only [callFinding?, colliding]
    rw [scan, scan, found]
  about facts handler f member := (accusesExposed facts handler f member).1

theorem DuplicateAccounts.isLocal : Detector.IsLocal fun _ => scan where
  layouts _ _ _ _ := rfl
  about facts handler f member := (accusesExposed facts handler f member).1

theorem AccountClose.isLocal : Detector.IsLocal fun _ => scan where
  layouts _ _ _ _ := rfl
  about facts handler f member := by
    rcases List.mem_filterMap.1 member with ⟨⟨index, location⟩, -, found⟩
    dsimp only at found
    split at found
    · split at found
      · obtain rfl := Option.some.inj found
        rfl
      · cases found
    · cases found

namespace Detector

theorem exists_local_of_mem_builtin {d : Detector} (builtin : d ∈ Detector.builtin) :
    ∃ scan, d = .ofHandlers d.info scan ∧ IsLocal scan := by
  simp only [Detector.builtin, List.mem_cons, List.not_mem_nil, or_false] at builtin
  rcases builtin with rfl | rfl | rfl | rfl | rfl | rfl | rfl | rfl | rfl
  · exact ⟨_, rfl, SignerAuthorization.isLocal⟩
  · exact ⟨_, rfl, OwnerProgram.isLocal⟩
  · exact ⟨_, rfl, UncheckedArithmetic.isLocal⟩
  · exact ⟨_, rfl, AddressDerivation.isLocal⟩
  · exact ⟨_, rfl, ArbitraryInvocation.isLocal⟩
  · exact ⟨_, rfl, Reinitialization.isLocal⟩
  · exact ⟨_, rfl, TypeConfusion.isLocal⟩
  · exact ⟨_, rfl, DuplicateAccounts.isLocal⟩
  · exact ⟨_, rfl, AccountClose.isLocal⟩

/-! ## Units -/

/-- A handler that takes two accounts which may be the same. -/
def pairing (name : String) (body : List BodyNode) : Handler :=
  { name
    span := .ofLength 0 9
    params := ["a", "b"].map fun name =>
      { name, typeTag := "Account<'info, Vault>", isMut := true, span := .ofLength 0 1 }
    params_distinct := by simp
    body }

/-- Of two handlers with the same accounts the second one requires that they differ. -/
def twins : ProgramUnit :=
  { name := "twins"
    file := "twins.json"
    handlers := [pairing "merge" [], pairing "swap"
      [⟨.ofLength 2 1, .check (.ofBinary "!=" (.ofPath "a") (.ofPath "b"))⟩]]
    handlers_distinct := by simp [pairing] }

end Detector
end AccountAudit
