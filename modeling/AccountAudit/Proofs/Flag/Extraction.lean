import AccountAudit.Proofs.Assoc
import AccountAudit.Proofs.Order.Extraction

/-!
# Taking away a flag that is not set

An attribute of a kind of flags can be given as not set (`Account.IsOff`). Extraction reads flags by
their value: whether an account is mutable and whether it signs, every position, every guard and every
diagnostic are the same without such an attribute. What is extracted from the unit without it are the
facts of the unit with the resolved attribute left out, and nothing else is different
(`FactBase.ofUnit_without`), failures included.
-/

namespace AccountAudit

/-! ## The edit -/

namespace Account

/-- The account without its attributes of a kind. -/
def without (account : Account) (kind : String) : Account :=
  { account with attributes := Assoc.without kind account.attributes }

/-- The account has an attribute of a kind of flags, and it is given as not set. -/
structure IsOff (account : Account) (kind : String) : Prop where
  flag : kind ∈ Resolved.flagKinds
  given : kind ∈ account.attributes.map Prod.fst
  off : ∀ raw, (kind, raw) ∈ account.attributes → raw = .bool false

/-- The edit as it applies to any account of a handler: only the one of the name is changed. -/
def withoutAt (name kind : String) (account : Account) : Account :=
  if account.name = name then account.without kind else account

@[simp]
theorem name_withoutAt (name kind : String) (account : Account) :
    (account.withoutAt name kind).name = account.name := by
  unfold withoutAt
  split <;> rfl

end Account

namespace Handler

/-- The handler in which an account has no attributes of a kind. -/
def without (handler : Handler) (name kind : String) : Handler :=
  { handler with
    params := handler.params.map (Account.withoutAt name kind)
    params_distinct := by
      have names : handler.params.map (Account.name ∘ Account.withoutAt name kind) =
          handler.params.map Account.name :=
        List.map_congr_left fun account _ => account.name_withoutAt name kind
      rw [List.map_map, names]
      exact handler.params_distinct }

/-- The edit as it applies to any handler of a unit. -/
def withoutAt (at' name kind : String) (handler : Handler) : Handler :=
  if handler.name = at' then handler.without name kind else handler

@[simp]
theorem name_withoutAt (at' name kind : String) (handler : Handler) :
    (handler.withoutAt at' name kind).name = handler.name := by
  unfold withoutAt
  split <;> rfl

theorem accountNames_without (handler : Handler) (name kind : String) :
    (handler.without name kind).accountNames = handler.accountNames := by
  rw [accountNames, without, List.map_map, accountNames]
  exact List.map_congr_left fun account _ => account.name_withoutAt name kind

end Handler

/-- The unit in which an account of a handler has no attributes of a kind. -/
def ProgramUnit.without (u : ProgramUnit) (handler name kind : String) : ProgramUnit :=
  { u with
    handlers := u.handlers.map (Handler.withoutAt handler name kind)
    handlers_distinct := by
      have names : u.handlers.map (Handler.name ∘ Handler.withoutAt handler name kind) =
          u.handlers.map Handler.name :=
        List.map_congr_left fun h _ => h.name_withoutAt handler name kind
      rw [List.map_map, names]
      exact u.handlers_distinct }

theorem ProgramUnit.location_without (u : ProgramUnit) (handler name kind : String) :
    (u.without handler name kind).location = u.location :=
  location_congr rfl rfl rfl

/-! ## The edit of facts -/

namespace AccountFact

/-- The facts of an account without its attributes of a kind. -/
def without (account : AccountFact) (kind : String) : AccountFact :=
  { account with attributes := Assoc.without kind account.attributes }

/-- The account has an attribute of a kind of flags, which says that the flag is not set. -/
structure IsOff (account : AccountFact) (kind : String) : Prop where
  flag : kind ∈ Resolved.flagKinds
  given : kind ∈ account.attributes.map Prod.fst
  off : ∀ value, (kind, value) ∈ account.attributes → value = .flag false

def withoutAt (name kind : String) (account : AccountFact) : AccountFact :=
  if account.name = name then account.without kind else account

end AccountFact

/-- The facts of a handler in which an account has no attributes of a kind. -/
def HandlerFacts.without (handler : HandlerFacts) (name kind : String) : HandlerFacts :=
  { handler with accounts := handler.accounts.map (AccountFact.withoutAt name kind) }

def HandlerFacts.withoutAt (at' name kind : String) (handler : HandlerFacts) : HandlerFacts :=
  if handler.name = at' then handler.without name kind else handler

/-- The facts of a unit in which an account of a handler has no attributes of a kind. -/
def FactBase.without (facts : FactBase) (handler name kind : String) : FactBase :=
  { facts with handlers := facts.handlers.map (HandlerFacts.withoutAt handler name kind) }

/-! ## Attributes -/

namespace Resolved

theorem ofAttribute_off {kind : String} (flag : kind ∈ flagKinds) (names : List String) :
    ofAttribute names kind (.bool false) = .ok (.flag false) := by
  have noReference : kind ∉ referenceKinds := by
    revert kind
    decide
  rw [ofAttribute, if_neg noReference]
  rfl

end Resolved

namespace AccountFact

variable {u : ProgramUnit} {kind : String}

theorem attributes?_without (flag : kind ∈ Resolved.flagKinds) (names : List String)
    {raws : List (String × Value)} (off : ∀ raw, (kind, raw) ∈ raws → raw = .bool false) :
    attributes? names (Assoc.without kind raws) =
      (attributes? names raws).map (Assoc.without kind) := by
  induction raws with
  | nil => rfl
  | cons entry rest ih =>
    rcases entry with ⟨k, raw⟩
    have others := ih fun raw inside => off raw (List.mem_cons_of_mem _ inside)
    by_cases same : k = kind
    -- The attribute that is left out can be resolved, so it does not decide about failure either.
    · subst same
      obtain rfl := off raw List.mem_cons_self
      rw [Assoc.without_cons_self, others, attributes?, Resolved.ofAttribute_off flag]
      cases attributes? names rest with
      | error failure => rfl
      | ok attributes => exact congrArg Except.ok (Assoc.without_cons_self k _ _).symm
    · rw [Assoc.without_cons same, attributes?, attributes?, others]
      cases Resolved.ofAttribute names k raw with
      | error failure => rfl
      | ok value =>
        cases attributes? names rest with
        | error failure => rfl
        | ok attributes => exact congrArg Except.ok (Assoc.without_cons same _ _).symm

/-- A flag that is not set is not missed. -/
theorem isSet_without {attributes : List (String × Resolved)}
    (off : ∀ value, (kind, value) ∈ attributes → value = .flag false) (k : String) :
    isSet (Assoc.without kind attributes) k = isSet attributes k := by
  by_cases same : k = kind
  · subst same
    rw [isSet, isSet, Assoc.lookup_without_self]
    cases found : attributes.lookup k with
    | none => rfl
    | some value =>
      obtain rfl := off value (Assoc.mem_of_lookup found)
      rfl
  · rw [isSet, isSet, Assoc.lookup_without same]

/-- Flags that are given as not set are known to be not set. -/
theorem isOff_of_ofAccount {handler : Handler} {index : Nat} {account : Account} {fact : AccountFact}
    (made : ofAccount u handler index account = .ok fact) (off : account.IsOff kind) :
    fact.IsOff kind := by
  obtain ⟨attributes, resolved, rfl⟩ := ofAccount_eq_ok.1 made
  refine ⟨off.flag, (mem_kinds_iff resolved kind).2 off.given, fun value inside => ?_⟩
  rcases exists_left_of_forall₂ (forall₂_of_attributes? resolved) inside with
    ⟨⟨k, raw⟩, present, same, said⟩
  obtain rfl : kind = k := same
  obtain rfl := off.off raw present
  exact (Except.ok.inj ((Resolved.ofAttribute_off off.flag _).symm.trans said)).symm

theorem ofAccount_without {account : Account} (off : account.IsOff kind) (handler : Handler)
    (index : Nat) :
    ofAccount u handler index (account.without kind) =
      (ofAccount u handler index account).map (·.without kind) := by
  cases made : ofAccount u handler index account with
  | error failure =>
    have resolved := attributes?_without off.flag (handler.params.map Account.name) off.off
    rw [ofAccount] at made ⊢
    rw [Account.without, resolved]
    cases said : attributes? (handler.params.map Account.name) account.attributes with
    | error failure' =>
      rw [said] at made
      exact congrArg Except.error (Except.error.inj made)
    | ok attributes => simp [said, Except.map] at made
  | ok fact =>
    have known := isOff_of_ofAccount made off
    obtain ⟨attributes, said, rfl⟩ := ofAccount_eq_ok.1 made
    refine ofAccount_eq_ok.2 ⟨Assoc.without kind attributes, ?_, ?_⟩
    · rw [Account.without, attributes?_without off.flag _ off.off, said]
      rfl
    · -- The fields that are read off the flags do not change.
      have same := isSet_without known.off
      have typeKind : (account.without kind).typeKind = account.typeKind := rfl
      have innerType : (account.without kind).innerType? = account.innerType? := rfl
      dsimp only at same
      simp only [same, typeKind, innerType]
      rw [without, Account.without]

/-- The edit of a declared account is the edit of its facts. -/
theorem ofAccount_withoutAt {account : Account} {name : String}
    (off : account.name = name → account.IsOff kind) (handler : Handler) (index : Nat) :
    ofAccount u handler index (account.withoutAt name kind) =
      (ofAccount u handler index account).map (withoutAt name kind) := by
  have edited : ∀ fact, ofAccount u handler index account = .ok fact →
      fact.withoutAt name kind = if account.name = name then fact.without kind else fact := by
    intro fact made
    rw [withoutAt, name_of_ofAccount made]
  rw [Account.withoutAt]
  split
  · rename_i here
    rw [ofAccount_without (off here)]
    cases made : ofAccount u handler index account with
    | error failure => rfl
    | ok fact => exact congrArg Except.ok (by rw [edited fact made, if_pos here])
  · rename_i elsewhere
    cases made : ofAccount u handler index account with
    | error failure => rfl
    | ok fact => exact congrArg Except.ok (by rw [edited fact made, if_neg elsewhere])

/-- What was not understood is no flag that is known to be not set. -/
theorem unknown_without {account : AccountFact} (off : account.IsOff kind) :
    (account.without kind).attributes.filter (·.2.isUnknown) =
      account.attributes.filter (·.2.isUnknown) := by
  rw [without, Assoc.without, List.filter_filter]
  refine List.filter_congr fun said inside => ?_
  rcases said with ⟨k, value⟩
  by_cases same : k = kind
  · subst same
    obtain rfl := off.off value inside
    rfl
  · simp [same]

theorem diagnostic?_without {account : AccountFact} (off : account.IsOff kind) :
    (account.without kind).diagnostic? = account.diagnostic? := by
  simp only [diagnostic?, unknown_without off]
  rfl

end AccountFact

/-! ## Handlers -/

namespace Handler

variable {u u' : ProgramUnit} {handler : Handler} {name kind : String}

theorem accountFacts_without (same : u'.location = u.location) {accounts : List Account}
    (off : ∀ account ∈ accounts, account.name = name → account.IsOff kind) (index : Nat) :
    accountFacts u' (handler.without name kind) index (accounts.map (Account.withoutAt name kind)) =
      (accountFacts u handler index accounts).map (List.map (AccountFact.withoutAt name kind)) := by
  have kept : (handler.without name kind).name = handler.name := rfl
  have congr : accountFacts u' (handler.without name kind) = accountFacts u handler := by
    funext index accounts
    exact accountFacts_congr same kept (accountNames_without handler name kind) index accounts
  rw [congr]
  induction accounts generalizing index with
  | nil => rfl
  | cons account rest ih =>
    have others := ih (fun account inside => off account (List.mem_cons_of_mem _ inside)) (index + 1)
    have first := AccountFact.ofAccount_withoutAt (u := u) (off account List.mem_cons_self) handler
      index
    rw [List.map_cons, accountFacts, accountFacts, first, others]
    cases AccountFact.ofAccount u handler index account with
    | error failure => rfl
    | ok fact => cases accountFacts u handler (index + 1) rest <;> rfl

theorem facts_without (same : u'.location = u.location)
    (off : ∀ account ∈ handler.params, account.name = name → account.IsOff kind) :
    (handler.without name kind).facts u' = (handler.facts u).map (·.without name kind) := by
  have accounts : accountFacts u' (handler.without name kind) 0 (handler.without name kind).params =
      (accountFacts u handler 0 handler.params).map (List.map (AccountFact.withoutAt name kind)) :=
    accountFacts_without same off 0
  rw [facts, facts, accounts, accountNames_without]
  -- The body and the arguments are the same, and so are the names that they may refer to.
  cases accountFacts u handler 0 handler.params with
  | error failure => rfl
  | ok accounts =>
    simp only [checkFact?_congr same, callFact?_congr same, invokeSite?_congr same,
      assignFact?_congr same, arithmeticSite?_congr same, same, placed]
    rfl

theorem diagnostics_without (same : u'.location = u.location) {facts : HandlerFacts}
    (off : ∀ account ∈ facts.accounts, account.name = name → account.IsOff kind) :
    (handler.without name kind).diagnostics u' (facts.without name kind) =
      handler.diagnostics u facts := by
  have accounts : (facts.without name kind).accounts.filterMap AccountFact.diagnostic? =
      facts.accounts.filterMap AccountFact.diagnostic? := by
    rw [HandlerFacts.without, List.filterMap_map]
    refine List.filterMap_congr fun account inside => ?_
    rw [Function.comp_apply, AccountFact.withoutAt]
    split
    · rename_i here
      exact AccountFact.diagnostic?_without (off account inside here)
    · rfl
  rw [diagnostics, diagnostics, accounts, nodeDiagnostic?_congr same rfl]
  rfl

end Handler

/-! ## Units -/

namespace FactBase

variable {u u' : ProgramUnit} {at' name kind : String}

theorem facts_withoutAt (same : u'.location = u.location) {handler : Handler}
    (off : handler.name = at' →
      ∀ account ∈ handler.params, account.name = name → account.IsOff kind) :
    (handler.withoutAt at' name kind).facts u' =
      (handler.facts u).map (HandlerFacts.withoutAt at' name kind) := by
  have edited : ∀ facts, handler.facts u = .ok facts →
      facts.withoutAt at' name kind =
        if handler.name = at' then facts.without name kind else facts := by
    intro facts made
    rw [HandlerFacts.withoutAt, Handler.name_of_facts made]
  rw [Handler.withoutAt]
  split
  · rename_i here
    rw [Handler.facts_without same (off here)]
    cases made : handler.facts u with
    | error failure => rfl
    | ok facts => exact congrArg Except.ok (by rw [edited facts made, if_pos here])
  · rename_i elsewhere
    rw [Handler.facts_congr same]
    cases made : handler.facts u with
    | error failure => rfl
    | ok facts => exact congrArg Except.ok (by rw [edited facts made, if_neg elsewhere])

theorem handlersOf_without (same : u'.location = u.location) {handlers : List Handler}
    (off : ∀ handler ∈ handlers, handler.name = at' →
      ∀ account ∈ handler.params, account.name = name → account.IsOff kind) :
    handlersOf u' (handlers.map (Handler.withoutAt at' name kind)) =
      (handlersOf u handlers).map (List.map (HandlerFacts.withoutAt at' name kind)) := by
  induction handlers with
  | nil => rfl
  | cons handler rest ih =>
    have others := ih fun handler inside => off handler (List.mem_cons_of_mem _ inside)
    have first := facts_withoutAt same (off handler List.mem_cons_self)
    -- What decides whether the conditions can be shown is the body.
    have showable : (handler.withoutAt at' name kind).isReportable = handler.isReportable := by
      unfold Handler.withoutAt
      split <;> rfl
    rw [List.map_cons, handlersOf, handlersOf, first, others, showable]
    cases handler.facts u with
    | error failure => rfl
    | ok facts =>
      cases handler.isReportable with
      | false => rfl
      | true => cases handlersOf u rest <;> rfl

/-- The diagnostics are the same, handler by handler. -/
theorem diagnostics_withoutAt (same : u'.location = u.location) {handler : Handler}
    {facts : HandlerFacts} (made : handler.facts u = .ok facts)
    (off : handler.name = at' →
      ∀ account ∈ handler.params, account.name = name → account.IsOff kind) :
    (handler.withoutAt at' name kind).diagnostics u' (facts.withoutAt at' name kind) =
      handler.diagnostics u facts := by
  rw [HandlerFacts.withoutAt, Handler.withoutAt, Handler.name_of_facts made]
  split
  · rename_i here
    refine Handler.diagnostics_without same fun fact inside named => ?_
    rcases Handler.facts_eq_ok.1 made with ⟨accounts, extracted, rfl⟩
    rcases exists_left_of_forall₂ (Handler.forall₂_of_accountFacts extracted) inside with
      ⟨placed, member, built⟩
    have declared : placed.1 ∈ handler.params := by
      rw [← List.zipIdx_map_fst 0 handler.params]
      exact List.mem_map_of_mem member
    have kept : fact.name = placed.1.name := AccountFact.name_of_ofAccount built
    exact AccountFact.isOff_of_ofAccount built (off here _ declared (kept.symm.trans named))
  · rw [Handler.diagnostics, Handler.diagnostics, Handler.nodeDiagnostic?_congr same rfl]

/-- Taking away a flag that is not set from an account takes the resolved flag away from the facts of
that account and changes nothing else; extraction fails if it failed before, and in the same way. -/
theorem ofUnit_without
    (off : ∀ handler ∈ u.handlers, handler.name = at' →
      ∀ account ∈ handler.params, account.name = name → account.IsOff kind) :
    ofUnit (u.without at' name kind) = (ofUnit u).map (·.without at' name kind) := by
  have same := u.location_without at' name kind
  have handlers : handlersOf (u.without at' name kind) (u.without at' name kind).handlers =
      (handlersOf u u.handlers).map (List.map (HandlerFacts.withoutAt at' name kind)) :=
    handlersOf_without same off
  have structs : (u.without at' name kind).structs = u.structs := rfl
  rw [ofUnit, ofUnit, handlers, structs]
  cases extracted : handlersOf u u.handlers with
  | error failure => rfl
  | ok facts =>
    simp only [Except.map]
    cases u.structs.mapM StructDecl.fact with
    | error excess => rfl
    | ok layouts =>
      have diagnostics : ((u.without at' name kind).handlers.zip
            (facts.map (HandlerFacts.withoutAt at' name kind))).flatMap (fun pair =>
              pair.1.diagnostics (u.without at' name kind) pair.2) =
          (u.handlers.zip facts).flatMap fun pair => pair.1.diagnostics u pair.2 := by
        rw [ProgramUnit.without, List.zip_map, List.flatMap_map]
        refine List.flatMap_congr fun pair inside => ?_
        have made : pair.1.facts u = .ok pair.2 := by
          have related := forall₂_of_handlersOf extracted
          exact (List.forall₂_iff_zip.1 related).2 inside
        have member : pair.1 ∈ u.handlers := (List.of_mem_zip inside).1
        exact diagnostics_withoutAt same made (off pair.1 member)
      refine congrArg Except.ok ?_
      rw [diagnostics]
      rfl

end FactBase
end AccountAudit
