import AccountAudit.Fact.Extract
import AccountAudit.Proofs.Related

/-!
# Extraction, part by part

Extraction fails as a whole when one attribute cannot be read. This module turns a successful
extraction into statements about its parts, each of which relates one list of a unit to the list of
facts that was made from it (`List.Forall₂`):

* `AccountFact.forall₂_of_attributes?` — attributes and what they say,
* `Handler.forall₂_of_accountFacts` — accounts and their facts,
* `FactBase.forall₂_of_handlersOf` — handlers and their facts,
* `FactBase.ofUnit_eq_ok` — a unit and its facts.

Nothing here says when extraction succeeds.
-/

namespace AccountAudit

/-! ## Attributes -/

namespace AccountFact

theorem attributes?_cons_eq_ok {names : List String} {kind : String} {raw : Value}
    {rest : List (String × Value)} {attributes : List (String × Resolved)} :
    attributes? names ((kind, raw) :: rest) = .ok attributes ↔
      ∃ value more, Resolved.ofAttribute names kind raw = .ok value ∧
        attributes? names rest = .ok more ∧ attributes = (kind, value) :: more := by
  rw [attributes?]
  cases Resolved.ofAttribute names kind raw with
  | error issues => simp
  | ok value =>
    cases attributes? names rest with
    | error issues => simp [Except.map]
    | ok more => simp [Except.map, eq_comm]

/-- Every attribute is resolved by itself, under its own kind. -/
theorem forall₂_of_attributes? {names : List String} {raws : List (String × Value)}
    {attributes : List (String × Resolved)} (h : attributes? names raws = .ok attributes) :
    List.Forall₂ (fun raw said => said.1 = raw.1 ∧
      Resolved.ofAttribute names raw.1 raw.2 = .ok said.2) raws attributes := by
  induction raws generalizing attributes with
  | nil =>
    obtain rfl := Except.ok.inj h
    exact .nil
  | cons entry rest ih =>
    rcases attributes?_cons_eq_ok.1 h with ⟨value, more, resolved, tail, rfl⟩
    exact .cons ⟨rfl, resolved⟩ (ih tail)

theorem attributes?_append_eq_ok {names : List String} {front back : List (String × Value)}
    {attributes : List (String × Resolved)} :
    attributes? names (front ++ back) = .ok attributes ↔
      ∃ first rest, attributes? names front = .ok first ∧ attributes? names back = .ok rest ∧
        attributes = first ++ rest := by
  -- By induction on the front part: its head is resolved before everything behind it.
  induction front generalizing attributes with
  | nil => simp [attributes?]
  | cons entry front ih =>
    rcases entry with ⟨kind, raw⟩
    simp only [List.cons_append, attributes?_cons_eq_ok, ih]
    constructor
    · rintro ⟨value, -, resolved, ⟨first, rest, hfirst, hrest, rfl⟩, rfl⟩
      exact ⟨(kind, value) :: first, rest, ⟨value, first, resolved, hfirst, rfl⟩, hrest, rfl⟩
    · rintro ⟨-, rest, ⟨value, first, resolved, hfirst, rfl⟩, hrest, rfl⟩
      exact ⟨value, first ++ rest, resolved, ⟨first, rest, hfirst, hrest, rfl⟩, rfl⟩

/-- Every attribute keeps its kind. -/
theorem mem_kinds_iff {names : List String} {raws : List (String × Value)}
    {attributes : List (String × Resolved)} (h : attributes? names raws = .ok attributes)
    (kind : String) : kind ∈ attributes.map Prod.fst ↔ kind ∈ raws.map Prod.fst := by
  -- The lists go in step, so the induction is on the pairs.
  have pairs := forall₂_of_attributes? h
  clear h
  induction pairs with
  | nil => simp
  | cons head _ ih => simp only [List.map_cons, List.mem_cons, head.1, ih]

/-- The facts of an account, given what its attributes say. -/
theorem ofAccount_eq_ok {u : ProgramUnit} {handler : Handler} {index : Nat} {account : Account}
    {fact : AccountFact} :
    ofAccount u handler index account = .ok fact ↔
      ∃ attributes, attributes? handler.accountNames account.attributes = .ok attributes ∧
        fact =
          { index, name := account.name, handler := handler.name, typeTag := account.typeTag
            typeKind := account.typeKind, innerType := account.innerType?
            isMut := account.isMut || isSet attributes "mut" || isSet attributes "init"
            isSigner := account.typeKind == "Signer" || isSet attributes "signer"
            attributes
            location := u.location account.span } := by
  -- Only the attributes can fail; the other fields are functions of what they give.
  rw [ofAccount, Handler.accountNames]
  cases attributes? (handler.params.map Account.name) account.attributes with
  | error issues => simp [Except.map]
  | ok attributes => simp [Except.map, eq_comm]

theorem name_of_ofAccount {u : ProgramUnit} {handler : Handler} {index : Nat} {account : Account}
    {fact : AccountFact} (h : ofAccount u handler index account = .ok fact) :
    fact.name = account.name := by
  obtain ⟨attributes, -, rfl⟩ := ofAccount_eq_ok.1 h
  rfl

end AccountFact

/-! ## Accounts -/

namespace Handler

theorem accountFacts_cons_eq_ok {u : ProgramUnit} {handler : Handler} {index : Nat}
    {account : Account} {rest : List Account} {facts : List AccountFact} :
    accountFacts u handler index (account :: rest) = .ok facts ↔
      ∃ fact more, AccountFact.ofAccount u handler index account = .ok fact ∧
        accountFacts u handler (index + 1) rest = .ok more ∧ facts = fact :: more := by
  rw [accountFacts]
  cases AccountFact.ofAccount u handler index account with
  | error failure => simp
  | ok fact =>
    cases accountFacts u handler (index + 1) rest with
    | error failure => simp [Except.map]
    | ok more => simp [Except.map, eq_comm]

/-- The facts of the accounts of a handler are made account by account, each with its position. -/
theorem forall₂_of_accountFacts {u : ProgramUnit} {handler : Handler} {index : Nat}
    {accounts : List Account} {facts : List AccountFact}
    (h : accountFacts u handler index accounts = .ok facts) :
    List.Forall₂ (fun placed fact => AccountFact.ofAccount u handler placed.2 placed.1 = .ok fact)
      (accounts.zipIdx index) facts := by
  induction accounts generalizing index facts with
  | nil =>
    obtain rfl := Except.ok.inj h
    exact .nil
  | cons account rest ih =>
    rcases accountFacts_cons_eq_ok.1 h with ⟨fact, more, made, others, rfl⟩
    exact .cons made (ih others)

/-- The facts of a handler, given those of its accounts. -/
theorem facts_eq_ok {u : ProgramUnit} {handler : Handler} {facts : HandlerFacts} :
    handler.facts u = .ok facts ↔
      ∃ accounts, accountFacts u handler 0 handler.params = .ok accounts ∧
        facts =
          { name := handler.name, location := u.location handler.span, accounts
            args := Assoc.ofPairs (handler.args.map fun arg => (arg.name, arg.typeTag))
            invokes := handler.placed.filterMap (invokeSite? u handler.accountNames)
            arithmetic := handler.placed.filterMap
              (arithmeticSite? u handler.accountNames (handler.args.map Argument.name)
                (handler.placed.filterMap (checkFact? u handler.accountNames)))
            checks := handler.placed.filterMap (checkFact? u handler.accountNames)
            calls := handler.placed.filterMap (callFact? u handler.accountNames)
            assignments := handler.placed.filterMap (assignFact? u handler.accountNames) } := by
  rw [Handler.facts]
  -- The body is read without failure, so only the accounts decide.
  cases accountFacts u handler 0 handler.params with
  | error issues => simp [Except.map]
  | ok accounts => simp [Except.map, eq_comm]

theorem name_of_facts {u : ProgramUnit} {handler : Handler} {facts : HandlerFacts}
    (h : handler.facts u = .ok facts) : facts.name = handler.name := by
  obtain ⟨accounts, -, rfl⟩ := facts_eq_ok.1 h
  rfl

/-- The accounts of the facts are those of the handler, in their order. -/
theorem names_of_facts {u : ProgramUnit} {handler : Handler} {facts : HandlerFacts}
    (h : handler.facts u = .ok facts) :
    facts.accounts.map AccountFact.name = handler.accountNames := by
  rcases facts_eq_ok.1 h with ⟨accounts, extracted, rfl⟩
  have named := map_eq_of_forall₂ (forall₂_of_accountFacts extracted)
    (f := fun placed => placed.1.name) (g := AccountFact.name) fun placed fact made =>
      AccountFact.name_of_ofAccount made
  calc accounts.map AccountFact.name
      = ((handler.params.zipIdx).map Prod.fst).map Account.name := by rw [named, List.map_map]; rfl
    _ = handler.accountNames := by rw [List.zipIdx_map_fst, accountNames]

/-- The fact at a position is made of the account that is declared there. -/
theorem rel_accounts {u : ProgramUnit} {handler : Handler} {facts : HandlerFacts}
    (h : handler.facts u = .ok facts) (i : Nat) :
    Option.Rel (fun account fact => AccountFact.ofAccount u handler i account = .ok fact)
      handler.params[i]? facts.accounts[i]? := by
  rcases facts_eq_ok.1 h with ⟨accounts, made, rfl⟩
  rcases rel_cases (rel_getElem? (forall₂_of_accountFacts made) i) with
    ⟨absent, none⟩ | ⟨placed, fact, here, found, made⟩
  · rw [List.getElem?_zipIdx, Option.map_eq_none_iff] at absent
    rw [absent, none]
    exact .none
  · rw [List.getElem?_zipIdx, Option.map_eq_some_iff] at here
    rcases here with ⟨account, declared, rfl⟩
    rw [Nat.zero_add] at made
    rw [declared, found]
    exact .some made

/-- What is made of the facts of accounts, if it depends on the declarations only. -/
theorem filterMap_accounts {α : Type} {u : ProgramUnit} {handler : Handler} {facts : HandlerFacts}
    (h : handler.facts u = .ok facts) {f : AccountFact → Option α} {g : Account → Option α}
    (same : ∀ index account fact,
      AccountFact.ofAccount u handler index account = .ok fact → f fact = g account) :
    facts.accounts.filterMap f = handler.params.filterMap g := by
  rcases facts_eq_ok.1 h with ⟨accounts, made, rfl⟩
  calc accounts.filterMap f
      = handler.params.zipIdx.filterMap fun placed => g placed.1 :=
        filterMap_eq_of_forall₂ (forall₂_of_accountFacts made) fun placed => same placed.2 placed.1
    _ = (handler.params.zipIdx.map Prod.fst).filterMap g := by rw [List.filterMap_map]; rfl
    _ = handler.params.filterMap g := by rw [List.zipIdx_map_fst]

theorem index_of_getElem? {u : ProgramUnit} {handler : Handler} {facts : HandlerFacts}
    (h : handler.facts u = .ok facts) {account : AccountFact} {i : Nat}
    (here : facts.accounts[i]? = some account) : account.index = i := by
  rcases exists_left_of_rel (rel_accounts h i) here with ⟨declared, -, made⟩
  obtain ⟨attributes, -, rfl⟩ := AccountFact.ofAccount_eq_ok.1 made
  rfl

/-- An account stands at its position. -/
theorem getElem?_accounts {u : ProgramUnit} {handler : Handler} {facts : HandlerFacts}
    (h : handler.facts u = .ok facts) {account : AccountFact} (inside : account ∈ facts.accounts) :
    facts.accounts[account.index]? = some account := by
  rcases List.getElem?_of_mem inside with ⟨i, here⟩
  rw [index_of_getElem? h here]
  exact here

/-- The name of an account stands among the names at the position of the account. -/
theorem getElem?_accountNames {u : ProgramUnit} {handler : Handler} {facts : HandlerFacts}
    (h : handler.facts u = .ok facts) {account : AccountFact} (inside : account ∈ facts.accounts) :
    handler.accountNames[account.index]? = some account.name := by
  rw [← names_of_facts h, List.getElem?_map, getElem?_accounts h inside]
  rfl

/-- No two accounts of a handler stand at one position. -/
theorem eq_of_index {u : ProgramUnit} {handler : Handler} {facts : HandlerFacts}
    (h : handler.facts u = .ok facts) {a b : AccountFact} (first : a ∈ facts.accounts)
    (second : b ∈ facts.accounts) (same : a.index = b.index) : a = b := by
  have here := getElem?_accounts h first
  rw [same, getElem?_accounts h second] at here
  exact (Option.some.inj here).symm

/-- No two accounts of a handler have one name. -/
theorem eq_of_name {u : ProgramUnit} {handler : Handler} {facts : HandlerFacts}
    (h : handler.facts u = .ok facts) {a b : AccountFact} (first : a ∈ facts.accounts)
    (second : b ∈ facts.accounts) (same : a.name = b.name) : a = b := by
  have distinct : handler.accountNames.Nodup := handler.params_distinct
  have here := getElem?_accountNames h first
  rw [same, ← getElem?_accountNames h second] at here
  refine eq_of_index h first second ((List.getElem?_inj ?_ distinct).1 here)
  exact (List.getElem?_eq_some_iff.1 (getElem?_accountNames h first)).1

/-- The name of an account is looked up to where the account stands. -/
theorem idxOf?_accountNames_iff {u : ProgramUnit} {handler : Handler} {facts : HandlerFacts}
    (h : handler.facts u = .ok facts) {name : String} {index : Nat} :
    handler.accountNames.idxOf? name = some index ↔
      ∃ account, facts.accounts[index]? = some account ∧ account.name = name := by
  have distinct : handler.accountNames.Nodup := handler.params_distinct
  rw [idxOf?_eq_some_iff distinct, ← names_of_facts h, List.getElem?_map, Option.map_eq_some_iff]

end Handler

/-! ## Handlers and units -/

namespace FactBase

theorem handlersOf_cons_eq_ok {u : ProgramUnit} {handler : Handler} {rest : List Handler}
    {facts : List HandlerFacts} :
    handlersOf u (handler :: rest) = .ok facts ↔
      ∃ fact more, handler.facts u = .ok fact ∧ handler.isReportable = true ∧
        handlersOf u rest = .ok more ∧ facts = fact :: more := by
  rw [handlersOf]
  cases handler.facts u with
  | error failure => simp
  | ok fact =>
    cases handler.isReportable with
    | false => simp
    | true =>
      cases handlersOf u rest with
      | error failure => simp [Except.map]
      | ok more => simp [Except.map, eq_comm]

/-- The facts of handlers are made handler by handler. -/
theorem forall₂_of_handlersOf {u : ProgramUnit} {handlers : List Handler}
    {facts : List HandlerFacts} (h : handlersOf u handlers = .ok facts) :
    List.Forall₂ (fun handler fact => handler.facts u = .ok fact) handlers facts := by
  induction handlers generalizing facts with
  | nil =>
    obtain rfl := Except.ok.inj h
    exact .nil
  | cons handler rest ih =>
    rcases handlersOf_cons_eq_ok.1 h with ⟨fact, more, extracted, -, others, rfl⟩
    exact .cons extracted (ih others)

/-- The facts of a unit, given those of its handlers and its layouts. -/
theorem ofUnit_eq_ok {u : ProgramUnit} {facts : FactBase} :
    ofUnit u = .ok facts ↔
      ∃ handlers structs, handlersOf u u.handlers = .ok handlers ∧
        u.structs.mapM StructDecl.fact = .ok structs ∧
        facts =
          { unit := u.name, file := u.file, handlers
            structs := Assoc.ofPairs (structs.map fun struct => (struct.name, struct))
            sizeGroups := groupsOf structs
            diagnostics := (u.handlers.zip handlers).flatMap fun (handler, facts) =>
              handler.diagnostics u facts } := by
  rw [ofUnit]
  -- Handlers come first: if one fails, the layouts are not looked at.
  cases handlersOf u u.handlers with
  | error issues => simp
  | ok handlers =>
    cases u.structs.mapM StructDecl.fact with
    | error excess => simp
    | ok structs => simp [eq_comm]

/-- The facts of a handler are made of one of the handlers of the unit. -/
theorem exists_handler_of_mem {u : ProgramUnit} {facts : FactBase} (made : ofUnit u = .ok facts)
    {found : HandlerFacts} (inside : found ∈ facts.handlers) :
    ∃ handler ∈ u.handlers, handler.facts u = .ok found := by
  rcases ofUnit_eq_ok.1 made with ⟨handlers, structs, extracted, -, rfl⟩
  exact exists_left_of_forall₂ (forall₂_of_handlersOf extracted) inside

/-- The facts of a handler are found by computing them. -/
theorem exists_handler_of_any {u : ProgramUnit} {p : FactBase → HandlerFacts → Prop}
    [∀ facts, DecidablePred (p facts)]
    (holds : ((ofUnit u).toOption.any fun facts =>
      facts.handlers.any fun handler => decide (p facts handler)) = true) :
    ∃ facts handler, ofUnit u = .ok facts ∧ handler ∈ facts.handlers ∧ p facts handler := by
  cases made : ofUnit u with
  | error failure => rw [made] at holds; cases holds
  | ok facts =>
    rw [made] at holds
    rcases List.any_eq_true.1 holds with ⟨handler, inside, holds⟩
    exact ⟨facts, handler, rfl, inside, of_decide_eq_true holds⟩

end FactBase

end AccountAudit
