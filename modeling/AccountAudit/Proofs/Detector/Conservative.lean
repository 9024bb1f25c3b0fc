import AccountAudit.Detector.Builtin
import AccountAudit.Proofs.Detector.Pair
import AccountAudit.Proofs.Fact.Diagnostic
import AccountAudit.Proofs.Fact.Resolution
import Mathlib.Data.List.Nodup

/-!
# Silence about what was not understood

An attribute or a check that was not understood may be a guard of every account that its text
mentions (`Handler.Obscures`). Five of the detectors report a missing guard, and these accuse no such
account (`Detector.silent_of_obscures`).

The argument has two halves. What obscures an account reaches its facts, however it was read
(`possiblyGuarded_of_obscures`); and on each way to a finding a detector asks whether the accounts
that the finding accuses may be guarded (`AccusesExposed`).
-/

namespace AccountAudit

/-! ## What may guard an account -/

/-- Something in the handler that was not understood may guard the account of a name: it is an
attribute of the account, or an attribute of some account or a part of a check with the name among
its words. -/
inductive Handler.Obscures (handler : Handler) (name : String) : Prop where
  | own {account : Account} (inside : account ∈ handler.params) (named : account.name = name)
      (unclear : account.hasUnresolved handler.accountNames = true)
  | inAttribute {account : Account} {kind : String} {raw : Value} (inside : account ∈ handler.params)
      (given : (kind, raw) ∈ account.attributes)
      (unclear : Resolved.isUnresolved handler.accountNames kind raw = true)
      (word : name ∈ Text.identifiersOf raw.plain)
  | inCheck {node : BodyNode} {condition part : Expr} (inside : node ∈ handler.body)
      (checks : node.action = .check condition) (within : part ∈ condition.walk)
      (unclear : part.kind = .unknown) (word : name ∈ Text.identifiersOf part.head.raw)

theorem Expr.mem_unknownWords {e part : Expr} {word : String} (within : part ∈ e.walk)
    (unclear : part.kind = .unknown) (inside : word ∈ Text.identifiersOf part.head.raw) :
    word ∈ e.unknownWords := by
  refine List.mem_flatMap.2 ⟨part.head.raw, ?_, inside⟩
  exact List.mem_map.2 ⟨part, List.mem_filter.2 ⟨within, by simp [unclear]⟩, rfl⟩

/-- What an attribute that was not understood says. -/
theorem Resolved.exists_unresolved {names : List String} {kind : String} {raw : Value}
    {value : Resolved} (said : ofAttribute names kind raw = .ok value)
    (unclear : value.isUnknown = true) :
    ∃ reason, value = .unresolved (mentioned names (Text.identifiersOf raw.plain)) reason := by
  rcases Resolved.settles_of_ofAttribute said with means | ⟨-, found⟩
  · simp [means.isUnknown] at unclear
  · exact found

namespace HandlerFacts

variable {u : ProgramUnit} {h : Handler} {facts : HandlerFacts} {account : AccountFact}

/-- Every account that is declared has facts. -/
theorem exists_account (extracted : h.facts u = .ok facts) {declared : Account}
    (inside : declared ∈ h.params) :
    ∃ fact ∈ facts.accounts, ∃ index, AccountFact.ofAccount u h index declared = .ok fact := by
  rcases List.getElem?_of_mem inside with ⟨index, here⟩
  rcases exists_right_of_rel (Handler.rel_accounts extracted index) here with ⟨fact, found, made⟩
  exact ⟨fact, List.mem_of_getElem? found, index, made⟩

/-- An account is mentioned by words that contain its name. -/
theorem mem_mentioned_of_name (extracted : h.facts u = .ok facts) (inside : account ∈ facts.accounts)
    {words : List String} (word : account.name ∈ words) :
    account.index ∈ mentioned h.accountNames words :=
  mem_mentioned.2 ⟨account.name, Handler.getElem?_accountNames extracted inside, word⟩

/-- What may guard an account is known to the facts. -/
theorem possiblyGuarded_of_obscures (extracted : h.facts u = .ok facts)
    (obscures : h.Obscures account.name) (inside : account ∈ facts.accounts) :
    facts.possiblyGuarded account = true := by
  rw [possiblyGuarded, Bool.or_eq_true, Bool.or_eq_true]
  -- One case for each of the three places that are asked.
  cases obscures with
  | @own declared present named unclear =>
    rcases exists_account extracted present with ⟨fact, found, index, made⟩
    have unknown := AccountFact.any_isUnknown made
    obtain ⟨attributes, -, rfl⟩ := AccountFact.ofAccount_eq_ok.1 made
    obtain rfl := Handler.eq_of_name extracted found inside named
    rw [unclear, List.any_eq_true] at unknown
    rcases unknown with ⟨said, member, unknown⟩
    refine .inl (.inl ?_)
    rw [Bool.not_eq_true', List.isEmpty_eq_false_iff_exists_mem]
    exact ⟨said.1, List.mem_map_of_mem (List.mem_filter.2 ⟨member, unknown⟩)⟩
  | @inAttribute declared kind raw present given unclear word =>
    rcases exists_account extracted present with ⟨fact, found, index, made⟩
    obtain ⟨attributes, resolved, rfl⟩ := AccountFact.ofAccount_eq_ok.1 made
    rcases exists_right_of_forall₂ (AccountFact.forall₂_of_attributes? resolved) given with
      ⟨said, member, -, value⟩
    have unknown : said.2.isUnknown = true := by
      rw [Resolved.isUnknown_of_ofAttribute value, unclear]
    obtain ⟨reason, same⟩ := Resolved.exists_unresolved value unknown
    have refers : said.2.refs.contains account.index = true := by
      rw [same]
      exact List.contains_iff_mem.2 (mem_mentioned_of_name extracted inside word)
    refine .inl (.inr (List.any_eq_true.2 ⟨_, found, List.any_eq_true.2 ⟨said, member, ?_⟩⟩))
    exact Bool.and_eq_true_iff.2 ⟨unknown, refers⟩
  | @inCheck node condition part present checks within unclear word =>
    rcases List.getElem?_of_mem present with ⟨seq, here⟩
    have placed : (node, seq) ∈ h.placed := List.mem_zipIdx_iff_getElem?.2 here
    rcases node with ⟨span, action⟩
    obtain rfl := checks
    have member : CheckFact.ofCondition h.accountNames seq (u.location span) condition ∈
        facts.checks := by
      rcases Handler.facts_eq_ok.1 extracted with ⟨accounts, -, rfl⟩
      exact List.mem_filterMap.2 ⟨_, placed, rfl⟩
    have unknown : condition.hasUnknown = true :=
      List.any_eq_true.2 ⟨part, within, by simp [unclear]⟩
    have words : account.name ∈ condition.paths.map Expr.root ++ condition.unknownWords :=
      List.mem_append_right _ (Expr.mem_unknownWords within unclear word)
    refine .inr (List.any_eq_true.2 ⟨_, member, ?_⟩)
    rw [Bool.and_eq_true]
    exact ⟨unknown, List.contains_iff_mem.2 (mem_mentioned_of_name extracted inside words)⟩

end HandlerFacts

/-! ## Accusations -/

namespace Finding

/-- The items of a list in the finding's metadata. -/
def listed (f : Finding) (key : String) : List Value :=
  match f.metadata.lookup key with
  | some (.list items) => items
  | _ => []

/-- The finding names the handler and the account. -/
structure IsAbout (handler : HandlerFacts) (account : AccountFact) (f : Finding) : Prop where
  handler : f.handler = handler.name
  param : f.metadata.lookup "param" = some (.text account.name)

/-- The names of the accounts that a finding accuses: the one that it is about, those that it lists,
and those of the pairs that it lists as uncovered. -/
def accused (f : Finding) : List Value :=
  (f.metadata.lookup "param").toList ++ f.listed "accounts" ++ f.uncoveredPairs.flatMap Resolved.items

end Finding

/-- The findings about a handler accuse accounts of it that nothing may guard unseen. -/
def AccusesExposed (scan : FactBase → HandlerFacts → List Finding) : Prop :=
  ∀ facts handler, ∀ f ∈ scan facts handler, f.handler = handler.name ∧
    ∀ name, .text name ∈ f.accused →
      ∃ account ∈ handler.accounts, account.name = name ∧ handler.possiblyGuarded account = false

/-- The finding is about one account, which nothing may guard unseen. -/
structure AccusesOnly (handler : HandlerFacts) (account : AccountFact) (f : Finding) : Prop where
  about : f.handler = handler.name
  accused : f.accused = [.text account.name]
  exposed : handler.possiblyGuarded account = false

theorem accusesExposed_of_only {scan : FactBase → HandlerFacts → List Finding}
    (only : ∀ facts handler, ∀ f ∈ scan facts handler,
      ∃ account ∈ handler.accounts, AccusesOnly handler account f) : AccusesExposed scan := by
  intro facts handler f member
  rcases only facts handler f member with ⟨account, inside, only⟩
  refine ⟨only.about, fun name blamed => ⟨account, inside, ?_, only.exposed⟩⟩
  simpa [only.accused, eq_comm] using blamed

/-! ### One lemma for each detector -/

theorem SignerAuthorization.accusesExposed : AccusesExposed scan := by
  refine accusesExposed_of_only fun facts handler f member => ?_
  rcases List.mem_map.1 member with ⟨account, chosen, rfl⟩
  rcases List.mem_filter.1 chosen with ⟨inside, reported⟩
  rw [reports, Bool.and_eq_true, Bool.not_eq_true'] at reported
  exact ⟨account, inside, rfl, rfl, reported.2⟩

theorem OwnerProgram.accusesExposed : AccusesExposed fun _ => scan := by
  refine accusesExposed_of_only fun facts handler f member => ?_
  rcases List.mem_map.1 member with ⟨account, chosen, rfl⟩
  rcases List.mem_filter.1 chosen with ⟨inside, reported⟩
  rw [reports, Bool.and_eq_true, Bool.not_eq_true'] at reported
  exact ⟨account, inside, rfl, rfl, reported.2⟩

namespace Reinitialization

variable {handler : HandlerFacts} {account : AccountFact} {f : Finding}

theorem exposed_of_unchecked (h : flagMayBeChecked handler account = false) :
    handler.possiblyGuarded account = false := by
  rw [flagMayBeChecked, Bool.or_eq_false_iff] at h
  exact h.2

theorem accusesOnly_ifNeeded (h : ifNeededFinding? handler account = some f) :
    AccusesOnly handler account f := by
  unfold ifNeededFinding? at h
  split at h
  · cases h
  · rename_i unchecked
    obtain rfl := Option.some.inj h
    exact ⟨rfl, rfl, exposed_of_unchecked (Bool.not_eq_true _ ▸ unchecked)⟩

theorem accusesOnly_singleton (h : singletonFinding? handler account = some f) :
    AccusesOnly handler account f := by
  unfold singletonFinding? at h
  split at h
  · rename_i holds
    rw [Bool.and_eq_true, Bool.and_eq_true, Bool.not_eq_true'] at holds
    obtain rfl := Option.some.inj h
    exact ⟨rfl, rfl, holds.1.2⟩
  · cases h

theorem accusesOnly_rewrite {location : Location}
    (h : rewriteFinding? handler account location = some f) : AccusesOnly handler account f := by
  unfold rewriteFinding? at h
  split at h
  · rename_i holds
    rw [Bool.and_eq_true, Bool.not_eq_true'] at holds
    obtain rfl := Option.some.inj h
    exact ⟨rfl, rfl, exposed_of_unchecked holds.2⟩
  · cases h

/-- Whatever pattern a finding is about, it accuses one account of the handler. -/
theorem exists_accusesOnly (member : f ∈ scan handler) :
    ∃ account ∈ handler.accounts, AccusesOnly handler account f := by
  rcases List.mem_append.1 member with created | rewritten
  · rcases List.mem_filterMap.1 created with ⟨account, inside, found⟩
    refine ⟨account, inside, ?_⟩
    unfold creationFinding? at found
    split at found
    · exact accusesOnly_ifNeeded found
    · split at found
      · exact accusesOnly_singleton found
      · cases found
  · unfold rewriteFindings at rewritten
    split at rewritten
    · rcases List.mem_filterMap.1 rewritten with ⟨⟨index, location⟩, -, found⟩
      rcases Option.bind_eq_some_iff.1 found with ⟨account, here, found⟩
      exact ⟨account, List.mem_of_getElem? here, accusesOnly_rewrite found⟩
    · cases rewritten

theorem accusesExposed : AccusesExposed fun _ => scan :=
  accusesExposed_of_only fun _ _ _ => exists_accusesOnly

end Reinitialization

namespace TypeConfusion

theorem accused_finding (handler : HandlerFacts) (call : CallFact) (struct : String)
    (collisions : List String) :
    (finding handler call struct collisions).accused =
      (Text.distinctSorted ((accountsOf handler call).map AccountFact.name)).map .text := by
  have pairs : (finding handler call struct collisions).accused =
      (Text.distinctSorted ((accountsOf handler call).map AccountFact.name)).map .text ++ [] := rfl
  rw [pairs, List.append_nil]

theorem accusesExposed : AccusesExposed scan := by
  intro facts handler f member
  rcases List.mem_filterMap.1 member with ⟨call, -, found⟩
  unfold callFinding? at found
  dsimp only at found
  split at found
  · cases found
  · rename_i open'
    obtain rfl := Option.some.inj found
    refine ⟨rfl, fun name blamed => ?_⟩
    rw [accused_finding] at blamed
    have inside : name ∈ Text.distinctSorted ((accountsOf handler call).map AccountFact.name) := by
      simpa using blamed
    rcases List.mem_map.1 (Text.mem_distinctSorted.1 inside) with ⟨account, refers, rfl⟩
    rcases List.mem_filterMap.1 refers with ⟨index, -, here⟩
    refine ⟨account, List.mem_of_getElem? here, rfl, ?_⟩
    -- Had one of the accounts been guarded, there would be no finding.
    by_contra guarded
    rw [Bool.not_eq_false] at guarded
    refine open' ?_
    rw [Bool.or_eq_true]
    exact .inr (List.any_eq_true.2 ⟨account, refers, guarded⟩)

end TypeConfusion

namespace DuplicateAccounts

theorem accused_finding (handler : HandlerFacts) (first : AccountFact) (names : List String)
    (bare : List (AccountFact × AccountFact)) :
    (finding handler first names bare).accused =
      bare.flatMap fun (a, b) => [.text a.name, .text b.name] := by
  have pairs : (finding handler first names bare).accused =
      (finding handler first names bare).uncoveredPairs.flatMap Resolved.items := rfl
  rw [pairs, uncoveredPairs_finding, List.flatMap_map]
  rfl

theorem accusesExposed : AccusesExposed fun _ => scan := by
  intro facts handler f member
  rcases mem_scan_iff.1 member with ⟨first, rest, inside, -, rfl⟩
  refine ⟨rfl, fun name blamed => ?_⟩
  rw [accused_finding] at blamed
  rcases List.mem_flatMap.1 blamed with ⟨⟨a, b⟩, bare, named⟩
  have confusable := confusable_of_uncovered inside bare
  have exposed := confusable.bare
  rw [areDistinct, Bool.or_eq_false_iff, Bool.or_eq_false_iff] at exposed
  simp only [List.mem_cons, List.not_mem_nil, or_false, Value.scalar.injEq, Scalar.text.injEq] at named
  rcases named with rfl | rfl
  · exact ⟨a, confusable.first, rfl, exposed.1.1⟩
  · exact ⟨b, confusable.second, rfl, exposed.1.2⟩

end DuplicateAccounts

/-! ## Units -/

namespace Detector

/-- The detectors that report that an account is not guarded. -/
def conservative : List Detector :=
  [SignerAuthorization.detector, OwnerProgram.detector, Reinitialization.detector,
    TypeConfusion.detector, DuplicateAccounts.detector]

theorem exists_scan_of_mem_conservative {d : Detector} (listed : d ∈ conservative) :
    ∃ scan, d = .ofHandlers d.info scan ∧ AccusesExposed scan := by
  simp only [conservative, List.mem_cons, List.not_mem_nil, or_false] at listed
  rcases listed with rfl | rfl | rfl | rfl | rfl
  · exact ⟨_, rfl, SignerAuthorization.accusesExposed⟩
  · exact ⟨_, rfl, OwnerProgram.accusesExposed⟩
  · exact ⟨_, rfl, Reinitialization.accusesExposed⟩
  · exact ⟨_, rfl, TypeConfusion.accusesExposed⟩
  · exact ⟨_, rfl, DuplicateAccounts.accusesExposed⟩

variable {u : ProgramUnit} {facts : FactBase} {handler : Handler}

/-- The facts of a handler are those with its name. -/
theorem facts_of_name (made : FactBase.ofUnit u = .ok facts) (inside : handler ∈ u.handlers)
    {found : HandlerFacts} (member : found ∈ facts.handlers) (named : found.name = handler.name) :
    handler.facts u = .ok found := by
  rcases FactBase.ofUnit_eq_ok.1 made with ⟨handlers, structs, extracted, -, rfl⟩
  rcases exists_left_of_forall₂ (FactBase.forall₂_of_handlersOf extracted) member with
    ⟨handler', inside', made'⟩
  have name : found.name = handler'.name := by
    rcases Handler.facts_eq_ok.1 made' with ⟨accounts, -, rfl⟩
    rfl
  -- The handlers of a unit have different names.
  have same : handler' = handler :=
    List.inj_on_of_nodup_map u.handlers_distinct inside' inside (name.symm.trans named)
  exact same ▸ made'

/-- A name tells the facts of a handler from those of the others. -/
theorem eq_of_handlerName (made : FactBase.ofUnit u = .ok facts) {found other : HandlerFacts}
    (member : found ∈ facts.handlers) (member' : other ∈ facts.handlers)
    (named : other.name = found.name) : other = found := by
  rcases FactBase.exists_handler_of_mem made member with ⟨handler, inside, extracted⟩
  have again := facts_of_name made inside member' (named.trans (Handler.name_of_facts extracted))
  exact Except.ok.inj (again.symm.trans extracted)

/-- Where findings about accounts name their handlers and accounts, a detector accuses an account of
something exactly if it makes a finding about it. -/
theorem forall_not_accuses_iff {info : DetectorInfo} {scan : FactBase → HandlerFacts → List Finding}
    {report? : HandlerFacts → AccountFact → Option Finding} {Accuses : Finding → Prop}
    (made : FactBase.ofUnit u = .ok facts) {found : HandlerFacts} (member : found ∈ facts.handlers)
    {account : AccountFact} (within : account ∈ found.accounts)
    (about : ∀ other account' f, report? other account' = some f → f.IsAbout other account')
    (accused : ∀ f, Accuses f → f.IsAbout found account)
    (accuses : ∀ f, report? found account = some f → f ∈ scan facts found ∧ Accuses f)
    (source : ∀ other, ∀ f ∈ scan facts other, Accuses f →
      ∃ account' ∈ other.accounts, report? other account' = some f) :
    (∃ findings, (Detector.ofHandlers info scan).detect u facts = .ok findings ∧
        ∀ f ∈ findings, ¬ Accuses f) ↔
      report? found account = none := by
  constructor
  · rintro ⟨findings, detected, silent⟩
    obtain rfl := Except.ok.inj detected
    cases report : report? found account with
    | none => rfl
    | some f =>
      rcases accuses f report with ⟨listed, blamed⟩
      exact absurd blamed (silent f (List.mem_flatMap.2 ⟨found, member, listed⟩))
  · intro none
    refine ⟨_, rfl, fun f listed blamed => ?_⟩
    rcases List.mem_flatMap.1 listed with ⟨other, member', listed⟩
    rcases source other f listed blamed with ⟨account', within', report⟩
    have isAbout := accused f blamed
    have isAbout' := about other account' f report
    -- The finding is about this handler, and so about this account.
    rcases FactBase.exists_handler_of_mem made member with ⟨handler, -, extracted⟩
    obtain rfl := eq_of_handlerName made member member' (isAbout'.handler.symm.trans isAbout.handler)
    have param := isAbout'.param.symm.trans isAbout.param
    simp only [Option.some.injEq, Value.text, Value.scalar.injEq, Scalar.text.injEq] at param
    obtain rfl := Handler.eq_of_name extracted within' within param
    rw [none] at report
    cases report

/-- **Unknown constructs.** No finding about a handler accuses an account that something in the
handler may guard that was not understood. -/
theorem silent_of_obscures (made : FactBase.ofUnit u = .ok facts) (inside : handler ∈ u.handlers)
    {name : String} (obscures : handler.Obscures name) {d : Detector} (listed : d ∈ conservative) :
    ∃ findings, d.detect u facts = .ok findings ∧
      ∀ f ∈ findings, f.handler = handler.name → .text name ∉ f.accused := by
  rcases exists_scan_of_mem_conservative listed with ⟨scan, built, exposes⟩
  rw [built]
  refine ⟨_, rfl, fun f member about blamed => ?_⟩
  rcases List.mem_flatMap.1 member with ⟨found, present, reported⟩
  rcases exposes facts found f reported with ⟨named, accused⟩
  have extracted := facts_of_name made inside present (named.symm.trans about)
  rcases accused name blamed with ⟨account, within, rfl, exposed⟩
  have guarded := HandlerFacts.possiblyGuarded_of_obscures extracted obscures within
  rw [exposed] at guarded
  cases guarded

/-! ### A condition that was not understood -/

/-- A handler that takes a privileged account and checks some conditions. -/
def withdraw (conditions : List Expr) : Handler :=
  { name := "withdraw"
    span := .ofLength 0 9
    params := [{ name := "authority", typeTag := "Account<'info, Config>", isMut := true,
                 span := .ofLength 0 1 }]
    body := conditions.map fun condition => ⟨.ofLength 2 1, .check condition⟩
    params_distinct := by simp }

def withdrawal (conditions : List Expr) : ProgramUnit :=
  { name := "withdrawal", file := "withdrawal.json", handlers := [withdraw conditions]
    handlers_distinct := by simp }

/-- The privileged account is accused for want of a signer, and no more if a condition mentions it
that was not understood. -/
theorem silent_of_obscures_withdrawal :
    (∃ facts findings, FactBase.ofUnit (withdrawal []) = .ok facts ∧
      SignerAuthorization.detector.detect (withdrawal []) facts = .ok findings ∧
      findings.map (fun f => (f.handler, f.accused)) = [("withdraw", [.text "authority"])]) ∧
    ∃ facts, FactBase.ofUnit (withdrawal [.ofRaw "authority as u64"]) = .ok facts ∧
      (withdraw [.ofRaw "authority as u64"]).Obscures "authority" ∧
      SignerAuthorization.detector ∈ conservative ∧
      ∃ findings, SignerAuthorization.detector.detect
          (withdrawal [.ofRaw "authority as u64"]) facts = .ok findings ∧
        ∀ f ∈ findings, f.handler = "withdraw" → .text "authority" ∉ f.accused := by
  have word : "authority" ∈ Text.identifiersOf "authority as u64" := by decide
  have obscures : (withdraw [.ofRaw "authority as u64"]).Obscures "authority" :=
    .inCheck (.head _) rfl (Expr.self_mem_walk _) rfl word
  refine ⟨⟨_, _, rfl, rfl, by decide⟩, _, rfl, obscures, .head _, ?_⟩
  exact silent_of_obscures (u := withdrawal [.ofRaw "authority as u64"]) rfl (.head _) obscures
    (.head _)

end Detector

end AccountAudit
