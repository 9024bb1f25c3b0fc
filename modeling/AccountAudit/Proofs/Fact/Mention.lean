import AccountAudit.Proofs.Expr.Accounting
import AccountAudit.Proofs.Fact.Diagnostic
import AccountAudit.Proofs.Fact.Resolution
import AccountAudit.Proofs.Text.Split

/-!
# References to mentioned accounts

The facts about a condition refer to the accounts that it mentions: rules ask these references which
guard is about which account. A mention that lies outside string literals gets lost in two ways only
(`Expr.Overlooks`). The name of a called function is no path, so no reference is made of the account on
which a method with arguments is called. And a text can be cut in a string literal, at `..` in an index
or where a quote stands behind a backslash, which puts what stands between two literals into quotes;
such a text is not understood. In an attribute, what stands behind the condition is a remark and not
looked at, unless the attribute is not understood.
-/

namespace AccountAudit

/-! ## What references are missing -/

/-- The ways in which a mention of an account in the text `raw` of an expression is overlooked, where
`after` is what follows the mention. -/
inductive Expr.Overlooks (e : Expr) (raw name after : List Char) : Prop where
  /-- A function is called by a name in which the account is mentioned. -/
  | function (called : IsCalled after) (through : e.CallsThrough name)
  /-- The text is not plain, is not understood, and has the account in a string literal. -/
  | literal (odd : ¬ Plain raw) (unclear : e.hasUnknown = true) (quotes : e.Quotes name)

namespace HandlerFacts

/-- Each mention of an account outside string literals is referred to, or it is known why not. Checks
refer to no other accounts than those whose names are among the words of their conditions. -/
structure KeepsMentions (handler : Handler) (found : HandlerFacts) : Prop where
  words : ∀ check ∈ found.checks, ∀ {i : Nat} {name : String},
    handler.accountNames[i]? = some name → (i ∈ check.refs ↔ name ∈ check.condition.words)
  checks : ∀ {seq i : Nat} {span : Span} {condition : Expr} {s name : String}
    {before after : List Char},
    handler.body[seq]? = some ⟨span, .check condition⟩ → Expr.parse s = .ok condition →
    handler.accountNames[i]? = some name → Expr.IsAccountName name.toList →
    Expr.MentionedAt name.toList s.toList before after → Expr.IsClosed before →
    ∃ check ∈ found.checks, check.seq = seq ∧
      (i ∈ check.refs ∨ condition.Overlooks s.toList name.toList after)
  attributes : ∀ {j k i : Nat} {account : Account} {kind s name : String}
    {before after : List Char},
    handler.params[j]? = some account → account.attributes[k]? = some (kind, .text s) →
    kind ∉ Resolved.referenceKinds →
    handler.accountNames[i]? = some name → Expr.IsAccountName name.toList →
    Expr.MentionedAt name.toList s.toList before after → Expr.IsClosed before →
    ∃ fact value, found.accounts[j]? = some fact ∧ fact.attributes[k]? = some (kind, value) ∧
      (i ∈ value.refs ∨ value.isUnknown = false ∧
        ((Resolved.beforeRemark s).toList <+: before ∨
          ∃ e ∈ value.exprs, Expr.IsCalled after ∧ e.CallsThrough name.toList))

end HandlerFacts

/-! ## Conditions -/

namespace Expr

variable {e : Expr} {s name : String} {before after : List Char}

theorem unknownWords_of_known (known : e.hasUnknown = false) : e.unknownWords = [] := by
  have none : e.walk.filter (·.kind == .unknown) = [] := by
    rw [hasUnknown, List.any_eq_false] at known
    exact List.filter_eq_nil_iff.2 known
  rw [unknownWords, unknownTexts, none]
  rfl

/-- A mention outside string literals is among the words of an expression, or it is overlooked. -/
theorem mem_words_or_overlooks (parsed : parse s = .ok e) (isName : IsAccountName name.toList)
    (mention : MentionedAt name.toList s.toList before after) (outside : IsClosed before) :
    name ∈ e.words ∨ e.Overlooks s.toList name.toList after := by
  cases accounts_of_parseChars parsed isName mention with
  | word found => exact .inl (by simpa using found)
  | function called through => exact .inr (.function called through)
  | quoted quotes inside =>
    have illegible : ¬ Legible s.toList e := fun legible => inside legible outside
    rw [Legible, not_or, Bool.not_eq_false] at illegible
    exact .inr (.literal illegible.1 illegible.2 quotes)

end Expr

namespace Resolved

variable {s name : String} {before after : List Char}

/-- A mention in an attribute lies in its condition or in the remark. -/
theorem mention_beforeRemark (isName : Expr.IsAccountName name.toList)
    (mention : Expr.MentionedAt name.toList s.toList before after) :
    (beforeRemark s).toList <+: before ∨ ∃ more rest, after = more ++ rest ∧
      Expr.MentionedAt name.toList (beforeRemark s).toList before more := by
  have cut : ∃ rest, s.toList = (beforeRemark s).toList ++ rest ∧ Expr.Breaks rest := by
    rw [beforeRemark, String.toList_ofList]
    rcases Text.before_cases [' ', '@', ' '] s.toList with whole | ⟨rest, whole⟩
    · exact ⟨[], by simpa using whole, .inl rfl⟩
    · exact ⟨_, whole, Expr.breaks_of_mark (by decide)⟩
  rcases cut with ⟨rest, whole, apart⟩
  rw [whole] at mention
  rcases mention.in_piece apart isName with ⟨more, rfl, found⟩ | ⟨b, rfl, -⟩
  · exact .inr ⟨more, rest, rfl, found⟩
  · exact .inl (List.prefix_append _ b)

/-- A mention in an attribute that states a condition is referred to, unless it lies in the remark or in
the name of a called function. -/
theorem mem_refs_of_mention {names : List String} {kind : String} {value : Resolved} {i : Nat}
    (said : ofAttribute names kind (.text s) = .ok value) (noReference : kind ∉ referenceKinds)
    (placed : names[i]? = some name) (isName : Expr.IsAccountName name.toList)
    (mention : Expr.MentionedAt name.toList s.toList before after) (outside : Expr.IsClosed before) :
    i ∈ value.refs ∨ value.isUnknown = false ∧
      ((beforeRemark s).toList <+: before ∨
        ∃ e ∈ value.exprs, Expr.IsCalled after ∧ e.CallsThrough name.toList) := by
  rcases settles_of_ofAttribute said with means | ⟨-, reason, rfl⟩
  · cases means with
    | flag _ given => cases given
    | reference refers => exact absurd refers noReference
    | condition _ _ _ stated =>
      have single : List.Forall₂ States [.text s] _ := stated
      rcases List.forall₂_cons_left_iff.1 single with ⟨e, _, ⟨read, known⟩, none, rfl⟩
      obtain rfl := List.forall₂_nil_left_iff.1 none
      have parsed : Expr.parse (beforeRemark s) = .ok e := readText_eq_ok.1 read
      rcases mention_beforeRemark isName mention with remark | ⟨more, rest, rfl, found⟩
      · exact .inr ⟨rfl, .inl remark⟩
      · rcases Expr.mem_words_or_overlooks parsed isName found outside with word | overlooked
        · -- Nothing is unknown in the expression, so its words are the roots of its paths.
          rw [Expr.words, Expr.unknownWords_of_known known] at word
          exact .inl (mem_mentioned.2 ⟨name, placed, by simpa using word⟩)
        · cases overlooked with
          | function called through =>
            exact .inr ⟨rfl, .inr ⟨e, List.mem_singleton.2 rfl, called.append rest, through⟩⟩
          | literal _ unclear _ => exact absurd unclear (by simp [known])
  · -- Every word of the text counts, also those of the remark.
    have word := Expr.mem_identifiersOf_of_mentionedAt isName mention
    rw [String.ofList_toList] at word
    exact .inl (mem_mentioned.2 ⟨name, placed, word⟩)

end Resolved

/-! ## Handlers -/

namespace Handler

variable {u : ProgramUnit} {handler : Handler} {facts : HandlerFacts}

/-- Each check of the body has its fact. -/
theorem mem_checks_of_body (made : handler.facts u = .ok facts) {seq : Nat} {span : Span}
    {condition : Expr} (here : handler.body[seq]? = some ⟨span, .check condition⟩) :
    CheckFact.ofCondition handler.accountNames seq (u.location span) condition ∈ facts.checks := by
  rcases facts_eq_ok.1 made with ⟨accounts, -, rfl⟩
  exact List.mem_filterMap.2 ⟨(⟨span, .check condition⟩, seq),
    List.mem_zipIdx_iff_getElem?.2 here, rfl⟩

/-- A check refers to the accounts whose names are among the words of its condition. -/
theorem mem_refs_iff (made : handler.facts u = .ok facts) {check : CheckFact}
    (member : check ∈ facts.checks) {i : Nat} {name : String}
    (placed : handler.accountNames[i]? = some name) :
    i ∈ check.refs ↔ name ∈ check.condition.words := by
  rcases facts_eq_ok.1 made with ⟨accounts, -, rfl⟩
  rcases List.mem_filterMap.1 member with ⟨⟨⟨span, action⟩, seq⟩, -, read⟩
  cases action with
  | check condition =>
    obtain rfl := Option.some.inj read
    have among : i ∈ mentioned handler.accountNames condition.words ↔ name ∈ condition.words := by
      simp [mem_mentioned, placed]
    exact among
  | _ => cases read

/-- Each attribute of an account is resolved where it stands. -/
theorem exists_attribute (made : handler.facts u = .ok facts) {j k : Nat} {account : Account}
    {kind : String} {raw : Value} (declared : handler.params[j]? = some account)
    (here : account.attributes[k]? = some (kind, raw)) :
    ∃ fact value, facts.accounts[j]? = some fact ∧ fact.attributes[k]? = some (kind, value) ∧
      Resolved.ofAttribute handler.accountNames kind raw = .ok value := by
  rcases exists_right_of_rel (rel_accounts made j) declared with ⟨fact, found, extracted⟩
  obtain ⟨attributes, resolved, rfl⟩ := AccountFact.ofAccount_eq_ok.1 extracted
  rcases exists_right_of_rel (rel_getElem? (AccountFact.forall₂_of_attributes? resolved) k) here with
    ⟨⟨kind', value⟩, place, same, said⟩
  obtain rfl : kind' = kind := same
  exact ⟨_, value, found, place, said⟩

theorem keepsMentions_of_facts (made : handler.facts u = .ok facts) :
    facts.KeepsMentions handler where
  words _ member := mem_refs_iff made member
  checks {seq i span condition s name before after} here parsed placed isName mention outside := by
    refine ⟨_, mem_checks_of_body made here, rfl, ?_⟩
    exact (Expr.mem_words_or_overlooks parsed isName mention outside).imp_left
      (mem_refs_iff made (mem_checks_of_body made here) placed).2
  attributes declared here noReference placed isName mention outside := by
    rcases exists_attribute made declared here with ⟨fact, value, found, place, said⟩
    exact ⟨fact, value, found, place,
      Resolved.mem_refs_of_mention said noReference placed isName mention outside⟩

end Handler

namespace FactBase

/-- **Mentions.** In checks and in conditions of attributes that are written as text, each mention of an
account outside string literals is referred to, except for the ways in which mentions are overlooked
and, in attributes, for remarks. -/
theorem keepsMentions_of_ofUnit {u : ProgramUnit} {facts : FactBase} (made : ofUnit u = .ok facts) :
    List.Forall₂ (fun handler found => found.KeepsMentions handler) u.handlers facts.handlers := by
  rcases ofUnit_eq_ok.1 made with ⟨handlers, structs, extracted, -, rfl⟩
  exact (forall₂_of_handlersOf extracted).imp fun _ _ => Handler.keepsMentions_of_facts

/-! ### Conditions on a vault -/

theorem isAccountName_vault : Expr.IsAccountName "vault".toList :=
  ⟨⟨'v', _, rfl, by decide⟩, List.all_eq_true.1 (by decide), by decide⟩

/-- `vault` is mentioned at the start of a text if no word or name goes on behind it. -/
theorem mentionedAt_vault {way after : List Char} (known : way = [] ∨ way = Expr.contextWay)
    (behind : Expr.AfterFirst after) :
    Expr.MentionedAt "vault".toList (way ++ "vault".toList ++ after) [] after :=
  ⟨⟨way, known, rfl⟩, ⟨by simp, by simp, by simp⟩, behind⟩

/-- `ctx.accounts.vault.owner == amount` -/
def ownedVault : Expr :=
  .ofBinary "==" (.ofPath "ctx.accounts.vault.owner") (.ofPath "amount")

/-- The owner of the vault is compared in an attribute and in a check. -/
def ownedPayroll : ProgramUnit :=
  payroll [("constraint", .text "vault.owner == amount @ Wrong")] [.check ownedVault]

/-- A check and an attribute in which the vault is mentioned refer to it. -/
theorem keepsMentions_of_ofUnit_ownedPayroll :
    ∃ facts found check fact value, ofUnit ownedPayroll = .ok facts ∧ facts.handlers = [found] ∧
      check ∈ found.checks ∧ 0 ∈ check.refs ∧ found.accounts[0]? = some fact ∧
      fact.attributes[0]? = some ("constraint", value) ∧ 0 ∈ value.refs := by
  have read : Expr.parse "ctx.accounts.vault.owner == amount" = .ok ownedVault := by decide +kernel
  have ready : (ofUnit ownedPayroll).isOk = true := by decide +kernel
  have behind : Expr.AfterFirst ".owner == amount".toList :=
    ⟨by simp; decide, by decide, by decide, by decide⟩
  have behind' : Expr.AfterFirst ".owner == amount @ Wrong".toList :=
    ⟨by simp; decide, by decide, by decide, by decide⟩
  cases made : ofUnit ownedPayroll with
  | error failure =>
    rw [made] at ready
    cases ready
  | ok facts =>
    have all := keepsMentions_of_ofUnit made
    rcases List.forall₂_cons_left_iff.1 all with ⟨found, others, keeps, none, only⟩
    obtain rfl := List.forall₂_nil_left_iff.1 none
    have placed : ownedPayroll.handlers[0].body[0]? = some ⟨.ofLength 2 1, .check ownedVault⟩ := rfl
    rcases keeps.checks placed read (i := 0) rfl isAccountName_vault
      (mentionedAt_vault (.inr rfl) behind) Expr.isClosed_nil with ⟨check, member, -, known⟩
    rcases keeps.attributes (j := 0) (k := 0) (i := 0) rfl rfl (by decide) rfl isAccountName_vault
      (mentionedAt_vault (.inl rfl) behind') Expr.isClosed_nil with
      ⟨fact, value, here, place, known'⟩
    refine ⟨facts, found, check, fact, value, rfl, only, member, ?_, here, place, ?_⟩
    · refine known.resolve_right ?_
      rintro (⟨called, -⟩ | ⟨-, unclear, -⟩)
      · exact absurd called.mem (by decide)
      · exact absurd unclear (by decide)
    · refine known'.resolve_right ?_
      rintro ⟨-, remark | ⟨_, -, called, -⟩⟩
      · exact absurd remark (by decide)
      · exact absurd called.mem (by decide)

/-- `vault.is_valid(amount)` -/
def validVault : Expr :=
  .ofCall "vault.is_valid" [.ofPath "amount"]

/-- A check that calls a method of the vault with an argument mentions the vault and does not refer to
it. -/
theorem validVault_mentioned_without_reference :
    ∃ facts found check, ofUnit (payroll [] [.check validVault]) = .ok facts ∧
      facts.handlers = [found] ∧ found.checks = [check] ∧ check.condition = validVault ∧
      check.refs = [] ∧ found.accounts.map AccountFact.name = ["vault"] ∧
      Expr.parse "vault.is_valid(amount)" = .ok validVault ∧ Expr.IsAccountName "vault".toList ∧
      Expr.MentionedAt "vault".toList "vault.is_valid(amount)".toList [] ".is_valid(amount)".toList ∧
      Expr.IsClosed [] := by
  have read : Expr.parse "vault.is_valid(amount)" = .ok validVault := by decide +kernel
  have behind : Expr.AfterFirst ".is_valid(amount)".toList :=
    ⟨by simp; decide, by decide, by decide, by decide⟩
  exact ⟨_, _, _, rfl, rfl, rfl, rfl, rfl, rfl, read, isAccountName_vault,
    mentionedAt_vault (.inl rfl) behind, Expr.isClosed_nil⟩

end FactBase

end AccountAudit
