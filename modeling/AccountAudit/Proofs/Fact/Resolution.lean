import AccountAudit.Fact.Resolve
import AccountAudit.Proofs.Expr.Excess

/-!
# What attributes mean

The meaning of an attribute is a relation between its raw value and what it says (`Means`): flags are
set or not, references are lists of account names, conditions are lists of expressions. An attribute
with a meaning is resolved to that meaning and an attribute without one is unresolved, with two
exceptions, at which the extraction of facts ends (`Aborts`): a list of account names in which a long
integer stands, and a value without meaning that cannot be shown.
-/

namespace AccountAudit
namespace Resolved

/-! ## Meanings -/

/-- Without its remark, the text is a path that starts at the account at a position. -/
def Names (names : List String) (s : String) (index : Nat) : Prop :=
  ∃ e, Expr.parse (beforeRemark s) = .ok e ∧ e.kind = .path ∧ names.idxOf? e.root = some index

/-- Without its remark, the value is an expression that was understood. -/
def States (item : Value) (e : Expr) : Prop :=
  Expr.read (withoutRemark item) = .ok e ∧ e.hasUnknown = false

/-- What an attribute of a kind with a raw value means among accounts with these names. -/
inductive Means (names : List String) (kind : String) : Value → Resolved → Prop where
  | flag {raw : Value} {on : Bool} (noReference : kind ∉ referenceKinds)
      (given : flag? raw = some on) : Means names kind raw (.flag on)
  | reference {raw : Value} {texts : List String} {indices : List Nat}
      (refers : kind ∈ referenceKinds) (given : items raw = texts.map Value.text)
      (nonempty : texts ≠ []) (named : List.Forall₂ (Names names) texts indices) :
      Means names kind raw (.reference indices)
  | condition {raw : Value} {exprs : List Expr} (noFlag : kind ∉ flagKinds)
      (noReference : kind ∉ referenceKinds) (noValue : flag? raw = none)
      (stated : List.Forall₂ States (items raw) exprs) :
      Means names kind raw
        (.expression exprs (mentioned names (exprs.flatMap fun e => e.paths.map Expr.root)))

/-- In a list of texts, a long integer stands in one, and those in front of it all name accounts. -/
inductive UnreadableAmong (names : List String) : List String → Prop where
  | here {s : String} {rest : List String}
      (long : Expr.HoldsLongInteger (beforeRemark s).toList) : UnreadableAmong names (s :: rest)
  | later {s : String} {rest : List String} {index : Nat} (named : Names names s index)
      (unreadable : UnreadableAmong names rest) : UnreadableAmong names (s :: rest)

/-- No fact can be made of an attribute. -/
inductive Aborts (names : List String) (kind : String) (raw : Value) : Prop where
  | unreadable {texts : List String} (refers : kind ∈ referenceKinds)
      (given : items raw = texts.map Value.text) (unreadable : UnreadableAmong names texts)
  | unwritable (meaningless : ∀ value, ¬ Means names kind raw value)
      (long : raw.isWritable = false)

/-! ## References -/

theorem readText_eq_ok {s : String} {e : Expr} :
    Expr.readText s = .ok e ↔ Expr.parse s = .ok e := by
  unfold Expr.readText
  cases Expr.parse s <;> simp [Schema.refuse]

theorem exists_readText_iff {s : String} :
    (∃ e, Expr.readText s = .ok e) ↔ ¬ Expr.HoldsLongInteger s.toList := by
  simp only [readText_eq_ok]
  exact Expr.exists_parseChars_iff s.toList

theorem allTexts?_eq_none {v : Value} {rest : List Value} (other : ∀ s, v ≠ .text s) :
    allTexts? (v :: rest) = none := by
  unfold allTexts?
  split
  · contradiction
  · rename_i s _ same
    exact absurd (List.cons.inj same).1 (other s)
  · rfl

theorem allTexts?_eq_some {values : List Value} {texts : List String} :
    allTexts? values = some texts ↔ values = texts.map Value.text := by
  induction values generalizing texts with
  | nil =>
    rw [allTexts?, Option.some.injEq, eq_comm, eq_comm (a := []), List.map_eq_nil_iff]
  | cons v rest ih =>
    by_cases text : ∃ s, v = .text s
    · rcases text with ⟨s, rfl⟩
      cases texts with
      | nil => simp [allTexts?]
      | cons first others =>
        simp only [allTexts?, Option.map_eq_some_iff, ih, List.map_cons, List.cons.injEq]
        constructor
        · rintro ⟨_, given, rfl, rfl⟩
          exact ⟨rfl, given⟩
        · rintro ⟨same, given⟩
          obtain rfl : s = first := by simpa using same
          exact ⟨others, given, rfl, rfl⟩
    · rw [not_exists] at text
      rw [allTexts?_eq_none text]
      refine iff_of_false (by simp) fun given => ?_
      cases texts with
      | nil => cases given
      | cons s others => exact text s (List.cons.inj given).1

/-- The first of some texts names an account, and the others are looked at; or it does not, and the
result is known; or it cannot be read. -/
theorem targets_cons_cases (names : List String) (s : String) (rest : List String) :
    (∃ index, Names names s index ∧
      targets names (s :: rest) = (targets names rest).map fun found => found.map (index :: ·)) ∨
    ((∀ index, ¬ Names names s index) ∧ ¬ Expr.HoldsLongInteger (beforeRemark s).toList ∧
      targets names (s :: rest) = .ok (.error s)) ∨
    (Expr.HoldsLongInteger (beforeRemark s).toList ∧ (∀ index, ¬ Names names s index) ∧
      ∃ issues, targets names (s :: rest) = .error issues) := by
  rw [targets]
  cases read : Expr.readText (beforeRemark s) with
  | error issues =>
    have failed := not_exists_ok read
    refine .inr (.inr ⟨of_not_not (mt exists_readText_iff.2 failed), ?_, issues, rfl⟩)
    rintro index ⟨e, found, -⟩
    exact failed ⟨e, readText_eq_ok.2 found⟩
  | ok e =>
    have parsed := readText_eq_ok.1 read
    cases target : if e.kind = .path then names.idxOf? e.root else none with
    | none =>
      refine .inr (.inl ⟨?_, exists_readText_iff.1 ⟨e, read⟩, by simp only [target]⟩)
      rintro index ⟨e', found, path, place⟩
      obtain rfl : e = e' := Except.ok.inj (parsed.symm.trans found)
      simp [path, place] at target
    | some index =>
      have path : e.kind = .path := by
        by_contra other
        simp [other] at target
      have place : names.idxOf? e.root = some index := by rwa [if_pos path] at target
      exact .inl ⟨index, ⟨e, parsed, path, place⟩, by simp only [target]⟩

theorem Names.unique {names : List String} {s : String} {i j : Nat} (hi : Names names s i)
    (hj : Names names s j) : i = j := by
  rcases hi with ⟨e, read, -, place⟩
  rcases hj with ⟨e', read', -, place'⟩
  obtain rfl : e = e' := Except.ok.inj (read.symm.trans read')
  exact Option.some.inj (place.symm.trans place')

theorem targets_eq_ok {names texts : List String} {indices : List Nat} :
    targets names texts = .ok (.ok indices) ↔ List.Forall₂ (Names names) texts indices := by
  induction texts generalizing indices with
  | nil => simp [targets, eq_comm]
  | cons s rest ih =>
    rcases targets_cons_cases names s rest with
      ⟨index, named, more⟩ | ⟨unnamed, -, stop⟩ | ⟨-, unnamed, issues, stop⟩
    · rw [more, List.forall₂_cons_left_iff]
      constructor
      · intro found
        rcases map_eq_ok_iff.1 found with ⟨result, others, mapped⟩
        rcases map_eq_ok_iff.1 mapped with ⟨rest, rfl, rfl⟩
        exact ⟨index, rest, named, ih.1 others, rfl⟩
      · rintro ⟨index', rest', named', others, rfl⟩
        obtain rfl := named.unique named'
        rw [ih.2 others]
        rfl
    · rw [stop]
      refine iff_of_false (by simp) fun all => ?_
      rcases List.forall₂_cons_left_iff.1 all with ⟨index, others, named, -, -⟩
      exact unnamed index named
    · rw [stop]
      refine iff_of_false (by simp) fun all => ?_
      rcases List.forall₂_cons_left_iff.1 all with ⟨index, others, named, -, -⟩
      exact unnamed index named

theorem exists_targets_iff {names texts : List String} :
    (∃ found, targets names texts = .ok found) ↔ ¬ UnreadableAmong names texts := by
  induction texts with
  | nil => exact iff_of_true ⟨_, rfl⟩ (by rintro ⟨⟩)
  | cons s rest ih =>
    rcases targets_cons_cases names s rest with
      ⟨index, named, more⟩ | ⟨unnamed, short, stop⟩ | ⟨long, -, issues, stop⟩
    · have readable : ¬ Expr.HoldsLongInteger (beforeRemark s).toList := by
        rcases named with ⟨e, read, -⟩
        exact exists_readText_iff.1 ⟨e, readText_eq_ok.2 read⟩
      rw [more, exists_map_iff, ih, not_iff_not]
      constructor
      · exact .later named
      · rintro (long | ⟨-, unreadable⟩)
        · exact absurd long readable
        · exact unreadable
    · refine iff_of_true ⟨_, stop⟩ ?_
      rintro (long | ⟨named, -⟩)
      · exact short long
      · exact unnamed _ named
    · exact iff_of_false (not_exists_ok stop) (not_not.2 (.here long))

/-! ## Conditions -/

theorem conditions_eq_ok {values : List Value} {exprs : List Expr} :
    conditions values = .ok exprs ↔ List.Forall₂ States values exprs := by
  induction values generalizing exprs with
  | nil => simp [conditions, eq_comm]
  | cons v rest ih =>
    rw [conditions, List.forall₂_cons_left_iff]
    cases read : Expr.read (withoutRemark v) with
    | error issues =>
      refine iff_of_false (by simp) ?_
      rintro ⟨e, others, ⟨found, -⟩, -, -⟩
      simp [read] at found
    | ok e =>
      have said : ∀ e', States v e' ↔ e.hasUnknown = false ∧ e' = e := by
        intro e'
        rw [States, read, Except.ok.injEq]
        constructor
        · rintro ⟨rfl, known⟩
          exact ⟨known, rfl⟩
        · rintro ⟨known, rfl⟩
          exact ⟨rfl, known⟩
      cases known : e.hasUnknown with
      | true => simp [said, known]
      | false =>
        dsimp only
        rw [known, if_neg Bool.false_ne_true, map_eq_ok_iff]
        constructor
        · rintro ⟨others, made, rfl⟩
          exact ⟨e, others, (said e).2 ⟨known, rfl⟩, ih.1 made, rfl⟩
        · rintro ⟨e', others, stated, more, rfl⟩
          obtain ⟨-, rfl⟩ := (said e').1 stated
          exact ⟨others, ih.2 more, rfl⟩

/-! ## All kinds -/

variable {names : List String} {kind : String} {raw : Value} {value : Resolved}

theorem Means.isUnknown (means : Means names kind raw value) : value.isUnknown = false := by
  cases means <;> rfl

/-- An attribute that means something says it. -/
theorem ofAttribute_of_means (means : Means names kind raw value) :
    ofAttribute names kind raw = .ok value := by
  unfold ofAttribute
  cases means with
  | flag noReference given => rw [if_neg noReference, given]
  | @reference texts _ refers given nonempty named =>
    rw [if_pos refers, ofReference, allTexts?_eq_some.2 given]
    cases texts with
    | nil => contradiction
    | cons s rest => simp only [targets_eq_ok.2 named]
  | condition noFlag noReference noValue stated =>
    rw [if_neg noReference, noValue]
    dsimp only
    rw [if_neg noFlag, ofCondition, conditions_eq_ok.2 stated]

/-- An attribute says what it means, or is not understood, or an account name in it is too long. -/
theorem ofAttribute_cases (names : List String) (kind : String) (raw : Value) :
    (∃ value, ofAttribute names kind raw = .ok value ∧ Means names kind raw value) ∨
    (∃ reason, ofAttribute names kind raw = ofUnknown names raw reason) ∨
    (∃ failure texts, ofAttribute names kind raw = .error failure ∧ kind ∈ referenceKinds ∧
      items raw = texts.map Value.text ∧ UnreadableAmong names texts) := by
  unfold ofAttribute
  by_cases refers : kind ∈ referenceKinds
  · rw [if_pos refers, ofReference]
    split
    · exact .inr (.inl ⟨_, rfl⟩)
    · exact .inr (.inl ⟨_, rfl⟩)
    · rename_i texts nonempty all
      have given := allTexts?_eq_some.1 all
      cases found : targets names texts with
      | error issues =>
        have unreadable : UnreadableAmong names texts :=
          of_not_not (mt exists_targets_iff.2 (not_exists_ok found))
        exact .inr (.inr ⟨_, texts, rfl, refers, given, unreadable⟩)
      | ok result =>
        cases result with
        | error s => exact .inr (.inl ⟨_, rfl⟩)
        | ok indices =>
          have named := targets_eq_ok.1 found
          exact .inl ⟨_, rfl, .reference refers given nonempty named⟩
  · rw [if_neg refers]
    cases noValue : flag? raw with
    | some on => exact .inl ⟨_, rfl, .flag refers noValue⟩
    | none =>
      dsimp only
      by_cases flag : kind ∈ flagKinds
      · rw [if_pos flag]
        exact .inr (.inl ⟨_, rfl⟩)
      · rw [if_neg flag, ofCondition]
        cases found : conditions (items raw) with
        | error reason => exact .inr (.inl ⟨_, rfl⟩)
        | ok exprs =>
          exact .inl ⟨_, rfl, .condition flag refers noValue (conditions_eq_ok.1 found)⟩

/-- The values of attributes that are understood are their meanings. -/
theorem means_iff : Means names kind raw value ↔
    ofAttribute names kind raw = .ok value ∧ value.isUnknown = false := by
  constructor
  · exact fun means => ⟨ofAttribute_of_means means, means.isUnknown⟩
  · rintro ⟨said, known⟩
    rcases ofAttribute_cases names kind raw with
      ⟨value', said', means⟩ | ⟨reason, unknown⟩ | ⟨failure, texts, stop, -⟩
    · obtain rfl : value = value' := Except.ok.inj (said.symm.trans said')
      exact means
    · obtain ⟨-, rfl⟩ := ofUnknown_eq_ok.1 (unknown.symm.trans said)
      simp [isUnknown] at known
    · simp [stop] at said

theorem not_means_of_unknown {reason : String}
    (unknown : ofAttribute names kind raw = ofUnknown names raw reason) (meaning : Resolved) :
    ¬ Means names kind raw meaning := by
  intro means
  obtain ⟨-, rfl⟩ := ofUnknown_eq_ok.1 (unknown.symm.trans (ofAttribute_of_means means))
  cases means

/-- What is made of an attribute: its meaning, or a mark that it was not understood. -/
def Settles (names : List String) (kind : String) (raw : Value) (value : Resolved) : Prop :=
  Means names kind raw value ∨
    (∀ meaning, ¬ Means names kind raw meaning) ∧
      ∃ reason, value = .unresolved (mentioned names (Text.identifiersOf raw.plain)) reason

theorem settles_of_ofAttribute (said : ofAttribute names kind raw = .ok value) :
    Settles names kind raw value := by
  rcases ofAttribute_cases names kind raw with
    ⟨value', said', means⟩ | ⟨reason, unknown⟩ | ⟨failure, texts, stop, -⟩
  · obtain rfl : value = value' := Except.ok.inj (said.symm.trans said')
    exact .inl means
  · obtain ⟨-, rfl⟩ := ofUnknown_eq_ok.1 (unknown.symm.trans said)
    exact .inr ⟨not_means_of_unknown unknown, reason, rfl⟩
  · simp [stop] at said

/-- Something is made of an attribute unless it ends the extraction. -/
theorem exists_ofAttribute_iff :
    (∃ value, ofAttribute names kind raw = .ok value) ↔ ¬ Aborts names kind raw := by
  constructor
  · rintro ⟨value, said⟩ (@⟨texts, refers, given, unreadable⟩ | ⟨meaningless, long⟩)
    · unfold ofAttribute at said
      rw [if_pos refers, ofReference, allTexts?_eq_some.2 given] at said
      cases texts with
      | nil => cases unreadable
      | cons s rest =>
        cases found : targets names (s :: rest) with
        | error issues => simp [found] at said
        | ok result => exact exists_targets_iff.1 ⟨result, found⟩ unreadable
    · rcases ofAttribute_cases names kind raw with
        ⟨value', -, means⟩ | ⟨reason, unknown⟩ | ⟨failure, texts, stop, -⟩
      · exact meaningless value' means
      · have short := (ofUnknown_eq_ok.1 (unknown.symm.trans said)).1
        simp [long] at short
      · simp [stop] at said
  · intro fine
    rcases ofAttribute_cases names kind raw with
      ⟨value, said, -⟩ | ⟨reason, unknown⟩ | ⟨failure, texts, -, refers, given, unreadable⟩
    · exact ⟨value, said⟩
    · have short : raw.isWritable = true := by
        by_contra long
        exact fine (.unwritable (not_means_of_unknown unknown) (by simpa using long))
      exact ⟨_, unknown.trans (ofUnknown_eq_ok.2 ⟨short, rfl⟩)⟩
    · exact absurd (.unreadable refers given unreadable) fine

/-- Only the names of accounts can be too long: a flag or a condition that is a text never ends the
extraction. -/
theorem not_aborts_of_text {s : String} (noReference : kind ∉ referenceKinds) :
    ¬ Aborts names kind (.text s) := by
  rintro (⟨refers, -, -⟩ | ⟨-, long⟩)
  · exact noReference refers
  · simp [Value.isWritable, Value.scalars] at long

end Resolved
end AccountAudit
