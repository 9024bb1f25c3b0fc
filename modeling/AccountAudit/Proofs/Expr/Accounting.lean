import AccountAudit.Fact.Resolve
import AccountAudit.Proofs.Expr.Mention

/-!
# What becomes of mentions

Whatever a text is read as, each mention of an account in it is accounted for (`Accounts`): the account
is among the words that references are collected from, which are the roots of paths and the words of
what was not understood; or it is mentioned in the name of a called function, from which no reference
is collected; or it is mentioned in a string literal.

A mention outside string literals does not come to lie in one if the text is understood, and neither
if the text is plain (`accounts_of_parseChars`).
-/

namespace AccountAudit
namespace Expr

/-! ## Readings -/

/-- What is read of a text: its outermost construct, and what is read of the parts. -/
theorem parseChars_eq_ok {raw : List Char} {e : Expr} (h : parseChars raw = .ok e) :
    ∃ shape es, shapeOf raw = .ok shape ∧
      List.Forall₂ (fun part x => parseChars part = .ok x) shape.parts es ∧
      e = shape.assemble raw es := by
  rw [parseChars_eq] at h
  cases apart : shapeOf raw with
  | error excess => simp [apart, Except.bind] at h
  | ok shape =>
    rw [apart] at h
    rcases map_eq_ok_iff.1 h with ⟨es, parts, made⟩
    exact ⟨shape, es, rfl, forall₂_of_mapM parts, made.symm⟩

/-- The nodes of the parts are nodes of the whole. -/
theorem mem_walk_assemble {raw : List Char} {shape : Shape} {es : List Expr}
    (size : shape.parts.length = es.length) {x node : Expr} (part : x ∈ es) (inner : node ∈ x.walk) :
    node ∈ (shape.assemble raw es).walk := by
  have among : ∀ {items : List Expr}, x ∈ items → node ∈ walkAll items := by
    intro items member
    induction items with
    | nil => cases member
    | cons first rest ih =>
      rw [walkAll, List.mem_append]
      rcases List.mem_cons.1 member with rfl | later
      · exact .inl inner
      · exact .inr (ih later)
  match shape, es, size with
  | .unknown, [], _ => cases part
  | .literal value, [], _ => cases part
  | .path text, [], _ => cases part
  | .binary left op right, [l, r], _ =>
    rcases List.mem_pair.1 part with rfl | rfl
    · exact mem_walk_of_lhs rfl inner
    · exact mem_walk_of_rhs rfl inner
  | .negation operand, [e], _ =>
    obtain rfl := List.mem_singleton.1 part
    exact mem_walk_of_lhs rfl inner
  | .call func args, es, _ => simp [Shape.assemble, ofCall, walk, among part]
  | .array items, es, _ => simp [Shape.assemble, ofArray, walk, among part]
  | .index base bounds text, b :: es, _ =>
    rcases List.mem_cons.1 part with rfl | later
    · exact mem_walk_of_lhs rfl inner
    · have bound : node ∈ walkAll es := among later
      simp [Shape.assemble, ofIndex, walk, bound]

theorem hasUnknown_of_mem_walk {e part : Expr} (known : e.hasUnknown = false)
    (inside : ∀ node ∈ part.walk, node ∈ e.walk) : part.hasUnknown = false := by
  rw [hasUnknown, List.any_eq_false] at *
  exact fun node member => known node (inside node member)

/-- A construct that is understood is made of closed string literals and other characters if its parts
are. -/
theorem Shape.Covers.paired {cs : List Char} {shape : Shape} (h : shape.Covers cs)
    (known : shape ≠ .unknown) (each : ∀ part ∈ shape.parts, Paired part) : Paired cs := by
  cases h with
  | unknown => exact absurd rfl known
  | @bool b written =>
    have plain : ∀ b : Bool, '"' ∉ (if b then "true" else "false").toList ∧
        '\\' ∉ (if b then "true" else "false").toList := by decide
    rw [written]
    refine .of_forall fun c inside => ⟨?_, ?_⟩
    · rintro rfl
      exact (plain b).1 inside
    · rintro rfl
      exact (plain b).2 inside
  | integer written =>
    obtain ⟨sign, body, rfl, signed, -, named⟩ := isNamed_of_integerText? written
    have body' : Paired body := .of_forall fun c inside =>
      ⟨ne_of_holds (named c inside) (by decide), ne_of_holds (named c inside) (by decide)⟩
    rcases signed with rfl | rfl
    · exact body'
    · exact .char (by decide) (by decide) body'
  | string quoted => exact paired_of_isStringLiteral quoted
  | path isPath =>
    have foreign : ∀ c : Char, (isNamed c || [':', '.', '(', ')'].contains c) = false → c ∉ cs := by
      intro c other inside
      rw [isPath_eq_false_of_mem inside other] at isPath
      cases isPath
    refine .of_forall fun c inside => ⟨?_, ?_⟩
    · rintro rfl
      exact foreign '"' (by decide) inside
    · rintro rfl
      exact foreign '\\' (by decide) inside
  | call whole named laid _ =>
    rw [whole]
    have func : Paired _ := .of_forall fun c inside =>
      ⟨ne_of_holds (named c inside) (by decide), ne_of_holds (named c inside) (by decide)⟩
    exact func.append (laid.paired each)
  | parts laid _ => exact laid.paired each

/-- A text that is understood is made of closed string literals and other characters. -/
theorem paired_of_parseChars {raw : List Char} {e : Expr} (parsed : parseChars raw = .ok e)
    (known : e.hasUnknown = false) : Paired raw := by
  induction size : raw.length using Nat.strongRecOn generalizing raw e with
  | ind n ih =>
    rcases parseChars_eq_ok parsed with ⟨shape, es, apart, parts, rfl⟩
    have each : ∀ part ∈ shape.parts, Paired part := by
      intro part inside
      rcases exists_right_of_forall₂ parts inside with ⟨x, member, read⟩
      have understood := hasUnknown_of_mem_walk known fun node =>
        mem_walk_assemble parts.length_eq member
      exact ih part.length (size ▸ length_lt_of_mem_parts apart inside) read understood rfl
    have understood : shape ≠ .unknown := by
      rintro rfl
      cases known
    have whole := (covers_of_shapeOf apart).paired understood each
    exact (laid_bare raw).paired (by simpa using whole)

/-! ## Accounting -/

/-- The words among which accounts are looked for. -/
def words (e : Expr) : List String :=
  e.paths.map root ++ e.unknownWords

/-- The account is mentioned in the name of a function that the expression calls. -/
def CallsThrough (e : Expr) (name : List Char) : Prop :=
  ∃ node ∈ e.walk, node.kind = .call ∧ ∃ before after,
    MentionedAt name node.head.func.toList before after

/-- The account is mentioned in a string literal of the expression. -/
def Quotes (e : Expr) (name : List Char) : Prop :=
  ∃ node ∈ e.walk, node.kind = .literal ∧ ∃ s, node.head.value = .text s ∧ ∃ before after,
    MentionedAt name s.toList before after

/-- A name goes on up to an opening round bracket. -/
def IsCalled (after : List Char) : Prop :=
  ∃ more rest, after = more ++ '(' :: rest ∧ ∀ c ∈ more, isNamePart c = true

/-- What has become of a mention of an account in the text of an expression, where `legible` texts keep
what lies outside string literals out of them. -/
inductive Accounts (e : Expr) (name before after : List Char) (legible : Prop) : Prop where
  | word (found : String.ofList name ∈ e.words)
  | function (called : IsCalled after) (through : e.CallsThrough name)
  | quoted (quotes : e.Quotes name) (inside : legible → ¬ IsClosed before)

/-- The text is plain or is understood as the expression. -/
def Legible (raw : List Char) (e : Expr) : Prop :=
  Plain raw ∨ e.hasUnknown = false

theorem words_subset {e part : Expr} (inside : ∀ node ∈ part.walk, node ∈ e.walk) {word : String}
    (found : word ∈ part.words) : word ∈ e.words := by
  simp only [words, unknownWords, unknownTexts, paths, List.mem_append, List.mem_map,
    List.mem_flatMap, List.mem_filter] at found ⊢
  rcases found with ⟨path, ⟨member, isPath⟩, rfl⟩ | ⟨_, ⟨node, ⟨member, isUnknown⟩, rfl⟩, found⟩
  · exact .inl ⟨path, ⟨inside path member, isPath⟩, rfl⟩
  · exact .inr ⟨_, ⟨node, ⟨inside node member, isUnknown⟩, rfl⟩, found⟩

theorem IsCalled.append {after : List Char} (h : IsCalled after) (tail : List Char) :
    IsCalled (after ++ tail) := by
  rcases h with ⟨more, rest, rfl, named⟩
  exact ⟨more, rest ++ tail, by simp, named⟩

theorem IsCalled.mem {after : List Char} (h : IsCalled after) : '(' ∈ after := by
  rcases h with ⟨more, rest, rfl, -⟩
  simp

/-- What is accounted for in a part is accounted for in the whole. -/
theorem Accounts.whole {e part : Expr} {name before after lead tail : List Char}
    {legible legible' : Prop} (h : part.Accounts name before after legible)
    (inside : ∀ node ∈ part.walk, node ∈ e.walk) (keeps : legible' → legible ∧ IsClosed lead) :
    e.Accounts name (lead ++ before) (after ++ tail) legible' := by
  cases h with
  | word found => exact .word (words_subset inside found)
  | function called through =>
    rcases through with ⟨node, member, isCall, mentioned⟩
    exact .function (called.append tail) ⟨node, inside node member, isCall, mentioned⟩
  | quoted quotes within =>
    rcases quotes with ⟨node, member, isLiteral, mentioned⟩
    refine .quoted ⟨node, inside node member, isLiteral, mentioned⟩ fun legible => ?_
    rw [(keeps legible).2.append_iff]
    exact within (keeps legible).1

/-- A mention in a part is accounted for in the whole, if it is in the part. -/
theorem accounts_of_parts {raw cs name before after : List Char} {shape : Shape} {es : List Expr}
    (parts : List.Forall₂ (fun part x => parseChars part = .ok x) shape.parts es)
    (laid : Laid shape.parts cs) (cut : CutOutside cs shape.parts) (plains : Plain raw → Plain cs)
    (isName : IsAccountName name) (mention : MentionedAt name cs before after)
    (each : ∀ part ∈ shape.parts, ∀ x b a, parseChars part = .ok x → MentionedAt name part b a →
      x.Accounts name b a (Legible part x)) :
    (shape.assemble raw es).Accounts name before after (Legible raw (shape.assemble raw es)) := by
  rcases laid.exists_mention isName mention with
    ⟨part, member, lead, b, a, tail, rfl, rfl, inner, closed⟩
  have nodes : ∀ {x : Expr}, x ∈ es → ∀ node ∈ x.walk, node ∈ (shape.assemble raw es).walk :=
    fun among node => mem_walk_assemble parts.length_eq among
  rcases exists_right_of_forall₂ parts member with ⟨x, among, read⟩
  refine (each part member x b a read inner).whole (nodes among) fun legible => ?_
  rcases legible with plain | known
  · have outside := cut (.inl (plains plain))
    exact ⟨.inl (laid.plain outside (plains plain) member), closed outside⟩
  · have paired : ∀ part ∈ shape.parts, Paired part := by
      intro part member
      rcases exists_right_of_forall₂ parts member with ⟨x, among, read⟩
      exact paired_of_parseChars read (hasUnknown_of_mem_walk known (nodes among))
    exact ⟨.inr (hasUnknown_of_mem_walk known (nodes among)), closed (cut (.inr paired))⟩

/-- A mention in a called function's name is in the name of the call. -/
theorem accounts_of_func {func behind name before after : List Char} {raw : List Char}
    {args : List (List Char)} {es : List Expr} {legible : Prop}
    (named : ∀ c ∈ func, isNamePart c = true) (mention : MentionedAt name func before after) :
    ((Shape.call func args).assemble raw es).Accounts name before (after ++ '(' :: behind) legible := by
  have rest : ∀ c ∈ after, isNamePart c = true := by
    rcases mention.written with ⟨way, -, rfl⟩
    exact fun c inside => named c (by simp [inside])
  refine .function ⟨after, behind, rfl, rest⟩ ⟨_, self_mem_walk _, rfl, before, after, ?_⟩
  simpa [Shape.assemble, ofCall, head] using mention

/-- **Accounting.** Each mention of an account in a text is accounted for, whatever the text is read
as. -/
theorem accounts_of_parseChars {raw name before after : List Char} {e : Expr}
    (parsed : parseChars raw = .ok e) (isName : IsAccountName name)
    (mention : MentionedAt name raw before after) :
    e.Accounts name before after (Legible raw e) := by
  -- By induction on the length: the parts of a construct are shorter, and the mention lies in one.
  induction size : raw.length using Nat.strongRecOn generalizing raw e before after with
  | ind n ih =>
    rcases parseChars_eq_ok parsed with ⟨shape, es, apart, parts, rfl⟩
    have covers := covers_of_shapeOf apart
    have each : ∀ part ∈ shape.parts, ∀ x b a, parseChars part = .ok x →
        MentionedAt name part b a → x.Accounts name b a (Legible part x) := by
      intro part member x b a read found
      exact ih part.length (size ▸ length_lt_of_mem_parts apart member) read found rfl
    -- The mention lies in what is left of the text without what stands around it.
    rcases (laid_bare raw).exists_mention isName mention with
      ⟨cs, inside, lead, b, a, tail, rfl, rfl, here, ends⟩
    obtain rfl := List.mem_singleton.1 inside
    have front : IsClosed lead := ends (by simp)
    have plainBare : Plain raw → Plain (bare raw) := fun plain =>
      (laid_bare raw).plain (by simp) plain (by simp)
    have all : ∀ {e : Expr} {legible : Prop}, e.Accounts name b a legible →
        e.Accounts name (lead ++ b) (a ++ tail) legible := fun h =>
      h.whole (fun _ => id) fun legible => ⟨legible, front⟩
    cases covers with
    | unknown =>
      refine .word (List.mem_append_right _ ?_)
      have word := mem_identifiersOf_of_mentionedAt (s := String.ofList raw) isName
        (by simpa using mention)
      simpa [Shape.assemble, unknownWords, unknownTexts, ofRaw, walk, walkOption, walkAll, kind,
        head] using word
    | bool written => exact absurd here (not_mentionedAt_bool written isName)
    | integer written => exact absurd here (not_mentionedAt_integer written isName)
    | string quoted =>
      refine all (.quoted ⟨_, self_mem_walk _, rfl, _, rfl, b, a, ?_⟩ fun _ => ?_)
      · simpa using here
      · exact not_isClosed_of_isStringLiteral quoted isName here
    | path isPath =>
      refine all (.word (List.mem_append_left _ ?_))
      rw [← root_of_mentionedAt isPath isName here]
      simp [Shape.assemble, paths, ofPath, walk, walkOption, walkAll, kind, head]
    | @call func behind args whole named laid cut =>
      have name' : IsClosed func :=
        isClosed_of_quoteless fun quote => absurd (named '"' quote) (by decide)
      rw [whole] at here plainBare
      rcases here.in_piece (breaks_of_mark rfl) isName with ⟨a, rfl, found⟩ | ⟨b, rfl, found⟩
      · exact all (accounts_of_func named found)
      · have plains : Plain raw → Plain ('(' :: behind) := fun plain =>
          ⟨(plainBare plain).unescaped.mono (List.suffix_append func _).isInfix,
            (plainBare plain).ranges.right name'⟩
        have args : (ofCall _ es).Accounts name (func ++ b) (a ++ []) _ :=
          (accounts_of_parts parts laid cut plains isName found each).whole (fun _ => id)
            fun legible => ⟨legible, name'⟩
        rw [List.append_nil] at args
        exact all args
    | parts laid cut => exact all (accounts_of_parts parts laid cut plainBare isName here each)

end Expr
end AccountAudit
