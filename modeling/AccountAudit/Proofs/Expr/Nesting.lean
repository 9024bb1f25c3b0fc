import AccountAudit.Expr.Split

/-!
# Nested text

A text is nested when its brackets belong together and its string literals are closed (`Nested`).
Every search of the reader passes over nested text and is then in the state in which it was before:
there is one lemma for each search. What the text may hold outside its brackets is left open, since
operators and commas matter there and nowhere else.
-/

namespace AccountAudit
namespace Expr

/-- A character that neither nests nor quotes. -/
def isPlain (c : Char) : Bool :=
  !(['"', '(', ')', '[', ']', '\x7b', '\x7d'].contains c)

/-- The content of a string literal ends nowhere but at its end, and hides no round bracket. -/
def IsContent (content : List Char) : Prop :=
  ∀ c ∈ ['"', '\\', '(', ')'], c ∉ content

/-- Nested text, all of whose plain characters outside brackets and string literals are chosen. -/
inductive Nested : (Char → Bool) → List Char → Prop where
  | nil (p : Char → Bool) : Nested p []
  | plain {p : Char → Bool} {c : Char} {rest : List Char} (isPlain : isPlain c = true)
      (chosen : p c = true) (nested : Nested p rest) : Nested p (c :: rest)
  | quoted {p : Char → Bool} {content rest : List Char} (isContent : IsContent content)
      (nested : Nested p rest) : Nested p ('"' :: (content ++ '"' :: rest))
  | bracket {p : Char → Bool} {opener closer : Char} {inner rest : List Char}
      (closes : closerOf? opener = some closer) (inside : Nested (fun _ => true) inner)
      (nested : Nested p rest) : Nested p (opener :: (inner ++ closer :: rest))

namespace Nested

variable {p q : Char → Bool} {cs ds : List Char}

theorem append (h : Nested p cs) (h' : Nested p ds) : Nested p (cs ++ ds) := by
  induction h with
  | nil => exact h'
  | plain isPlain chosen _ ih => exact .plain isPlain chosen (ih h')
  | @quoted p content rest isContent _ ih =>
    simpa using Nested.quoted isContent (ih h')
  | @bracket p opener closer inner rest closes inside _ _ ih =>
    simpa using Nested.bracket closes inside (ih h')

theorem imp (h : Nested p cs) (implies : ∀ c, p c = true → q c = true) : Nested q cs := by
  induction h with
  | nil => exact .nil q
  | plain isPlain chosen _ ih => exact .plain isPlain (implies _ chosen) (ih implies)
  | quoted isContent _ ih => exact .quoted isContent (ih implies)
  | bracket closes inside _ _ ih => exact .bracket closes inside (ih implies)

theorem of_forall (plain : ∀ c ∈ cs, isPlain c = true ∧ p c = true) : Nested p cs := by
  induction cs with
  | nil => exact .nil p
  | cons c rest ih =>
    rcases plain c List.mem_cons_self with ⟨isPlain, chosen⟩
    exact .plain isPlain chosen (ih fun d member => plain d (List.mem_cons_of_mem _ member))

theorem of_all (plain : cs.all (fun c => isPlain c && p c) = true) : Nested p cs :=
  of_forall fun c member => Bool.and_eq_true_iff.1 (List.all_eq_true.1 plain c member)

end Nested

/-! ## Brackets -/

theorem closerOf?_of_isPlain {c : Char} (h : isPlain c = true) : closerOf? c = none := by
  unfold closerOf?
  split <;> first | rfl | simp [isPlain] at h

theorem ne_of_isPlain {c d : Char} (h : isPlain c = true) (nests : isPlain d = false) : c ≠ d := by
  rintro rfl
  simp [h] at nests

/-- The brackets that belong together. -/
theorem closerOf?_cases {opener closer : Char} (h : closerOf? opener = some closer) :
    opener = '(' ∧ closer = ')' ∨ opener = '[' ∧ closer = ']' ∨
      opener = '\x7b' ∧ closer = '\x7d' := by
  unfold closerOf? at h
  split at h
  · exact .inl ⟨rfl, (Option.some.inj h).symm⟩
  · exact .inr (.inl ⟨rfl, (Option.some.inj h).symm⟩)
  · exact .inr (.inr ⟨rfl, (Option.some.inj h).symm⟩)
  · cases h

theorem isPlain_closer {opener closer : Char} (h : closerOf? opener = some closer) :
    isPlain closer = false := by
  rcases closerOf?_cases h with ⟨-, rfl⟩ | ⟨-, rfl⟩ | ⟨-, rfl⟩ <;> rfl

theorem closerOf?_closer {opener closer : Char} (h : closerOf? opener = some closer) :
    closerOf? closer = none := by
  rcases closerOf?_cases h with ⟨-, rfl⟩ | ⟨-, rfl⟩ | ⟨-, rfl⟩ <;> rfl

theorem opener_ne_quote {opener closer : Char} (h : closerOf? opener = some closer) :
    opener ≠ '"' := by
  rcases closerOf?_cases h with ⟨rfl, -⟩ | ⟨rfl, -⟩ | ⟨rfl, -⟩ <;> decide

theorem closer_ne_quote {opener closer : Char} (h : closerOf? opener = some closer) :
    closer ≠ '"' := by
  rcases closerOf?_cases h with ⟨-, rfl⟩ | ⟨-, rfl⟩ | ⟨-, rfl⟩ <;> decide

/-- The content of a string literal ends nowhere but at its end. -/
structure Unquoted (content : List Char) : Prop where
  quote : '"' ∉ content
  sign : '\\' ∉ content

namespace Unquoted

variable {c : Char} {content : List Char}

theorem of_cons (h : Unquoted (c :: content)) : Unquoted content :=
  ⟨fun inside => h.quote (List.mem_cons_of_mem c inside),
    fun inside => h.sign (List.mem_cons_of_mem c inside)⟩

theorem ne_quote (h : Unquoted (c :: content)) : c ≠ '"' := by
  rintro rfl
  exact h.quote List.mem_cons_self

theorem ne_backslash (h : Unquoted (c :: content)) : c ≠ '\\' := by
  rintro rfl
  exact h.sign List.mem_cons_self

end Unquoted

namespace IsContent

variable {c : Char} {content : List Char}

theorem unquoted (h : IsContent content) : Unquoted content :=
  ⟨h '"' (by simp), h '\\' (by simp)⟩

theorem of_cons (h : IsContent (c :: content)) : IsContent content :=
  fun d special inside => h d special (List.mem_cons_of_mem c inside)

theorem ne_round (h : IsContent (c :: content)) : c ≠ '(' ∧ c ≠ ')' := by
  constructor
  · rintro rfl
    exact h '(' (by simp) List.mem_cons_self
  · rintro rfl
    exact h ')' (by simp) List.mem_cons_self

end IsContent

/-! ## Operators -/

/-- A character that no operator starts with, and no comma. -/
def isQuiet (c : Char) : Bool :=
  !(['|', '&', '=', '!', '>', '<', '+', '-', '*', '/', '%', ','].contains c)

theorem standsAt_of_isQuiet {c : Char} (quiet : isQuiet c = true) (op : BinaryOp)
    (seen rest : List Char) : op.standsAt seen (c :: rest) = false := by
  have starts : op.chars.isPrefixOf (c :: rest) = false := by
    cases op <;> simp [isQuiet, BinaryOp.chars, List.isPrefixOf] at quiet ⊢ <;> grind
  rw [BinaryOp.standsAt, starts, Bool.false_and]

/-- The state of the search for operators does not change along a string literal. -/
theorem splitsFrom_quoted (level : Level) (closers : List Char) {content : List Char}
    (unquoted : Unquoted content) (seen rest : List Char) :
    splitsFrom level 0 closers true seen (content ++ '"' :: rest) =
      splitsFrom level 0 closers false ('"' :: (content.reverse ++ seen)) rest := by
  induction content generalizing seen with
  | nil => simp [splitsFrom]
  | cons c content ih =>
    have step : splitsFrom level 0 closers true seen (c :: (content ++ '"' :: rest)) =
        splitsFrom level 0 closers true (c :: seen) (content ++ '"' :: rest) := by
      have open' : (c != '"') = true := bne_iff_ne.2 unquoted.ne_quote
      simp [splitsFrom, open', unquoted.ne_backslash]
    rw [List.cons_append, step, ih unquoted.of_cons]
    simp

theorem splitsFrom_literal (level : Level) (closers : List Char) {content : List Char}
    (unquoted : Unquoted content) (seen rest : List Char) :
    splitsFrom level 0 closers false seen ('"' :: (content ++ '"' :: rest)) =
      splitsFrom level 0 closers false ('"' :: (content.reverse ++ '"' :: seen)) rest := by
  rw [← splitsFrom_quoted level closers unquoted]
  simp [splitsFrom]

/-- Nested text is passed over inside brackets, and outside of them if it is quiet. -/
theorem splitsFrom_nested {p : Char → Bool} {cs : List Char} (h : Nested p cs) (level : Level)
    {closers : List Char} (nests : ∀ k ∈ closers, isPlain k = false)
    (top : closers = [] → ∀ c, p c = true → isQuiet c = true) (seen rest : List Char) :
    splitsFrom level 0 closers false seen (cs ++ rest) =
      splitsFrom level 0 closers false (cs.reverse ++ seen) rest := by
  induction h generalizing closers seen rest with
  | nil => rfl
  | @plain p c more isPlain chosen _ ih =>
    have step : splitsFrom level 0 closers false seen (c :: (more ++ rest)) =
        splitsFrom level 0 closers false (c :: seen) (more ++ rest) := by
      have quote : c ≠ '"' := ne_of_isPlain isPlain rfl
      -- Outside brackets the character starts no operator; inside, it closes nothing.
      cases closers with
      | nil =>
        have none : level.ops.find? (·.standsAt seen (c :: (more ++ rest))) = none := by
          rw [List.find?_eq_none]
          intro op _
          simp [standsAt_of_isQuiet (top rfl c chosen)]
        simp [splitsFrom, quote, closerOf?_of_isPlain isPlain, none]
      | cons k outer =>
        have other : c ≠ k := ne_of_isPlain isPlain (nests k List.mem_cons_self)
        simp [splitsFrom, quote, closerOf?_of_isPlain isPlain, other]
    rw [List.cons_append, step, ih nests top]
    simp
  | @quoted p content more isContent _ ih =>
    calc splitsFrom level 0 closers false seen ('"' :: (content ++ '"' :: more) ++ rest)
        = splitsFrom level 0 closers false seen ('"' :: (content ++ '"' :: (more ++ rest))) := by
          rw [List.cons_append, List.append_assoc, List.cons_append]
      _ = splitsFrom level 0 closers false ('"' :: (content.reverse ++ '"' :: seen))
            (more ++ rest) := splitsFrom_literal level closers isContent.unquoted _ _
      _ = splitsFrom level 0 closers false
            (more.reverse ++ '"' :: (content.reverse ++ '"' :: seen)) rest := ih nests top _ _
      _ = splitsFrom level 0 closers false (('"' :: (content ++ '"' :: more)).reverse ++ seen)
            rest := by simp
  | @bracket p opener closer inner more closes _ _ ihInner ih =>
    -- The bracket stays open along its content, so what the content holds outside its own
    -- brackets does not matter.
    have opened : splitsFrom level 0 closers false seen
          (opener :: (inner ++ closer :: (more ++ rest))) =
        splitsFrom level 0 (closer :: closers) false (opener :: seen)
          (inner ++ closer :: (more ++ rest)) := by
      simp [splitsFrom, opener_ne_quote closes, closes]
    have nests' : ∀ k ∈ closer :: closers, isPlain k = false := by
      intro k member
      rcases List.mem_cons.1 member with rfl | outer
      · exact isPlain_closer closes
      · exact nests k outer
    have closed : ∀ seen, splitsFrom level 0 (closer :: closers) false seen
          (closer :: (more ++ rest)) =
        splitsFrom level 0 closers false (closer :: seen) (more ++ rest) := by
      intro seen
      simp [splitsFrom, closer_ne_quote closes, closerOf?_closer closes]
    calc splitsFrom level 0 closers false seen (opener :: (inner ++ closer :: more) ++ rest)
        = splitsFrom level 0 (closer :: closers) false (opener :: seen)
            (inner ++ closer :: (more ++ rest)) := by
          rw [List.cons_append, List.append_assoc, List.cons_append, opened]
      _ = splitsFrom level 0 (closer :: closers) false (inner.reverse ++ opener :: seen)
            (closer :: (more ++ rest)) := ihInner nests' (by simp) _ _
      _ = splitsFrom level 0 closers false (closer :: (inner.reverse ++ opener :: seen))
            (more ++ rest) := closed _
      _ = splitsFrom level 0 closers false
            (more.reverse ++ closer :: (inner.reverse ++ opener :: seen)) rest := ih nests top _ _
      _ = splitsFrom level 0 closers false ((opener :: (inner ++ closer :: more)).reverse ++ seen)
            rest := by simp

theorem splitsFrom_quiet {cs : List Char} (h : Nested isQuiet cs) (level : Level)
    (seen rest : List Char) :
    splitsFrom level 0 [] false seen (cs ++ rest) =
      splitsFrom level 0 [] false (cs.reverse ++ seen) rest :=
  splitsFrom_nested h level (by simp) (fun _ _ quiet => quiet) seen rest

/-! ## Commas -/

/-- Outside string literals the character before does not matter. -/
theorem splitArgsFrom_previous (depth : Int) (c d : Char) (piece cs : List Char) :
    splitArgsFrom depth false c piece cs = splitArgsFrom depth false d piece cs := by
  cases cs <;> rfl

theorem splitArgsFrom_quoted {depth : Int} {content : List Char} (unquoted : Unquoted content)
    {previous : Char} (plain : previous ≠ '\\') (piece rest : List Char) :
    splitArgsFrom depth true previous piece (content ++ '"' :: rest) =
      splitArgsFrom depth false '"' ('"' :: (content.reverse ++ piece)) rest := by
  induction content generalizing previous piece with
  | nil =>
    have ends : (previous == '\\') = false := beq_eq_false_iff_ne.2 plain
    simp [splitArgsFrom, quotedAfter, depthAfter, ends]
  | cons c content ih =>
    have step : splitArgsFrom depth true previous piece (c :: (content ++ '"' :: rest)) =
        splitArgsFrom depth true c (c :: piece) (content ++ '"' :: rest) := by
      have open' : (c != '"') = true := bne_iff_ne.2 unquoted.ne_quote
      simp [splitArgsFrom, quotedAfter, depthAfter, open']
    rw [List.cons_append, step, ih unquoted.of_cons unquoted.ne_backslash]
    simp

theorem splitArgsFrom_literal (depth : Int) {content : List Char} (unquoted : Unquoted content)
    (previous : Char) (piece rest : List Char) :
    splitArgsFrom depth false previous piece ('"' :: (content ++ '"' :: rest)) =
      splitArgsFrom depth false '"' ('"' :: (content.reverse ++ '"' :: piece)) rest := by
  have same : depthAfter depth false '"' = depth := by simp [depthAfter, closerOf?]
  have quote : '"' ≠ '\\' := by decide
  rw [← splitArgsFrom_quoted unquoted quote, splitArgsFrom, same]
  simp [quotedAfter]

/-- Nested text is passed over inside brackets, and outside of them if it has no comma there. -/
theorem splitArgsFrom_nested {p : Char → Bool} {cs : List Char} (h : Nested p cs) {depth : Int}
    (deep : 0 ≤ depth) (top : depth = 0 → ∀ c, p c = true → c ≠ ',') (previous : Char)
    (piece rest : List Char) :
    splitArgsFrom depth false previous piece (cs ++ rest) =
      splitArgsFrom depth false previous (cs.reverse ++ piece) rest := by
  induction h generalizing depth previous piece rest with
  | nil => rfl
  | @plain p c more isPlain chosen _ ih =>
    have same : depthAfter depth false c = depth := by
      have closing : ¬ (c = ')' ∨ c = ']' ∨ c = '\x7d') := by
        rintro (rfl | rfl | rfl) <;> simp [Expr.isPlain] at isPlain
      simp [depthAfter, closerOf?_of_isPlain isPlain, closing]
    have quote : (c == '"') = false := beq_eq_false_iff_ne.2 (ne_of_isPlain isPlain rfl)
    have step : splitArgsFrom depth false previous piece (c :: (more ++ rest)) =
        splitArgsFrom depth false previous (c :: piece) (more ++ rest) := by
      -- A comma cuts outside brackets only, and there the text has none.
      have inner : ¬ (c = ',' ∧ depth = 0) := fun ⟨comma, outer⟩ => top outer c chosen comma
      rw [splitArgsFrom, same, splitArgsFrom_previous depth previous c]
      simp [quotedAfter, quote, inner]
    rw [List.cons_append, step, ih deep top]
    simp
  | @quoted p content more isContent _ ih =>
    calc splitArgsFrom depth false previous piece ('"' :: (content ++ '"' :: more) ++ rest)
        = splitArgsFrom depth false previous piece ('"' :: (content ++ '"' :: (more ++ rest))) := by
          rw [List.cons_append, List.append_assoc, List.cons_append]
      _ = splitArgsFrom depth false '"' ('"' :: (content.reverse ++ '"' :: piece))
            (more ++ rest) := splitArgsFrom_literal depth isContent.unquoted _ _ _
      _ = splitArgsFrom depth false previous ('"' :: (content.reverse ++ '"' :: piece))
            (more ++ rest) := splitArgsFrom_previous depth '"' previous _ _
      _ = splitArgsFrom depth false previous
            (more.reverse ++ '"' :: (content.reverse ++ '"' :: piece)) rest := ih deep top _ _ _
      _ = splitArgsFrom depth false previous (('"' :: (content ++ '"' :: more)).reverse ++ piece)
            rest := by simp
  | @bracket p opener closer inner more closes _ _ ihInner ih =>
    have opened : splitArgsFrom depth false previous piece
          (opener :: (inner ++ closer :: (more ++ rest))) =
        splitArgsFrom (depth + 1) false previous (opener :: piece)
          (inner ++ closer :: (more ++ rest)) := by
      have deeper : depthAfter depth false opener = depth + 1 := by simp [depthAfter, closes]
      have positive : ¬ depth + 1 = 0 := by omega
      have quote : (opener == '"') = false := beq_eq_false_iff_ne.2 (opener_ne_quote closes)
      rw [splitArgsFrom, deeper, splitArgsFrom_previous _ previous opener]
      simp [quotedAfter, quote, positive]
    have closed : ∀ piece, splitArgsFrom (depth + 1) false previous piece
          (closer :: (more ++ rest)) =
        splitArgsFrom depth false previous (closer :: piece) (more ++ rest) := by
      intro piece
      -- The closing bracket takes back what the opening one added.
      have back : depthAfter (depth + 1) false closer = depth := by
        rcases closerOf?_cases closes with ⟨-, rfl⟩ | ⟨-, rfl⟩ | ⟨-, rfl⟩ <;>
          simp [depthAfter, closerOf?]
      have comma : closer ≠ ',' := by
        rcases closerOf?_cases closes with ⟨-, rfl⟩ | ⟨-, rfl⟩ | ⟨-, rfl⟩ <;> decide
      have quote : (closer == '"') = false := beq_eq_false_iff_ne.2 (closer_ne_quote closes)
      rw [splitArgsFrom, back, splitArgsFrom_previous _ previous closer]
      simp [quotedAfter, quote, comma]
    calc splitArgsFrom depth false previous piece (opener :: (inner ++ closer :: more) ++ rest)
        = splitArgsFrom (depth + 1) false previous (opener :: piece)
            (inner ++ closer :: (more ++ rest)) := by
          rw [List.cons_append, List.append_assoc, List.cons_append, opened]
      _ = splitArgsFrom (depth + 1) false previous (inner.reverse ++ opener :: piece)
            (closer :: (more ++ rest)) := ihInner (by omega) (by omega) _ _ _
      _ = splitArgsFrom depth false previous (closer :: (inner.reverse ++ opener :: piece))
            (more ++ rest) := closed _
      _ = splitArgsFrom depth false previous
            (more.reverse ++ closer :: (inner.reverse ++ opener :: piece)) rest := ih deep top _ _ _
      _ = splitArgsFrom depth false previous
            ((opener :: (inner ++ closer :: more)).reverse ++ piece) rest := by simp

/-- A comma outside brackets ends a piece. -/
theorem splitArgsFrom_comma (previous : Char) (piece rest : List Char) :
    splitArgsFrom 0 false previous piece (',' :: rest) =
      piece.reverse :: splitArgsFrom 0 false ',' [] rest := by
  simp [splitArgsFrom, depthAfter, closerOf?, quotedAfter]

theorem intercalate_comma (piece : List Char) {pieces : List (List Char)} (some : pieces ≠ []) :
    [','].intercalate (piece :: pieces) = piece ++ ',' :: [','].intercalate pieces := by
  rcases List.exists_cons_of_ne_nil some with ⟨second, more, rfl⟩
  simp [List.intercalate_cons_cons]

section Pieces

variable {p : Char → Bool} {pieces : List (List Char)}

theorem Nested.intercalate (nested : ∀ piece ∈ pieces, Nested p piece) :
    Nested (fun _ => true) ([','].intercalate pieces) := by
  induction pieces with
  | nil => exact .nil _
  | cons piece rest ih =>
    rw [List.forall_mem_cons] at nested
    have first : Nested (fun _ => true) piece := nested.1.imp fun _ _ => rfl
    by_cases none : rest = []
    · simpa [none] using first
    · rw [intercalate_comma piece none]
      exact first.append (.plain rfl rfl (ih nested.2))

/-- Nested pieces that are not blank, with commas between them, are cut at these commas. -/
theorem splitArgsFrom_intercalate (outer : ∀ c, p c = true → c ≠ ',') (some : pieces ≠ [])
    (nested : ∀ piece ∈ pieces, Nested p piece)
    (visible : ∀ piece ∈ pieces, piece.all Text.isBlank = false) (previous : Char) :
    splitArgsFrom 0 false previous [] ([','].intercalate pieces) = pieces := by
  induction pieces generalizing previous with
  | nil => exact absurd rfl some
  | cons piece rest ih =>
    rw [List.forall_mem_cons] at nested visible
    have passed : ∀ more, splitArgsFrom 0 false previous [] (piece ++ more) =
        splitArgsFrom 0 false previous (piece.reverse ++ []) more :=
      splitArgsFrom_nested nested.1 (by omega) (fun _ => outer) previous []
    by_cases none : rest = []
    · have single : [','].intercalate [piece] = piece ++ [] := by simp
      have visible' : piece.reverse.all Text.isBlank = false := by simpa using visible.1
      rw [none, single, passed]
      simp [splitArgsFrom, visible']
    · rw [intercalate_comma piece none, passed, splitArgsFrom_comma, ih none nested.2 visible.2]
      simp

theorem splitArgs_intercalate (outer : ∀ c, p c = true → c ≠ ',') (some : pieces ≠ [])
    (nested : ∀ piece ∈ pieces, Nested p piece)
    (visible : ∀ piece ∈ pieces, piece.all Text.isBlank = false) :
    splitArgs ([','].intercalate pieces) = pieces :=
  splitArgsFrom_intercalate outer some nested visible ' '

end Pieces

/-! ## The bracket at the end -/

theorem openerOfLastFrom_previous (opened : List (Char × Nat)) (c d : Char) (index : Nat)
    (cs : List Char) :
    openerOfLastFrom opened false c index cs = openerOfLastFrom opened false d index cs := by
  cases cs <;> rfl

theorem openerOfLastFrom_quoted {opened : List (Char × Nat)} {content : List Char}
    (unquoted : Unquoted content) {previous : Char} (plain : previous ≠ '\\') (index : Nat)
    (rest : List Char) :
    openerOfLastFrom opened true previous index (content ++ '"' :: rest) =
      openerOfLastFrom opened false '"' (index + content.length + 1) rest := by
  induction content generalizing previous index with
  | nil =>
    have ends : (previous == '\\') = false := beq_eq_false_iff_ne.2 plain
    simp [openerOfLastFrom, quotedAfter, ends]
  | cons c content ih =>
    have step : openerOfLastFrom opened true previous index (c :: (content ++ '"' :: rest)) =
        openerOfLastFrom opened true c (index + 1) (content ++ '"' :: rest) := by
      have open' : (c != '"') = true := bne_iff_ne.2 unquoted.ne_quote
      simp [openerOfLastFrom, quotedAfter, open']
    rw [List.cons_append, step, ih unquoted.of_cons unquoted.ne_backslash]
    congr 1
    simp only [List.length_cons]
    omega

theorem openerOfLastFrom_literal (opened : List (Char × Nat)) {content : List Char}
    (unquoted : Unquoted content) (previous : Char) (index : Nat) (rest : List Char) :
    openerOfLastFrom opened false previous index ('"' :: (content ++ '"' :: rest)) =
      openerOfLastFrom opened false '"' (index + (content.length + 2)) rest := by
  have length : index + (content.length + 2) = index + 1 + content.length + 1 := by omega
  have quote : '"' ≠ '\\' := by decide
  rw [length, ← openerOfLastFrom_quoted unquoted quote]
  simp [openerOfLastFrom, quotedAfter]

/-- Nested text is passed over if it does not end the whole text. -/
theorem openerOfLastFrom_nested {p : Char → Bool} {cs : List Char} (h : Nested p cs)
    {opened : List (Char × Nat)} (nests : ∀ entry ∈ opened, isPlain entry.1 = false)
    (previous : Char) (index : Nat) {rest : List Char} (more : rest ≠ []) :
    openerOfLastFrom opened false previous index (cs ++ rest) =
      openerOfLastFrom opened false previous (index + cs.length) rest := by
  induction h generalizing opened previous index rest with
  | nil => rfl
  | @plain p c others isPlain _ _ ih =>
    have quote : (c == '"') = false := beq_eq_false_iff_ne.2 (ne_of_isPlain isPlain rfl)
    have step : openerOfLastFrom opened false previous index (c :: (others ++ rest)) =
        openerOfLastFrom opened false previous (index + 1) (others ++ rest) := by
      cases opened with
      | nil =>
        simp only [openerOfLastFrom, quotedAfter, quote, closerOf?_of_isPlain isPlain]
        exact openerOfLastFrom_previous ..
      | cons entry outer =>
        have other : (c == entry.1) = false :=
          beq_eq_false_iff_ne.2 (ne_of_isPlain isPlain (nests entry List.mem_cons_self))
        simp only [openerOfLastFrom, quotedAfter, quote, closerOf?_of_isPlain isPlain, other]
        exact openerOfLastFrom_previous ..
    rw [List.cons_append, step, ih nests previous (index + 1) more, List.length_cons]
    congr 1
    omega
  | @quoted p content others isContent _ ih =>
    have length : index + (content.length + 2) + others.length =
        index + ('"' :: (content ++ '"' :: others)).length := by
      simp only [List.length_cons, List.length_append]
      omega
    calc openerOfLastFrom opened false previous index ('"' :: (content ++ '"' :: others) ++ rest)
        = openerOfLastFrom opened false previous index
            ('"' :: (content ++ '"' :: (others ++ rest))) := by
          rw [List.cons_append, List.append_assoc, List.cons_append]
      _ = openerOfLastFrom opened false '"' (index + (content.length + 2)) (others ++ rest) :=
          openerOfLastFrom_literal opened isContent.unquoted previous index _
      _ = openerOfLastFrom opened false previous (index + (content.length + 2))
            (others ++ rest) := openerOfLastFrom_previous opened '"' previous _ _
      _ = openerOfLastFrom opened false previous (index + (content.length + 2) + others.length)
            rest := ih nests previous _ more
      _ = openerOfLastFrom opened false previous
            (index + ('"' :: (content ++ '"' :: others)).length) rest := by rw [length]
  | @bracket p opener closer inner others closes _ _ ihInner ih =>
    have opens : openerOfLastFrom opened false previous index
          (opener :: (inner ++ closer :: (others ++ rest))) =
        openerOfLastFrom ((closer, index) :: opened) false previous (index + 1)
          (inner ++ closer :: (others ++ rest)) := by
      have quote : (opener == '"') = false := beq_eq_false_iff_ne.2 (opener_ne_quote closes)
      simp only [openerOfLastFrom, quotedAfter, quote, closes]
      exact openerOfLastFrom_previous ..
    have nests' : ∀ entry ∈ (closer, index) :: opened, isPlain entry.1 = false := by
      intro entry member
      rcases List.mem_cons.1 member with rfl | outer
      · exact isPlain_closer closes
      · exact nests entry outer
    have closed : ∀ place, openerOfLastFrom ((closer, index) :: opened) false previous place
          (closer :: (others ++ rest)) =
        openerOfLastFrom opened false previous (place + 1) (others ++ rest) := by
      intro place
      have quote : (closer == '"') = false := beq_eq_false_iff_ne.2 (closer_ne_quote closes)
      -- Text follows the closing bracket, so it is not the one that ends the text.
      have inside : (others ++ rest).isEmpty = false := by simp [more]
      simp only [openerOfLastFrom, quotedAfter, quote, closerOf?_closer closes, inside]
      simpa using openerOfLastFrom_previous ..
    have length : index + 1 + inner.length + 1 + others.length =
        index + (opener :: (inner ++ closer :: others)).length := by
      simp only [List.length_cons, List.length_append]
      omega
    calc openerOfLastFrom opened false previous index
          (opener :: (inner ++ closer :: others) ++ rest)
        = openerOfLastFrom ((closer, index) :: opened) false previous (index + 1)
            (inner ++ closer :: (others ++ rest)) := by
          rw [List.cons_append, List.append_assoc, List.cons_append, opens]
      _ = openerOfLastFrom ((closer, index) :: opened) false previous (index + 1 + inner.length)
            (closer :: (others ++ rest)) := ihInner nests' previous (index + 1) (by simp)
      _ = openerOfLastFrom opened false previous (index + 1 + inner.length + 1)
            (others ++ rest) := closed _
      _ = openerOfLastFrom opened false previous (index + 1 + inner.length + 1 + others.length)
            rest := ih nests previous _ more
      _ = openerOfLastFrom opened false previous
            (index + (opener :: (inner ++ closer :: others)).length) rest := by rw [length]

/-! ## Round brackets -/

theorem roundDepth_of_ne {c : Char} (isOther : c ≠ '(' ∧ c ≠ ')') (depth : Nat) :
    roundDepth depth c = depth := by
  simp [roundDepth, isOther.1, isOther.2]

theorem foldl_roundDepth_content {content : List Char} (isContent : IsContent content)
    (depth : Nat) : content.foldl roundDepth depth = depth := by
  induction content with
  | nil => rfl
  | cons c content ih =>
    rw [List.foldl_cons, roundDepth_of_ne isContent.ne_round]
    exact ih isContent.of_cons

/-- Nested text leaves as many round brackets open as there were. -/
theorem foldl_roundDepth_nested {p : Char → Bool} {cs : List Char} (h : Nested p cs)
    (depth : Nat) : cs.foldl roundDepth depth = depth := by
  induction h generalizing depth with
  | nil => rfl
  | @plain p c rest isPlain _ _ ih =>
    have other : c ≠ '(' ∧ c ≠ ')' := ⟨ne_of_isPlain isPlain rfl, ne_of_isPlain isPlain rfl⟩
    rw [List.foldl_cons, roundDepth_of_ne other]
    exact ih depth
  | quoted isContent _ ih =>
    rw [List.foldl_cons, List.foldl_append, roundDepth_of_ne (by decide),
      foldl_roundDepth_content isContent, List.foldl_cons, roundDepth_of_ne (by decide)]
    exact ih depth
  | bracket closes _ _ ihInner ih =>
    rw [List.foldl_cons, List.foldl_append, List.foldl_cons, ihInner]
    -- Only round brackets are counted, and these add one and take one back.
    rcases closerOf?_cases closes with ⟨rfl, rfl⟩ | ⟨rfl, rfl⟩ | ⟨rfl, rfl⟩ <;>
      simpa [roundDepth] using ih depth

theorem closesEarly_cons_of_ne {c : Char} (isOther : c ≠ '(' ∧ c ≠ ')') {depth : Nat}
    (inside : 0 < depth) (rest : List Char) :
    closesEarly depth (c :: rest) = closesEarly depth rest := by
  have deep : (depth == 0) = false := beq_eq_false_iff_ne.2 (by omega)
  simp [closesEarly, roundDepth_of_ne isOther, deep]

theorem closesEarly_content {content : List Char} (isContent : IsContent content) {depth : Nat}
    (inside : 0 < depth) (rest : List Char) :
    closesEarly depth (content ++ rest) = closesEarly depth rest := by
  induction content with
  | nil => rfl
  | cons c content ih =>
    rw [List.cons_append, closesEarly_cons_of_ne isContent.ne_round inside]
    exact ih isContent.of_cons

/-- No open round bracket closes within nested text. -/
theorem closesEarly_nested {p : Char → Bool} {cs : List Char} (h : Nested p cs) {depth : Nat}
    (inside : 0 < depth) (rest : List Char) :
    closesEarly depth (cs ++ rest) = closesEarly depth rest := by
  induction h generalizing depth rest with
  | nil => rfl
  | @plain p c others isPlain _ _ ih =>
    have other : c ≠ '(' ∧ c ≠ ')' := ⟨ne_of_isPlain isPlain rfl, ne_of_isPlain isPlain rfl⟩
    rw [List.cons_append, closesEarly_cons_of_ne other inside]
    exact ih inside rest
  | quoted isContent _ ih =>
    rw [List.cons_append, List.append_assoc, List.cons_append,
      closesEarly_cons_of_ne (by decide) inside, closesEarly_content isContent inside,
      closesEarly_cons_of_ne (by decide) inside]
    exact ih inside rest
  | @bracket p opener closer inner others closes _ _ ihInner ih =>
    rw [List.cons_append, List.append_assoc, List.cons_append]
    have deep : (depth == 0) = false := beq_eq_false_iff_ne.2 (by omega)
    rcases closerOf?_cases closes with ⟨rfl, rfl⟩ | other
    -- Inside a round bracket the depth is greater still, and behind it what it was.
    · have opened : closesEarly depth ('(' :: (inner ++ ')' :: (others ++ rest))) =
          closesEarly (depth + 1) (inner ++ ')' :: (others ++ rest)) := by
        simp [closesEarly, roundDepth]
      have closed : closesEarly (depth + 1) (')' :: (others ++ rest)) =
          closesEarly depth (others ++ rest) := by
        simp [closesEarly, roundDepth, deep]
      rw [opened, ihInner (by omega), closed, ih inside]
    · have notRound : (opener ≠ '(' ∧ opener ≠ ')') ∧ closer ≠ '(' ∧ closer ≠ ')' := by
        rcases other with ⟨rfl, rfl⟩ | ⟨rfl, rfl⟩ <;> decide
      rw [closesEarly_cons_of_ne notRound.1 inside, ihInner inside,
        closesEarly_cons_of_ne notRound.2 inside, ih inside]

end Expr
end AccountAudit
