import AccountAudit.Expr.Parser
import Mathlib.Data.List.Infix

/-!
# Inside and outside string literals

Which characters of a text lie in a string literal is told by the quotes in front of them. A quote
behind a backslash does not end a literal, and a backslash behind a backslash is no sign (`Quoting`).
The reader of expressions tells it in two ways. Operators are looked for in this way; commas and
brackets are looked for with an eye on the character before, so that any backslash hides a quote
(`Glance`).

Both agree on texts without `\"` (`isClosed_of_unescaped`), and on texts made of closed string literals
and other characters, if the second way ends outside (`Paired.isClosed`).
-/

namespace AccountAudit
namespace Expr

/-! ## The state of a text -/

/-- Where a place in a text lies: outside string literals, in one, or in one behind a backslash. -/
inductive Quoting where
  | outside
  | inside
  | escaped
  deriving DecidableEq, Repr

namespace Quoting

/-- Where the place behind a character lies. -/
def after : Quoting → Char → Quoting
  | outside, c => if c = '"' then inside else outside
  | inside, c => if c = '\\' then escaped else if c = '"' then outside else inside
  | escaped, _ => inside

/-- Where the place behind a text lies. -/
def through (state : Quoting) (cs : List Char) : Quoting :=
  cs.foldl after state

@[simp]
theorem through_nil (state : Quoting) : state.through [] = state :=
  rfl

@[simp]
theorem through_cons (state : Quoting) (c : Char) (cs : List Char) :
    state.through (c :: cs) = (state.after c).through cs :=
  rfl

@[simp]
theorem through_append (state : Quoting) (cs ds : List Char) :
    state.through (cs ++ ds) = (state.through cs).through ds :=
  List.foldl_append

theorem through_outside {cs : List Char} (quoteless : '"' ∉ cs) : outside.through cs = outside := by
  induction cs with
  | nil => rfl
  | cons c rest ih =>
    rw [List.mem_cons, not_or] at quoteless
    rw [through_cons, after, if_neg (Ne.symm quoteless.1)]
    exact ih quoteless.2

/-- Without a quote nothing ends a literal. -/
theorem through_ne_outside {state : Quoting} {cs : List Char} (quoted : state ≠ outside)
    (quoteless : '"' ∉ cs) : state.through cs ≠ outside := by
  induction cs generalizing state with
  | nil => exact quoted
  | cons c rest ih =>
    rw [List.mem_cons, not_or] at quoteless
    rw [through_cons]
    refine ih ?_ quoteless.2
    cases state with
    | outside => exact absurd rfl quoted
    | inside =>
      rw [after, if_neg (Ne.symm quoteless.1)]
      split <;> simp
    | escaped => simp [after]

/-- In a literal without quotes only a backslash at its end is a sign. -/
theorem through_inside {cs : List Char} (quoteless : '"' ∉ cs) :
    inside.through cs = inside ∨ inside.through cs = escaped ∧ cs.getLast? = some '\\' := by
  induction cs using List.reverseRecOn with
  | nil => exact .inl rfl
  | append_singleton front c ih =>
    rw [List.mem_append, not_or, List.mem_singleton] at quoteless
    rw [through_append, through_cons, through_nil]
    rcases ih quoteless.1 with still | ⟨behind, -⟩
    · by_cases sign : c = '\\'
      · subst sign
        exact .inr ⟨by rw [still]; rfl, List.getLast?_concat⟩
      · rw [still, after, if_neg sign, if_neg (Ne.symm quoteless.2)]
        exact .inl rfl
    · rw [behind]
      exact .inl rfl

end Quoting

/-- All string literals of the text end in it. -/
def IsClosed (cs : List Char) : Prop :=
  Quoting.outside.through cs = .outside

theorem isClosed_nil : IsClosed [] :=
  rfl

theorem isClosed_of_quoteless {cs : List Char} (quoteless : '"' ∉ cs) : IsClosed cs :=
  Quoting.through_outside quoteless

/-- Behind a text whose literals end in it, literals start as at the start of a text. -/
theorem IsClosed.append_iff {cs ds : List Char} (closed : IsClosed cs) :
    IsClosed (cs ++ ds) ↔ IsClosed ds := by
  rw [IsClosed, Quoting.through_append, closed, IsClosed]

/-! ## Looking at the character before -/

/-- Whether a literal is open, and the character before. -/
abbrev Glance := Bool × Char

namespace Glance

/-- What is seen behind a character. -/
def after (glance : Glance) (c : Char) : Glance :=
  (quotedAfter glance.1 glance.2 c, c)

/-- What is seen behind a text. -/
def through (glance : Glance) (cs : List Char) : Glance :=
  cs.foldl after glance

@[simp]
theorem through_nil (glance : Glance) : glance.through [] = glance :=
  rfl

@[simp]
theorem through_cons (glance : Glance) (c : Char) (cs : List Char) :
    glance.through (c :: cs) = (glance.after c).through cs :=
  rfl

@[simp]
theorem through_append (glance : Glance) (cs ds : List Char) :
    glance.through (cs ++ ds) = (glance.through cs).through ds :=
  List.foldl_append

/-- Outside literals any quote starts one. -/
theorem after_outside (previous c : Char) : after (false, previous) c = (c == '"', c) :=
  rfl

/-- Outside literals the character before does not matter. -/
theorem through_outside_congr (p q : Char) (cs : List Char) :
    (through (false, p) cs).1 = (through (false, q) cs).1 := by
  cases cs <;> rfl

/-- Without a quote no literal starts or ends. -/
theorem fst_through {glance : Glance} {cs : List Char} (quoteless : '"' ∉ cs) :
    (glance.through cs).1 = glance.1 := by
  induction cs generalizing glance with
  | nil => rfl
  | cons c rest ih =>
    rw [List.mem_cons, not_or] at quoteless
    have other : (c == '"') = false := by simpa using Ne.symm quoteless.1
    rw [through_cons, ih quoteless.2, after]
    cases h : glance.1 <;> simp [quotedAfter, other, bne]

theorem snd_through {glance : Glance} {cs : List Char} {c : Char} (last : cs.getLast? = some c) :
    (glance.through cs).2 = c := by
  rcases List.getLast?_eq_some_iff.1 last with ⟨front, rfl⟩
  rw [through_append]
  rfl

end Glance

/-! ## Texts without escaped quotes -/

/-- No quote stands behind a backslash. -/
def Unescaped (cs : List Char) : Prop :=
  ¬ ['\\', '"'] <:+: cs

theorem Unescaped.mono {cs ds : List Char} (h : Unescaped ds) (part : cs <:+: ds) : Unescaped cs :=
  fun inside => h (inside.trans part)

/-- Without escaped quotes both ways see the same literals. -/
theorem fst_through_iff {state : Quoting} {glance : Glance} {cs : List Char}
    (unescaped : Unescaped (glance.2 :: cs)) (same : glance.1 = true ↔ state ≠ .outside)
    (escaped : state = .escaped → glance.2 = '\\') :
    (glance.through cs).1 = true ↔ state.through cs ≠ .outside := by
  -- The two states go in step; a hidden quote would be the only difference between them.
  induction cs generalizing state glance with
  | nil => exact same
  | cons c rest ih =>
    rcases glance with ⟨quoted, previous⟩
    rw [Glance.through_cons, Quoting.through_cons]
    refine ih (unescaped.mono (List.suffix_cons _ _).isInfix) ?_ ?_
    · by_cases quote : c = '"'
      · subst quote
        have visible : previous ≠ '\\' := by
          rintro rfl
          exact unescaped (List.prefix_append ['\\', '"'] rest).isInfix
        cases state with
        | outside =>
          obtain rfl : quoted = false := by simpa using same
          simp [Glance.after, quotedAfter, Quoting.after]
        | inside =>
          obtain rfl : quoted = true := same.2 (by simp)
          simp [Glance.after, quotedAfter, Quoting.after, visible]
        | escaped => exact absurd (escaped rfl) visible
      · have stays : (Glance.after (quoted, previous) c).1 = quoted := by
          cases quoted <;> simp [Glance.after, quotedAfter, quote]
        rw [stays, same]
        cases state with
        | outside => simp [Quoting.after, quote]
        | inside => by_cases sign : c = '\\' <;> simp [Quoting.after, quote, sign]
        | escaped => simp [Quoting.after]
    · intro behind
      by_contra other
      cases state with
      | outside => by_cases quote : c = '"' <;> simp [Quoting.after, quote] at behind
      | inside =>
        have sign : c ≠ '\\' := other
        by_cases quote : c = '"' <;> simp [Quoting.after, quote, sign] at behind
      | escaped => simp [Quoting.after] at behind

theorem isClosed_of_unescaped {cs : List Char} (unescaped : Unescaped cs)
    (closed : (Glance.through (false, ' ') cs).1 = false) : IsClosed cs := by
  have plain : Unescaped (' ' :: cs) := by
    intro inside
    rcases List.infix_cons_iff.1 inside with ⟨rest, start⟩ | later
    · simp at start
    · exact unescaped later
  have agree : (Glance.through (false, ' ') cs).1 = true ↔ Quoting.outside.through cs ≠ .outside :=
    fst_through_iff plain (by simp) (by simp)
  rw [closed] at agree
  by_contra open'
  exact absurd (agree.2 open') (by simp)

/-! ## Texts made of string literals and other characters -/

/-- The text is made of string literals without quotes in them, and of characters that are neither
quotes nor backslashes. -/
inductive Paired : List Char → Prop where
  | nil : Paired []
  | char {c : Char} {cs : List Char} (quote : c ≠ '"') (sign : c ≠ '\\') (rest : Paired cs) :
    Paired (c :: cs)
  | literal {content cs : List Char} (quoteless : '"' ∉ content) (rest : Paired cs) :
    Paired ('"' :: (content ++ '"' :: cs))

namespace Paired

variable {cs ds : List Char}

theorem append (h : Paired cs) (h' : Paired ds) : Paired (cs ++ ds) := by
  induction h with
  | nil => exact h'
  | char quote sign _ ih => exact .char quote sign ih
  | literal quoteless _ ih =>
    have longer := Paired.literal quoteless ih
    simpa using longer

theorem of_forall (plain : ∀ c ∈ cs, c ≠ '"' ∧ c ≠ '\\') : Paired cs := by
  induction cs with
  | nil => exact .nil
  | cons c rest ih =>
    rw [List.forall_mem_cons] at plain
    exact .char plain.1.1 plain.1.2 (ih plain.2)

/-- If a literal is taken to be open in front of the text, one is taken to be open behind it. -/
theorem through_open (h : Paired cs) {previous : Char} (visible : previous ≠ '\\') :
    (Glance.through (true, previous) cs).1 = true ∧
      (Glance.through (true, previous) cs).2 ≠ '\\' := by
  induction h generalizing previous with
  | nil => exact ⟨rfl, visible⟩
  | @char c cs quote sign _ ih =>
    have stays : Glance.after (true, previous) c = (true, c) := by
      simp [Glance.after, quotedAfter, quote]
    rw [Glance.through_cons, stays]
    exact ih sign
  | @literal content cs quoteless _ ih =>
    -- The literal is read inside out: its quotes end one literal and start the next.
    have ends : Glance.after (true, previous) '"' = (false, '"') := by
      simp [Glance.after, quotedAfter, visible]
    have starts : ∀ glance : Glance, glance.1 = false → glance.after '"' = (true, '"') := by
      rintro ⟨quoted, d⟩ rfl
      rfl
    have outside : (Glance.through (false, '"') content).1 = false := Glance.fst_through quoteless
    rw [Glance.through_cons, ends, Glance.through_append, Glance.through_cons, starts _ outside]
    exact ih (by decide)

/-- If no literal is taken to be open behind the text, all its literals end in it. Otherwise a literal
is taken to be open, and the text does not end with a backslash. -/
theorem isClosed_or_open (h : Paired cs) (previous : Char) :
    (Glance.through (false, previous) cs).1 = false ∧ IsClosed cs ∨
      (Glance.through (false, previous) cs).1 = true ∧
        (Glance.through (false, previous) cs).2 ≠ '\\' := by
  induction h generalizing previous with
  | nil => exact .inl ⟨rfl, isClosed_nil⟩
  | @char c cs quote sign _ ih =>
    have stays : Glance.after (false, previous) c = (false, c) := by
      simp [Glance.after_outside, quote]
    have single : IsClosed [c] := isClosed_of_quoteless (by simpa using Ne.symm quote)
    have closed : IsClosed (c :: cs) ↔ IsClosed cs := single.append_iff
    rw [Glance.through_cons, stays, closed]
    exact ih c
  | @literal content cs quoteless rest ih =>
    have starts : Glance.after (false, previous) '"' = (true, '"') := rfl
    have opened : (Glance.through (true, '"') content).1 = true := Glance.fst_through quoteless
    rw [Glance.through_cons, starts, Glance.through_append, Glance.through_cons]
    generalize seen : Glance.through (true, '"') content = glance at opened
    rcases glance with ⟨quoted, last⟩
    obtain rfl : quoted = true := opened
    by_cases sign : last = '\\'
    · -- The backslash hides the quote that ends the literal.
      have hidden : Glance.after (true, last) '"' = (true, '"') := by
        simp [Glance.after, quotedAfter, sign]
      rw [hidden]
      exact .inr (rest.through_open (by decide))
    · have ends : Glance.after (true, last) '"' = (false, '"') := by
        simp [Glance.after, quotedAfter, sign]
      have inside : Quoting.inside.through content = .inside := by
        refine (Quoting.through_inside quoteless).resolve_right ?_
        rintro ⟨-, backslash⟩
        have same : (Glance.through (true, '"') content).2 = '\\' := Glance.snd_through backslash
        rw [seen] at same
        exact sign same
      have closed : IsClosed ('"' :: (content ++ '"' :: cs)) ↔ IsClosed cs := by
        have first : Quoting.outside.after '"' = .inside := rfl
        have second : Quoting.inside.after '"' = .outside := rfl
        rw [IsClosed, Quoting.through_cons, first, Quoting.through_append, inside,
          Quoting.through_cons, second, IsClosed]
      rw [ends, closed]
      exact ih '"'

theorem isClosed (h : Paired cs) {previous : Char}
    (closed : (Glance.through (false, previous) cs).1 = false) : IsClosed cs := by
  rcases h.isClosed_or_open previous with ⟨-, closed⟩ | ⟨open', -⟩
  · exact closed
  · rw [closed] at open'
    cases open'

end Paired

end Expr
end AccountAudit
