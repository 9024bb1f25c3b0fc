import AccountAudit.Expr.Parser
import AccountAudit.Proofs.Expr.Cut

/-!
# Bare chains

Before a text is taken apart, blanks and round brackets around it and the sign of a borrowed value
in front of it are taken away. What is left of a chain is the text of a chain with the same tree
(`exists_bare`): a bracketed chain leaves the chain in its brackets, and a chain that starts with a
borrowed value leaves the chain that starts with the value.
-/

namespace AccountAudit
namespace Expr

/-- Nothing is dropped around a text that starts with no blank, bracket or borrow sign. -/
theorem bare_of_tight {first : Char} {rest : List Char} (tight : Text.Tight (first :: rest))
    (round : first ≠ '(') (borrow : first ≠ '&') : bare (first :: rest) = first :: rest := by
  have trimmed : Text.trim (first :: rest) = first :: rest :=
    Text.trim_of_tight tight (List.cons_ne_nil first rest)
  have stripped : stripRound (first :: rest) = first :: rest := by
    rw [stripRound_eq, if_neg]
    simp [isEnclosed, round]
  have unmarked : ∀ more, unmarked ('&' :: more) (first :: rest) = first :: rest := by
    intro more
    have apart : ('&' :: more).isPrefixOf (first :: rest) = false := by
      simp [List.isPrefixOf, Ne.symm borrow]
    simp [Expr.unmarked, Text.withoutStart, apart, trimmed]
  unfold bare
  rw [trimmed, stripped, unmarked, unmarked, stripped]

/-- Nothing is dropped around a text that starts with a name and ends with no blank. -/
theorem bare_of_word {cs : List Char} {last : Char}
    (starts : ∃ c rest, cs = c :: rest ∧ Text.startsWord c = true)
    (ends : cs.getLast? = some last) (visible : Text.isBlank last = false) : bare cs = cs := by
  rcases starts with ⟨first, rest, rfl, starts⟩
  have tight : Text.Tight (first :: rest) := by
    constructor
    · intro c head
      obtain rfl : first = c := Option.some.inj head
      exact isBlank_of_isWord (isWord_of_startsWord starts)
    · intro c found
      obtain rfl : last = c := Option.some.inj (ends.symm.trans found)
      exact visible
  exact bare_of_tight tight (ne_of_holds starts (by decide)) (ne_of_holds starts (by decide))

/-- No blanks stand around the chain. -/
structure Chain.IsTight (c : Chain) : Prop where
  before : c.first.before = []
  last : ∀ d, c.text.getLast? = some d → endsOperand d = true

/-- The chain is one operand in round brackets. -/
def Chain.IsParen (c : Chain) : Prop :=
  c.rest = [] ∧ c.first.form = .paren

/-- The chain without the blanks in front of it. -/
def Chain.trimStart (c : Chain) : Chain :=
  { c with first := { c.first with before := [] } }

namespace Chain

variable {c : Chain}

/-- Another operand may take the place of the first one. -/
theorem IsWritten.replaceFirst {t u : Term} {rest : List (BinaryOp × Term)}
    (h : (Chain.mk t rest).IsWritten) (operand : IsOperand u.form u.text u.tree)
    (blank : isGap u.before = true) (same : u.after = t.after)
    (unmut : ¬ mutSign <+: t.text ++ t.after → ¬ mutSign <+: u.text ++ u.after) :
    (Chain.mk u rest).IsWritten := by
  rcases h with ⟨operands, ⟨before, after⟩, first, others⟩
  simp only [terms, List.forall_mem_cons] at operands before after
  exact
    { operands := List.forall_mem_cons.2 ⟨operand, operands.2⟩
      spaced :=
        { before := List.forall_mem_cons.2 ⟨blank, before.2⟩
          after := List.forall_mem_cons.2 ⟨same ▸ after.1, after.2⟩
          first := fun some => unmut (first some)
          others } }

theorem IsWritten.trimStart (h : c.IsWritten) : c.trimStart.IsWritten :=
  h.replaceFirst (h.operands c.first List.mem_cons_self) rfl rfl id

theorem text_trimStart (c : Chain) : c.text = c.first.before ++ c.trimStart.text := by
  simp [trimStart, text, Term.written]

/-- The last operand of a chain, without the blanks behind it, ends the chain as an operand ends. -/
theorem endsOperand_of_text {form : Form} (front : List Char) {text : List Char}
    (h : OperandText form text) :
    ∀ d, (front ++ text ++ []).getLast? = some d → endsOperand d = true := by
  intro d found
  rw [List.append_nil] at found
  exact getLast?_append_text h d found

/-- The chain without the blanks behind it. -/
theorem IsWritten.exists_trimEnd (h : c.IsWritten) : ∃ (d : Chain) (gap : List Char),
    d.IsWritten ∧ d.first.before = c.first.before ∧ isGap gap = true ∧ c.text = d.text ++ gap ∧
      d.tree = c.tree ∧ ∀ e, d.text.getLast? = some e → endsOperand e = true := by
  rcases c with ⟨first, rest⟩
  rcases h with ⟨operands, ⟨before, after⟩, start, others⟩
  rcases List.eq_nil_or_concat rest with rfl | ⟨init, ⟨op, t⟩, rfl⟩
  · simp only [terms, List.map_nil, List.forall_mem_singleton] at operands before after
    refine ⟨⟨{ first with after := [] }, []⟩, first.after, ⟨?_, ⟨?_, ?_⟩, by simp, .nil⟩, rfl, after,
      ?_, rfl, ?_⟩
    · simpa [terms] using operands
    · simpa [terms] using before
    · simp [terms, isGap]
    · simp [text, written, Term.written]
    · simpa [text, written, Term.written] using
        endsOperand_of_text first.before (operandText operands)
  · have terms : ∀ t : Term, (Chain.mk first (init.concat (op, t))).terms =
        (Chain.mk first init).terms ++ [t] := by simp [Chain.terms]
    have text : ∀ t : Term, (Chain.mk first (init.concat (op, t))).text =
        (Chain.mk first init).text ++ op.chars ++ t.written := by
      simp [Chain.text, written]
    rw [terms] at operands before after
    simp only [List.forall_mem_append, List.forall_mem_singleton] at operands before after
    refine ⟨⟨first, init.concat (op, { t with after := [] })⟩, t.after,
      ⟨?_, ⟨?_, ?_⟩, fun _ => start (by simp), ?_⟩, rfl, after.2, ?_, ?_, ?_⟩
    · rw [terms, List.forall_mem_append, List.forall_mem_singleton]
      exact operands
    · rw [terms, List.forall_mem_append, List.forall_mem_singleton]
      exact before
    · rw [terms, List.forall_mem_append, List.forall_mem_singleton]
      exact ⟨after.1, rfl⟩
    · -- Of the last operand only the operator in front of it matters to the one before it.
      rw [List.concat_eq_append, List.isChain_append] at others ⊢
      refine ⟨others.1, .singleton _, fun joined inside next found => ?_⟩
      obtain rfl : (op, { t with after := [] }) = next := by simpa using found
      exact others.2.2 joined inside (op, t) (by simp)
    · rw [text, text]
      simp [Term.written]
    · simp [tree]
    · rw [text]
      simpa [Term.written] using endsOperand_of_text
        ((Chain.mk first init).text ++ op.chars ++ t.before) (operandText operands.2)

theorem IsTight.tight (tight : c.IsTight) (h : c.IsWritten) : Text.Tight c.text where
  head := by
    rcases (operandText (h.operands c.first List.mem_cons_self)).head with
      ⟨d, more, text, starts, -⟩
    intro e found
    have shape : c.text = d :: (more ++ c.first.after ++ written c.rest) := by
      simp [Chain.text, Term.written, tight.before, text]
    obtain rfl : d = e := by simpa [shape] using found
    exact isBlank_of_startsOperand starts
  last := fun d found => isBlank_of_endsOperand (tight.last d found)

theorem IsWritten.text_ne_nil (h : c.IsWritten) : c.text ≠ [] := by
  rcases (chainText (isScanned h)).some with ⟨d, inside, -⟩
  exact List.ne_nil_of_mem inside

/-- Trimming the text of a chain leaves the text of a chain. -/
theorem IsWritten.exists_trim (h : c.IsWritten) : ∃ d : Chain, d.IsWritten ∧ d.IsTight ∧
    Text.trim c.text = d.text ∧ d.tree = c.tree := by
  rcases h.trimStart.exists_trimEnd with ⟨d, gap, written, before, blank, text, tree, last⟩
  have tight : d.IsTight := ⟨before, last⟩
  refine ⟨d, written, tight, ?_, tree⟩
  have blankFront : isGap c.first.before = true := h.spaced.before c.first List.mem_cons_self
  rw [c.text_trimStart, text, ← List.append_assoc]
  exact Text.trim_pad blankFront blank (tight.tight written) written.text_ne_nil

end Chain

/-! ## Round brackets -/

theorem closesEarly_of_nested {inner : List Char} (nested : Nested (fun _ => true) inner) :
    closesEarly 0 ('(' :: inner ++ [')']) = false := by
  have opened : closesEarly 0 ('(' :: (inner ++ [')'])) = closesEarly 1 (inner ++ [')']) := by
    simp [closesEarly, roundDepth]
  rw [List.cons_append, opened, closesEarly_nested nested (by decide)]
  simp [closesEarly]

theorem isEnclosed_of_nested {inner : List Char} (nested : Nested (fun _ => true) inner) :
    isEnclosed ('(' :: inner ++ [')']) = true := by
  rw [isEnclosed, closesEarly_of_nested nested, List.getLast?_concat]
  rfl

/-- A round bracket that closes before the end encloses nothing. -/
theorem isEnclosed_of_closes {inner rest : List Char} (nested : Nested (fun _ => true) inner)
    (more : rest ≠ []) : isEnclosed ('(' :: inner ++ ')' :: rest) = false := by
  have opened : closesEarly 0 ('(' :: (inner ++ ')' :: rest)) =
      closesEarly 1 (inner ++ ')' :: rest) := by simp [closesEarly, roundDepth]
  have closed : closesEarly 1 (')' :: rest) = true := by simp [closesEarly, roundDepth, more]
  rw [List.cons_append, isEnclosed, opened, closesEarly_nested nested (by decide), closed]
  simp

namespace Chain

variable {c : Chain}

theorem written_ne_nil {rest : List (BinaryOp × Term)} (some : rest ≠ []) : written rest ≠ [] := by
  rcases List.exists_cons_of_ne_nil some with ⟨⟨op, t⟩, more, rfl⟩
  simp [written, op.chars_ne_nil]

theorem IsTight.text_eq (tight : c.IsTight) :
    c.text = c.first.text ++ (c.first.after ++ written c.rest) := by
  simp [text, Term.written, tight.before]

/-- Nothing stands behind the operand of a chain of one. -/
theorem IsTight.text_of_single (tight : c.IsTight) (h : c.IsWritten) (single : c.rest = []) :
    c.first.after = [] ∧ c.text = c.first.text := by
  have none : c.first.after = [] := by
    by_contra some
    have blank : isGap c.first.after = true := h.spaced.after c.first List.mem_cons_self
    have last : c.text.getLast? = c.first.after.getLast? := by
      rw [tight.text_eq, single]
      simp [written, List.getLast?_append_of_ne_nil _ some]
    have found := List.getLast?_eq_getLast_of_ne_nil some
    have ends := tight.last _ (last.trans found)
    have visible := isBlank_of_endsOperand ends
    have hidden := List.all_eq_true.1 blank _ (List.getLast_mem some)
    rw [visible] at hidden
    cases hidden
  exact ⟨none, by rw [tight.text_eq, none, single]; simp [written]⟩

/-- Only round brackets around all of the chain enclose it. -/
theorem IsTight.isEnclosed_eq_false (tight : c.IsTight) (h : c.IsWritten) (bare : ¬ c.IsParen) :
    isEnclosed c.text = false := by
  have operand := operandText (h.operands c.first List.mem_cons_self)
  rcases operand.head with ⟨d, more, text, -⟩
  -- If the text starts with a round bracket, it is the one of the first operand, and something
  -- follows where it closes.
  by_cases round : d = '('
  · subst round
    rcases operand.round more text with ⟨inner, others, rfl, nested, paren⟩
    have behind : others ++ (c.first.after ++ written c.rest) ≠ [] := by
      intro nothing
      rcases List.append_eq_nil_iff.1 nothing with ⟨rfl, nothing'⟩
      have single : c.rest = [] := by
        by_contra some
        exact written_ne_nil some (List.append_eq_nil_iff.1 nothing').2
      exact bare ⟨single, paren rfl⟩
    rw [tight.text_eq, text]
    simpa using isEnclosed_of_closes nested behind
  · rw [tight.text_eq, text, isEnclosed]
    simp [round]

/-- Brackets around all of a chain leave the chain in them. -/
theorem IsWritten.exists_stripRound (h : c.IsWritten) : ∃ d : Chain, d.IsWritten ∧ d.IsTight ∧
    stripRound (Text.trim c.text) = d.text ∧ d.tree = c.tree ∧ ¬ d.IsParen := by
  generalize size : c.text.length = n
  induction n using Nat.strongRecOn generalizing c with
  | ind n ih =>
    rcases h.exists_trim with ⟨d, written, tight, trimmed, tree⟩
    rw [trimmed]
    -- Brackets are taken away until the chain is not one operand in brackets.
    by_cases paren : d.IsParen
    · rcases paren with ⟨single, form⟩
      have operand := written.operands d.first List.mem_cons_self
      rcases tight.text_of_single written single with ⟨-, text⟩
      have tree' : d.tree = d.first.tree := by
        rw [Chain.tree, single]
        rfl
      rw [form] at operand
      generalize d.first.text = raw, d.first.tree = value at *
      cases operand with
      | @paren e operands spaced =>
        have shorter : e.text.length < n := by
          have le := Text.length_trim_le c.text
          rw [trimmed, text] at le
          simp only [List.length_append, List.length_cons, List.length_nil] at le
          omega
        rcases ih _ shorter ⟨operands, spaced⟩ rfl with
          ⟨d', written', tight', stripped, tree'', bare⟩
        have nested := (chainText (isScanned ⟨operands, spaced⟩)).nested.imp
          (q := fun _ => true) fun _ _ => rfl
        have inner : inside ('(' :: e.text ++ [')']) = e.text := by simp [Expr.inside]
        refine ⟨d', written', tight', ?_, ?_, bare⟩
        · rw [text, stripRound_eq, if_pos (isEnclosed_of_nested nested), inner, stripped]
        · rw [tree'', ← tree', tree]
    · refine ⟨d, written, tight, ?_, tree, paren⟩
      rw [stripRound_eq, tight.isEnclosed_eq_false written paren]
      rfl

end Chain

/-! ## Borrowed values -/

/-- No operand starts with the sign of a mutably borrowed value. -/
theorem unmut_of_isOperand {form : Form} {text : List Char} {tree : Expr}
    (h : IsOperand form text tree) : ¬ mutSign <+: text := by
  rcases (operandText h).head with ⟨d, more, rfl, -, borrows⟩
  intro sign
  obtain rfl : '&' = d := (List.cons_prefix_cons.1 sign).1
  obtain rfl := borrows rfl
  generalize shape : '&' :: more = text at h sign
  cases h with
  | borrow _ _ unmut _ => exact unmut sign

/-- An operator does not complete the sign of a mutably borrowed value. -/
theorem unmut_append_op {d : Char} {more rest : List Char} (op : BinaryOp)
    (unmut : ¬ mutSign <+: d :: more) : ¬ mutSign <+: d :: more ++ (op.chars ++ rest) := by
  have apart : ∀ e ∈ op.chars, e ∉ ['m', 'u', 't', ' '] := by
    cases op <;> simp [BinaryOp.chars]
  intro sign
  -- The sign would have to end in the operator, but no operator has a character of it there.
  rcases List.prefix_or_prefix_of_prefix sign (List.prefix_append (d :: more) _) with whole | part
  · exact unmut whole
  · rcases part with ⟨behind, shape⟩
    rw [← shape, List.prefix_append_right_inj] at sign
    have tail : more ++ behind = ['m', 'u', 't', ' '] := (List.cons.inj shape).2
    cases behind with
    | nil => exact unmut ⟨[], by simpa using shape.symm⟩
    | cons e others =>
      rcases List.exists_cons_of_ne_nil op.chars_ne_nil with ⟨o, os, chars⟩
      rw [chars, List.cons_append] at sign
      obtain rfl : e = o := (List.cons_prefix_cons.1 sign).1
      have inside : e ∈ ['m', 'u', 't', ' '] := by
        rw [← tail]
        simp
      exact apart e (by simp [chars]) inside

namespace Chain

variable {c : Chain}

/-- A chain without blanks in front does not start with the sign of a mutably borrowed value. -/
theorem IsTight.unmut (tight : c.IsTight) (h : c.IsWritten) : ¬ mutSign <+: c.text := by
  have operand := h.operands c.first List.mem_cons_self
  cases rest : c.rest with
  | nil =>
    rw [(tight.text_of_single h rest).2]
    exact unmut_of_isOperand operand
  | cons joined more =>
    rcases joined with ⟨op, t⟩
    rcases (operandText operand).head with ⟨d, others, text, -⟩
    have unmut := h.spaced.first (by simp [rest])
    have behind : written ((op, t) :: more) = op.chars ++ (t.written ++ written more) := by
      simp [written]
    rw [tight.text_eq, rest, behind, ← List.append_assoc, text]
    rw [text] at unmut
    exact unmut_append_op op unmut

/-- Without the sign of a borrowed value in front of it, the text of a chain is the text of a chain
with the same tree. -/
theorem IsTight.exists_unborrowed (tight : c.IsTight) (h : c.IsWritten) (bare : ¬ c.IsParen) :
    ∃ d : Chain, d.IsWritten ∧ d.IsTight ∧ unmarked ['&'] c.text = d.text ∧ d.tree = c.tree ∧
      ¬ d.IsParen ∧ d.first.form ≠ .borrow := by
  rcases c with ⟨⟨form, text, tree, before, after⟩, rest⟩
  obtain rfl : before = [] := tight.before
  have whole : (Chain.mk ⟨form, text, tree, [], after⟩ rest).text =
      text ++ (after ++ written rest) := tight.text_eq
  have operand : IsOperand form text tree := h.operands _ List.mem_cons_self
  by_cases borrowed : form = .borrow
  · subst borrowed
    -- The sign goes, and the operand behind it becomes the first one.
    cases operand with
    | @borrow gap text form _ isBorrowable blank _ operand =>
      have facts := operandText operand
      rcases facts.head with ⟨d, more, start, -, borrows⟩
      have notBorrow : form ≠ .borrow := by
        rintro rfl
        cases isBorrowable
      have notParen : form ≠ .paren := by
        rintro rfl
        cases isBorrowable
      have unmut : ¬ mutSign <+: text ++ after := by
        intro sign
        rw [start] at sign
        exact notBorrow (borrows (List.cons_prefix_cons.1 sign).1.symm)
      have written' : (Chain.mk ⟨form, text, tree, [], after⟩ rest).IsWritten :=
        h.replaceFirst operand rfl rfl fun _ => unmut
      have behind : (Chain.mk ⟨form, text, tree, [], after⟩ rest).text =
          text ++ (after ++ written rest) := by simp [Chain.text, Term.written]
      have tight' : (Chain.mk ⟨form, text, tree, [], after⟩ rest).IsTight := by
        refine ⟨rfl, fun e found => tight.last e ?_⟩
        rw [whole, List.append_assoc, ← behind, List.getLast?_append_of_ne_nil _
          written'.text_ne_nil, found]
      refine ⟨_, written', tight', ?_, rfl, fun paren => notParen paren.2, notBorrow⟩
      have front : Text.withoutStart ['&'] ('&' :: gap ++ text ++ (after ++ written rest)) =
          gap ++ (text ++ (after ++ written rest)) := by simp [Text.withoutStart]
      rw [whole, unmarked, front, ← behind]
      exact Text.trim_pad_front blank (tight'.tight written') written'.text_ne_nil
  · refine ⟨_, h, tight, ?_, rfl, bare, borrowed⟩
    rcases (operandText operand).head with ⟨d, more, rfl, -, borrows⟩
    have other : ('&' == d) = false := by
      rw [beq_eq_false_iff_ne]
      rintro rfl
      exact borrowed (borrows rfl)
    have front : Text.withoutStart ['&'] (d :: more ++ (after ++ written rest)) =
        d :: more ++ (after ++ written rest) := by simp [Text.withoutStart, List.isPrefixOf, other]
    rw [whole, unmarked, front, ← whole]
    exact Text.trim_of_tight (tight.tight h) h.text_ne_nil

end Chain

/-- What is left of a chain is the text of a chain with the same tree. -/
theorem exists_bare {c : Chain} (h : c.IsWritten) : ∃ d : Chain, d.IsWritten ∧ d.IsTight ∧
    bare c.text = d.text ∧ d.tree = c.tree ∧ ¬ d.IsParen ∧ d.first.form ≠ .borrow := by
  rcases h.exists_stripRound with ⟨d, written, tight, stripped, tree, notParen⟩
  obtain ⟨e, written', tight', unborrowed, tree', notParen', notBorrow⟩ :=
    tight.exists_unborrowed written notParen
  refine ⟨e, written', tight', ?_, tree'.trans tree, notParen', notBorrow⟩
  -- Of the two signs only `&` can be there.
  have unmut : unmarked mutSign d.text = d.text := by
    rw [unmarked, Text.withoutStart, if_neg (by simpa using tight.unmut written)]
    exact Text.trim_of_tight (tight.tight written) written.text_ne_nil
  have unenclosed : stripRound e.text = e.text := by
    rw [stripRound_eq, tight'.isEnclosed_eq_false written' notParen']
    rfl
  calc bare c.text
      = stripRound (unmarked ['&'] (unmarked mutSign (stripRound (Text.trim c.text)))) := by
        rw [bare, ← mutSign]
    _ = stripRound (unmarked ['&'] d.text) := by rw [stripped, unmut]
    _ = stripRound e.text := by rw [unborrowed]
    _ = e.text := unenclosed

end Expr
end AccountAudit
