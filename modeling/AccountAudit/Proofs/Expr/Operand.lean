import AccountAudit.Proofs.Expr.Grammar
import AccountAudit.Proofs.Expr.Token

/-!
# Texts of operands and chains

What the reader relies on when it passes over the text of an operand (`OperandText`) or of a chain
(`ChainText`). Every written operand has these properties (`operandText`): by induction on the
grammar, since an operand holds chains, and these hold operands.

An operand is sealed: where an operand may stand, no operator is found inside it. A minus sign in
front of digits is no operator there, `!` is not followed by `=`, and `&` is not followed by `&`.
-/

namespace AccountAudit
namespace Expr

/-! ## Ranges -/

/-- The text has no `..` and gives none when it is put next to another such text. -/
structure Unranged (cs : List Char) : Prop where
  undotted : Undotted cs
  head : cs.head? ≠ some '.'
  last : cs.getLast? ≠ some '.'

namespace Unranged

theorem of_forall {cs : List Char} (plain : ∀ c ∈ cs, c ≠ '.') : Unranged cs where
  undotted := by
    induction cs with
    | nil => exact .nil
    | cons c rest ih =>
      have undotted : Undotted rest := ih fun d member => plain d (List.mem_cons_of_mem _ member)
      exact undotted.cons fun d _ => .inl (plain c List.mem_cons_self)
  head := fun found => plain '.' (List.mem_of_head? found) rfl
  last := fun found => plain '.' (List.mem_of_getLast? found) rfl

theorem append {as bs : List Char} (ha : Unranged as) (hb : Unranged bs) :
    Unranged (as ++ bs) := by
  refine ⟨?_, ?_, ?_⟩
  · refine List.isChain_append.2 ⟨ha.undotted, hb.undotted, fun a last b _ => .inl ?_⟩
    rintro rfl
    exact ha.last last
  · rw [List.head?_append, Ne, Option.or_eq_some_iff]
    rintro (here | ⟨-, there⟩)
    · exact ha.head here
    · exact hb.head there
  · rw [List.getLast?_append, Ne, Option.or_eq_some_iff]
    rintro (here | ⟨-, there⟩)
    · exact hb.last here
    · exact ha.last there

theorem cons {c : Char} {cs : List Char} (plain : c ≠ '.') (h : Unranged cs) :
    Unranged (c :: cs) :=
  append (of_forall fun _ member => List.mem_singleton.1 member ▸ plain) h

theorem concat {c : Char} {cs : List Char} (plain : c ≠ '.') (h : Unranged cs) :
    Unranged (cs ++ [c]) :=
  append h (of_forall fun _ member => List.mem_singleton.1 member ▸ plain)

end Unranged

/-! ## Blanks -/

theorem blank_facts {c : Char} (blank : Text.isBlank c = true) :
    isPlain c = true ∧ isQuiet c = true ∧ c ≠ '.' ∧ c ≠ ')' ∧ c ≠ '=' ∧ c ≠ '&' ∧ c ≠ '/' ∧
      c ≠ '>' ∧ c ≠ '<' ∧ c ≠ ',' ∧ c ≠ '(' ∧ c ≠ 'm' := by
  refine ⟨?_, ?_, ?_⟩
  · by_contra nests
    simp [(sign_facts c (mem_signs_of_isPlain (by simpa using nests))).2] at blank
  · by_contra loud
    simp [(sign_facts c (mem_signs_of_isQuiet (by simpa using loud))).2] at blank
  · refine ⟨?_, ?_, ?_, ?_, ?_, ?_, ?_, ?_, ?_, ?_⟩ <;> exact ne_of_holds blank (by decide)

theorem nested_gap {gap : List Char} (blank : isGap gap = true) : Nested isQuiet gap := by
  refine .of_forall fun c member => ?_
  have facts := blank_facts (List.all_eq_true.1 blank c member)
  exact ⟨facts.1, facts.2.1⟩

theorem unranged_gap {gap : List Char} (blank : isGap gap = true) : Unranged gap :=
  .of_forall fun c member => (blank_facts (List.all_eq_true.1 blank c member)).2.2.1

/-! ## Places for operands -/

/-- Behind the text, an operand is expected: it ends with an operator, an opening sign or nothing. -/
def AtOperand (seen : List Char) : Prop :=
  ∀ c, (seen.dropWhile Text.isBlank).head? = some c → c ∈ BinaryOp.operandStarts

theorem AtOperand.nil : AtOperand [] := by
  simp [AtOperand]

theorem AtOperand.gap {gap seen : List Char} (blank : isGap gap = true) (h : AtOperand seen) :
    AtOperand (gap.reverse ++ seen) := by
  rw [AtOperand, List.dropWhile_append_of_pos (by simpa [isGap] using blank)]
  exact h

theorem AtOperand.cons {c : Char} (starts : c ∈ BinaryOp.operandStarts) (seen : List Char) :
    AtOperand (c :: seen) := by
  have visible := (sign_facts c (mem_signs_of_operandStarts starts)).2
  intro d found
  obtain rfl : c = d := by simpa [visible] using found
  exact starts

/-- Where an operand may stand, no operator is found in the text. -/
def Sealed (cs : List Char) : Prop :=
  ∀ level seen rest, AtOperand seen →
    splitsFrom level 0 [] false seen (cs ++ rest) =
      splitsFrom level 0 [] false (cs.reverse ++ seen) rest

theorem sealed_of_nested {cs : List Char} (h : Nested isQuiet cs) : Sealed cs :=
  fun level seen rest _ => splitsFrom_quiet h level seen rest

/-- A sign is passed over if no operator stands at it. -/
theorem splitsFrom_sign {level : Level} {c : Char} {seen rest : List Char}
    (plain : isPlain c = true) (none : ∀ op ∈ level.ops, op.standsAt seen (c :: rest) = false) :
    splitsFrom level 0 [] false seen (c :: rest) =
      splitsFrom level 0 [] false (c :: seen) rest := by
  have quote : c ≠ '"' := ne_of_isPlain plain rfl
  have notFound : level.ops.find? (·.standsAt seen (c :: rest)) = Option.none := by
    simpa [List.find?_eq_none] using none
  simp [splitsFrom, quote, closerOf?_of_isPlain plain, notFound]

theorem standsAt_minus {seen : List Char} (h : AtOperand seen) (op : BinaryOp)
    (rest : List Char) : op.standsAt seen ('-' :: rest) = false := by
  unfold BinaryOp.standsAt
  cases op <;> try rfl
  -- Only the subtraction is left: it does not stand behind what an operand can follow.
  cases before : seen.dropWhile Text.isBlank with
  | nil => rfl
  | cons c more =>
    have starts : c ∈ BinaryOp.operandStarts := h c (by rw [before]; rfl)
    simp [BinaryOp.neighboursAdmit, BinaryOp.isAngle, BinaryOp.isArithmetic, starts]

theorem standsAt_bang {rest : List Char} (other : rest.head? ≠ some '=') (op : BinaryOp)
    (seen : List Char) : op.standsAt seen ('!' :: rest) = false := by
  unfold BinaryOp.standsAt
  cases op <;> try rfl
  cases rest with
  | nil => rfl
  | cons c more =>
    have differs : c ≠ '=' := by simpa using other
    simp [BinaryOp.chars, List.isPrefixOf, Ne.symm differs]

theorem standsAt_amp {rest : List Char} (other : rest.head? ≠ some '&') (op : BinaryOp)
    (seen : List Char) : op.standsAt seen ('&' :: rest) = false := by
  unfold BinaryOp.standsAt
  cases op <;> try rfl
  cases rest with
  | nil => rfl
  | cons c more =>
    have differs : c ≠ '&' := by simpa using other
    simp [BinaryOp.chars, List.isPrefixOf, Ne.symm differs]

/-! ## Chains of operands -/

/-- A character that no comma is. -/
def isInline (c : Char) : Bool :=
  c != ','

theorem isInline_of_isQuiet {c : Char} (h : isQuiet c = true) : isInline c = true :=
  bne_iff_ne.2 (ne_of_holds h (by decide))

/-- What is known of the text of an operand. -/
structure OperandText (form : Form) (text : List Char) : Prop where
  head : ∃ c rest, text = c :: rest ∧ startsOperand c = true ∧ (c = '&' → form = .borrow)
  base : form.isBase = true → ∃ c rest, text = c :: rest ∧
    (Text.startsWord c = true ∨ c = '(' ∨ c = '[')
  round : ∀ rest, text = '(' :: rest → ∃ inner more, rest = inner ++ ')' :: more ∧
    Nested (fun _ => true) inner ∧ (more = [] → form = .paren)
  last : ∀ c, text.getLast? = some c → endsOperand c = true
  nested : Nested isInline text
  unranged : Unranged text
  isSealed : Sealed text

namespace OperandText

variable {form : Form} {text : List Char}

theorem ne_nil (h : OperandText form text) : text ≠ [] := by
  rcases h.head with ⟨c, rest, rfl, -⟩
  simp

end OperandText

/-- The operands of a chain have the texts of operands, with blanks around them. -/
structure Chain.IsScanned (c : Chain) : Prop where
  operands : ∀ t ∈ c.terms, OperandText t.form t.text
  gapped : c.Gapped

/-- What is known of the text of a chain. -/
structure ChainText (text : List Char) : Prop where
  head : ∀ c, text.head? = some c → Text.isBlank c = true ∨ startsOperand c = true
  some : ∃ c ∈ text, Text.isBlank c = false
  nested : Nested isInline text
  unranged : Unranged text

theorem gap_facts {gap : List Char} (blank : isGap gap = true) :
    Nested isInline gap ∧ Unranged gap :=
  ⟨(nested_gap blank).imp fun _ => isInline_of_isQuiet, unranged_gap blank⟩

/-- Blanks in front of an operand start as the operand does, if there are none. -/
theorem head_gap {form : Form} {gap text : List Char} (blank : isGap gap = true)
    (operand : OperandText form text) (rest : List Char) : ∃ c more, gap ++ text ++ rest = c :: more ∧
      (Text.isBlank c = true ∨ startsOperand c = true ∧ (c = '&' → form = .borrow)) := by
  cases gap with
  | nil =>
    rcases operand.head with ⟨c, more, rfl, starts, borrows⟩
    exact ⟨c, more ++ rest, rfl, .inr ⟨starts, borrows⟩⟩
  | cons c more =>
    have first : Text.isBlank c = true := List.all_eq_true.1 blank c List.mem_cons_self
    exact ⟨c, more ++ text ++ rest, rfl, .inl first⟩

theorem chainText_written {t : Term} (operand : OperandText t.form t.text)
    (before : isGap t.before = true) (after : isGap t.after = true) : ChainText t.written where
  head := by
    rcases head_gap before operand t.after with ⟨c, more, start, first⟩
    intro d found
    obtain rfl : c = d := by simpa [Term.written, start] using found
    exact first.imp_right And.left
  some := by
    rcases operand.head with ⟨c, rest, text, starts, -⟩
    exact ⟨c, by simp [Term.written, text], isBlank_of_startsOperand starts⟩
  nested := ((gap_facts before).1.append operand.nested).append (gap_facts after).1
  unranged := ((gap_facts before).2.append operand.unranged).append (gap_facts after).2

theorem plain_of_mem_chars {op : BinaryOp} :
    ∀ c ∈ op.chars, isPlain c = true ∧ isInline c = true ∧ c ≠ '.' := by
  cases op <;> simp [BinaryOp.chars, isPlain, isInline]

theorem op_facts (op : BinaryOp) : Nested isInline op.chars ∧ Unranged op.chars := by
  constructor
  · apply Nested.of_forall
    intro c member
    exact ⟨(plain_of_mem_chars c member).1, (plain_of_mem_chars c member).2.1⟩
  · apply Unranged.of_forall
    intro c member
    exact (plain_of_mem_chars c member).2.2

/-- Operands with operators in front of them are nested like one operand. -/
theorem written_facts {rest : List (BinaryOp × Term)}
    (operands : ∀ t ∈ rest.map Prod.snd, OperandText t.form t.text)
    (before : ∀ t ∈ rest.map Prod.snd, isGap t.before = true)
    (after : ∀ t ∈ rest.map Prod.snd, isGap t.after = true) :
    Nested isInline (Chain.written rest) ∧ Unranged (Chain.written rest) := by
  induction rest with
  | nil => exact ⟨.nil _, .of_forall fun _ none => nomatch none⟩
  | cons joined rest ih =>
    rcases joined with ⟨op, t⟩
    simp only [List.map_cons, List.forall_mem_cons] at operands before after
    have first := chainText_written operands.1 before.1 after.1
    have others := ih operands.2 before.2 after.2
    rw [Chain.written, List.flatMap_cons, ← Chain.written]
    exact ⟨((op_facts op).1.append first.nested).append others.1,
      ((op_facts op).2.append first.unranged).append others.2⟩

theorem chainText {c : Chain} (h : c.IsScanned) : ChainText c.text := by
  rcases h with ⟨operands, before, after⟩
  simp only [Chain.terms, List.forall_mem_cons] at operands before after
  have first := chainText_written operands.1 before.1 after.1
  have rest := written_facts operands.2 before.2 after.2
  rcases first.some with ⟨e, inside, visible⟩
  refine ⟨fun d found => ?_, ⟨e, List.mem_append_left _ inside, visible⟩,
    first.nested.append rest.1, first.unranged.append rest.2⟩
  rw [Chain.text, List.head?_append_of_ne_nil _ (List.ne_nil_of_mem inside)] at found
  exact first.head d found

/-! ## Lists of chains -/

theorem listed_cons (c : Chain) (cs : List Chain) (some : cs ≠ []) :
    Chain.listed (c :: cs) = c.text ++ ',' :: Chain.listed cs :=
  intercalate_comma c.text (by simpa using some)

/-- Chains with commas between them are nested, and start as a chain does. -/
theorem listed_facts {cs : List Chain} (some : cs ≠ []) (scanned : ∀ c ∈ cs, c.IsScanned) :
    Nested (fun _ => true) (Chain.listed cs) ∧ Unranged (Chain.listed cs) ∧
      ∃ c rest, Chain.listed cs = c :: rest ∧ (Text.isBlank c = true ∨ startsOperand c = true) := by
  induction cs with
  | nil => exact absurd rfl some
  | cons c cs ih =>
    have text := chainText (scanned c List.mem_cons_self)
    obtain ⟨first, more, start⟩ : ∃ first more, c.text = first :: more := by
      rcases text.some with ⟨d, inside, -⟩
      exact List.exists_cons_of_ne_nil (List.ne_nil_of_mem inside)
    have head := text.head first (by simp [start])
    cases cs with
    | nil =>
      have single : Chain.listed [c] = c.text := by simp [Chain.listed]
      rw [single]
      exact ⟨text.nested.imp fun _ _ => rfl, text.unranged, first, more, start, head⟩
    | cons d rest =>
      obtain ⟨nested, unranged, -⟩ := ih (by simp) fun c member =>
        scanned c (List.mem_cons_of_mem _ member)
      rw [listed_cons c (d :: rest) (by simp)]
      refine ⟨(text.nested.imp fun _ _ => rfl).append (.plain rfl rfl nested),
        text.unranged.append (.cons (by decide) unranged), first,
        more ++ ',' :: Chain.listed (d :: rest), by rw [start]; rfl, head⟩

/-! ## Written operands -/

theorem getLast?_append_singleton {cs : List Char} {c : Char} (ends : endsOperand c = true) :
    ∀ d, (cs ++ [c]).getLast? = some d → endsOperand d = true := by
  intro d found
  obtain rfl : c = d := by simpa using found
  exact ends

theorem getLast?_append_text {form : Form} {front text : List Char} (h : OperandText form text) :
    ∀ d, (front ++ text).getLast? = some d → endsOperand d = true := by
  intro d found
  rw [List.getLast?_append_of_ne_nil _ h.ne_nil] at found
  exact h.last d found

theorem undotted_of_no_range {cs : List Char} (h : ¬ ['.', '.'] <:+: cs) : Undotted cs := by
  induction cs with
  | nil => exact .nil
  | cons c rest ih =>
    have undotted : Undotted rest := by
      apply ih
      intro inside
      exact h (inside.trans (List.suffix_cons c rest).isInfix)
    apply undotted.cons
    intro d next
    -- A point is followed by no other point, or the two would be a range.
    by_cases point : c = '.'
    · right
      rintro rfl
      cases rest with
      | nil => cases next
      | cons e more =>
        obtain rfl : e = '.' := by simpa using next
        subst point
        exact h ⟨[], more, rfl⟩
    · exact .inl point

theorem endsOperand_of_isNamed {c : Char} (h : isNamed c = true) : endsOperand c = true := by
  rw [endsOperand, ← isNamed, h, Bool.true_or]

namespace OperandText

variable {gap text : List Char} {form : Form}

theorem of_isNamed {c : Char} {cs : List Char} (starts : startsOperand c = true)
    (named : ∀ d ∈ c :: cs, isNamed d = true) : OperandText .literal (c :: cs) where
  head := ⟨c, cs, rfl, starts, fun borrows =>
    absurd borrows (ne_of_holds (named c List.mem_cons_self) (by decide))⟩
  base := fun base => absurd base (by decide)
  round := fun rest open' =>
    absurd (List.cons.inj open').1 (ne_of_holds (named c List.mem_cons_self) (by decide))
  last := fun d found => endsOperand_of_isNamed (named d (List.mem_of_getLast? found))
  nested := (nested_of_isNamed named).imp fun _ => isInline_of_isQuiet
  unranged := .of_forall fun d member => ne_of_holds (named d member) (by decide)
  isSealed := sealed_of_nested (nested_of_isNamed named)

/-- A minus sign in front of a number is no operator where an operand is expected. -/
theorem negative {c : Char} {cs : List Char} (named : ∀ d ∈ c :: cs, isNamed d = true) :
    OperandText .literal ('-' :: c :: cs) where
  head := ⟨'-', c :: cs, rfl, by decide, by decide⟩
  base := fun base => absurd base (by decide)
  round := fun rest open' => absurd (List.cons.inj open').1 (by decide)
  last := fun d found =>
    endsOperand_of_isNamed (named d (List.mem_of_getLast? (by simpa using found)))
  nested := .plain rfl rfl ((nested_of_isNamed named).imp fun _ => isInline_of_isQuiet)
  unranged := .cons (by decide) (.of_forall fun d member => ne_of_holds (named d member) (by decide))
  isSealed := by
    intro level seen rest behind
    rw [List.cons_append, splitsFrom_sign rfl fun op _ => standsAt_minus behind op _,
      splitsFrom_quiet (nested_of_isNamed named)]
    simp

theorem of_isPath (isPath : isPath text = true) : OperandText .path text := by
  have facts := pathRest isPath
  rcases facts.head rfl with ⟨c, rest, rfl, starts⟩
  have point : c ≠ '.' := ne_of_holds starts (by decide)
  refine ⟨⟨c, rest, rfl, by simp [startsOperand, starts], ?_⟩, fun _ => ⟨c, rest, rfl, .inl starts⟩,
    ?_, facts.last, facts.nested.imp fun _ => isInline_of_isQuiet,
    ⟨facts.undotted, by simpa using point, ?_⟩, sealed_of_nested facts.nested⟩
  · exact fun borrows => absurd borrows (ne_of_holds starts (by decide))
  · exact fun rest open' => absurd (List.cons.inj open').1 (ne_of_holds starts (by decide))
  · exact fun found => absurd (facts.last '.' found) (by decide)

theorem quoted (bytes : Bool) {content : List Char} (isContent : IsContent content)
    (undotted : ¬ ['.', '.'] <:+: content) : OperandText .literal (quotedText bytes content) := by
  have nested := nested_quotedText bytes isContent
  have literal : Unranged ('"' :: (content ++ ['"'])) := by
    have inner : Undotted (content ++ ['"']) :=
      List.isChain_append.2 ⟨undotted_of_no_range undotted, .singleton _,
        fun _ _ d found => .inr (by
          obtain rfl : '"' = d := by simpa using found
          decide)⟩
    exact ⟨inner.cons fun _ _ => .inl (by decide), by simp,
      by simp [List.getLast?_cons_of_ne_nil]⟩
  have last : ∀ d, (quotedText bytes content).getLast? = some d → endsOperand d = true :=
    getLast?_append_singleton (by decide)
  refine ⟨?_, fun base => absurd base (by decide), ?_, last, nested.imp fun _ => isInline_of_isQuiet, ?_,
    sealed_of_nested nested⟩
  · cases bytes
    · exact ⟨'"', content ++ ['"'], rfl, by decide, by decide⟩
    · exact ⟨'b', '"' :: (content ++ ['"']), rfl, by decide, by decide⟩
  · cases bytes <;> exact fun rest open' => absurd (List.cons.inj open').1 (by decide)
  · cases bytes
    · exact literal
    · exact literal.cons (by decide)

theorem negation (blank : isGap gap = true) (operand : OperandText form text) :
    OperandText .negation ('!' :: gap ++ text) where
  head := ⟨'!', gap ++ text, rfl, by decide, by decide⟩
  base := fun base => absurd base (by decide)
  round := fun rest open' => absurd (List.cons.inj open').1 (by decide)
  last := getLast?_append_text operand
  nested := .plain rfl rfl ((gap_facts blank).1.append operand.nested)
  unranged := .cons (by decide) ((gap_facts blank).2.append operand.unranged)
  isSealed := by
    intro level seen rest _
    -- What follows the sign does not make it `!=`.
    have other : (gap ++ text ++ rest).head? ≠ some '=' := by
      rcases head_gap blank operand rest with ⟨c, more, start, first⟩
      rw [start]
      intro found
      obtain rfl : c = '=' := by simpa using found
      rcases first with blank | ⟨starts, -⟩
      · exact absurd blank (by decide)
      · exact absurd starts (by decide)
    have behind : AtOperand (gap.reverse ++ '!' :: seen) :=
      AtOperand.gap blank (.cons (by decide) seen)
    have passed : splitsFrom level 0 [] false seen ('!' :: (gap ++ text ++ rest)) =
        splitsFrom level 0 [] false ('!' :: seen) (gap ++ (text ++ rest)) := by
      rw [splitsFrom_sign rfl fun op _ => standsAt_bang other op seen, List.append_assoc]
    rw [List.cons_append, List.cons_append, passed, splitsFrom_quiet (nested_gap blank),
      operand.isSealed level _ rest behind]
    simp

theorem borrow (isBorrowable : form.isBorrowable = true) (blank : isGap gap = true)
    (operand : OperandText form text) : OperandText .borrow ('&' :: gap ++ text) where
  head := ⟨'&', gap ++ text, rfl, by decide, fun _ => rfl⟩
  base := fun base => absurd base (by decide)
  round := fun rest open' => absurd (List.cons.inj open').1 (by decide)
  last := getLast?_append_text operand
  nested := .plain rfl rfl ((gap_facts blank).1.append operand.nested)
  unranged := .cons (by decide) ((gap_facts blank).2.append operand.unranged)
  isSealed := by
    intro level seen rest _
    -- What follows the sign does not make it `&&`.
    have other : (gap ++ text ++ rest).head? ≠ some '&' := by
      rcases head_gap blank operand rest with ⟨c, more, start, first⟩
      rw [start]
      intro found
      obtain rfl : c = '&' := by simpa using found
      rcases first with blank | ⟨-, borrows⟩
      · exact absurd blank (by decide)
      · simp [borrows rfl, Form.isBorrowable] at isBorrowable
    have behind : AtOperand (gap.reverse ++ '&' :: seen) :=
      AtOperand.gap blank (.cons (by decide) seen)
    have passed : splitsFrom level 0 [] false seen ('&' :: (gap ++ text ++ rest)) =
        splitsFrom level 0 [] false ('&' :: seen) (gap ++ (text ++ rest)) := by
      rw [splitsFrom_sign rfl fun op _ => standsAt_amp other op seen, List.append_assoc]
    rw [List.cons_append, List.cons_append, passed, splitsFrom_quiet (nested_gap blank),
      operand.isSealed level _ rest behind]
    simp

theorem paren (chain : ChainText text) : OperandText .paren ('(' :: text ++ [')']) where
  head := ⟨'(', text ++ [')'], rfl, by decide, by decide⟩
  base := fun _ => ⟨'(', text ++ [')'], rfl, .inr (.inl rfl)⟩
  round := fun rest open' => ⟨text, [], (List.cons.inj open').2.symm,
    chain.nested.imp fun _ _ => rfl, fun _ => rfl⟩
  last := getLast?_append_singleton (by decide)
  nested := by simpa using Nested.bracket rfl (chain.nested.imp fun _ _ => rfl) (.nil isInline)
  unranged := (chain.unranged.cons (by decide)).concat (by decide)
  isSealed := sealed_of_nested (by
    simpa using Nested.bracket rfl (chain.nested.imp fun _ _ => rfl) (.nil isQuiet))

theorem array (nested : Nested (fun _ => true) text) (unranged : Unranged text) :
    OperandText .array ('[' :: text ++ [']']) where
  head := ⟨'[', text ++ [']'], rfl, by decide, by decide⟩
  base := fun _ => ⟨'[', text ++ [']'], rfl, .inr (.inr rfl)⟩
  round := fun rest open' => absurd (List.cons.inj open').1 (by decide)
  last := getLast?_append_singleton (by decide)
  nested := by simpa using Nested.bracket rfl nested (.nil isInline)
  unranged := (unranged.cons (by decide)).concat (by decide)
  isSealed := sealed_of_nested (by simpa using Nested.bracket rfl nested (.nil isQuiet))

/-- A bracket behind an operand belongs to the operand. -/
theorem bracketed {base inner : List Char} {opener closer : Char} {form' : Form}
    (closes : closerOf? opener = some closer) (ends : endsOperand closer = true)
    (operand : OperandText form base) (isBase : form.isBase = true) (blank : isGap gap = true)
    (nested : Nested (fun _ => true) inner) (unranged : Unranged inner) :
    OperandText form' (base ++ gap ++ opener :: inner ++ [closer]) := by
  have signs : opener ≠ '.' ∧ closer ≠ '.' := by
    rcases closerOf?_cases closes with ⟨rfl, rfl⟩ | ⟨rfl, rfl⟩ | ⟨rfl, rfl⟩ <;> decide
  -- The bracket is quiet, whatever stands in it; only the base has to be sealed.
  have bracket : Nested isQuiet (gap ++ opener :: inner ++ [closer]) := by
    simpa using (nested_gap blank).append (.bracket closes nested (.nil isQuiet))
  have shape : base ++ gap ++ opener :: inner ++ [closer] =
      base ++ (gap ++ opener :: inner ++ [closer]) := by simp
  have starts : ∃ c rest, base ++ gap ++ opener :: inner ++ [closer] = c :: rest ∧
      (Text.startsWord c = true ∨ c = '(' ∨ c = '[') := by
    rcases operand.base isBase with ⟨c, rest, rfl, starts⟩
    exact ⟨c, _, rfl, starts⟩
  refine ⟨?_, fun _ => starts, ?_, getLast?_append_singleton ends, ?_, ?_, ?_⟩
  · rcases starts with ⟨c, rest, text, first⟩
    refine ⟨c, rest, text, ?_, ?_⟩
    · rcases first with word | rfl | rfl
      · simp [startsOperand, word]
      · rfl
      · rfl
    · rintro rfl
      rcases first with word | sign | sign
      · exact absurd word (by decide)
      · exact absurd sign (by decide)
      · exact absurd sign (by decide)
  · intro rest open'
    rcases operand.head with ⟨c, more, rfl, -⟩
    obtain rfl : c = '(' := (List.cons.inj open').1
    rcases operand.round more rfl with ⟨inner', more', rfl, nested', -⟩
    refine ⟨inner', more' ++ (gap ++ opener :: inner ++ [closer]), ?_, nested', by simp⟩
    simpa using (List.cons.inj open').2.symm
  · rw [shape]
    exact operand.nested.append (bracket.imp fun _ => isInline_of_isQuiet)
  · exact ((operand.unranged.append (unranged_gap blank)).append
      (unranged.cons signs.1)).concat signs.2
  · intro level seen rest behind
    rw [shape, List.append_assoc, operand.isSealed level seen _ behind, splitsFrom_quiet bracket]
    simp

end OperandText

/-! ## The grammar -/

/-- Every operand has the text of an operand. -/
theorem operandText {form : Form} {text : List Char} {tree : Expr}
    (h : IsOperand form text tree) : OperandText form text := by
  induction h with
  | path isPath _ _ => exact .of_isPath isPath
  | bool b =>
    cases b
    · have named : "false".toList.all isNamed = true := by decide
      exact .of_isNamed (by decide) (List.all_eq_true.1 named)
    · have named : "true".toList.all isNamed = true := by decide
      exact .of_isNamed (by decide) (List.all_eq_true.1 named)
  | @integer negative first digits type digit others typed few =>
    have named := isNamed_written digit others typed
    cases negative
    · exact .of_isNamed (by simp [startsOperand, digit]) named
    · exact .negative named
  | string bytes plain undotted => exact .quoted bytes plain undotted
  | negation blank _ ih => exact .negation blank ih
  | paren _ spaced ih => exact .paren (chainText ⟨ih, spaced.toGapped⟩)
  | @call name args isName bare some operands spaced ih =>
    obtain ⟨nested, unranged, -⟩ := listed_facts some fun c member =>
      ⟨ih c member, (spaced c member).toGapped⟩
    have bracketed : OperandText .call (name ++ [] ++ '(' :: Chain.listed args ++ [')']) :=
      .bracketed rfl (by decide) (.of_isPath isName) rfl rfl nested unranged
    simpa using bracketed
  | emptyArray blank =>
    exact .array ((nested_gap blank).imp fun _ _ => rfl) (unranged_gap blank)
  | array some _ spaced ih =>
    obtain ⟨nested, unranged, -⟩ := listed_facts some fun c member =>
      ⟨ih c member, (spaced c member).toGapped⟩
    exact .array nested unranged
  | index isBase blank _ _ spaced ih ihs =>
    have chain := chainText ⟨ihs, spaced.toGapped⟩
    exact .bracketed rfl (by decide) ih isBase blank (chain.nested.imp fun _ _ => rfl) chain.unranged
  | borrow isBorrowable blank _ _ ih => exact .borrow isBorrowable blank ih

theorem isScanned {c : Chain} (h : c.IsWritten) : c.IsScanned :=
  ⟨fun t member => operandText (h.operands t member), h.spaced.toGapped⟩

end Expr
end AccountAudit
