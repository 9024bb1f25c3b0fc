import AccountAudit.Proofs.Expr.Operand

/-!
# Cutting a chain at an operator

Where a chain of operands is split, and what its tree has to do with it. Operators are found between
the operands and nowhere else (`splitsFrom_chain`). A chain of several operands is split into two
chains at an operator, and its tree joins their trees there (`exists_split?`).
-/

namespace AccountAudit
namespace Expr

/-! ## Two chains with an operator between them -/

namespace Chain

def join (left : Chain) (op : BinaryOp) (right : Chain) : Chain :=
  ⟨left.first, left.rest ++ (op, right.first) :: right.rest⟩

theorem terms_join (left : Chain) (op : BinaryOp) (right : Chain) :
    (left.join op right).terms = left.terms ++ right.terms := by
  simp [join, terms]

theorem text_join (left : Chain) (op : BinaryOp) (right : Chain) :
    (left.join op right).text = left.text ++ (op.chars ++ right.text) := by
  simp [join, text, written]

/-- The operators of a chain, from left to right. -/
def ops (c : Chain) : List BinaryOp :=
  c.rest.map Prod.fst

theorem ops_join (left : Chain) (op : BinaryOp) (right : Chain) :
    (left.join op right).ops = left.ops ++ op :: right.ops := by
  simp [join, ops]

variable {left right : Chain} {op : BinaryOp}

theorem Gapped.of_join_left (h : (left.join op right).Gapped) : left.Gapped := by
  rcases h with ⟨before, after⟩
  rw [terms_join] at before after
  exact ⟨fun t member => before t (List.mem_append_left _ member),
    fun t member => after t (List.mem_append_left _ member)⟩

theorem Gapped.of_join_right (h : (left.join op right).Gapped) : right.Gapped := by
  rcases h with ⟨before, after⟩
  rw [terms_join] at before after
  exact ⟨fun t member => before t (List.mem_append_right _ member),
    fun t member => after t (List.mem_append_right _ member)⟩

theorem Spaced.of_join_left (h : (left.join op right).Spaced) : left.Spaced where
  toGapped := h.toGapped.of_join_left
  first := fun _ => h.first (by simp [join])
  others := h.others.left_of_append

/-- What stands behind an operator is spaced if it is split at this operator first: its first operand
comes to stand at the start of a text. -/
theorem Spaced.of_join_right (h : (left.join op right).Spaced)
    (earlier : ∀ next ∈ right.ops, splitsFirst Level.all op next = true) : right.Spaced where
  toGapped := h.toGapped.of_join_right
  first := by
    intro some
    rcases right with ⟨first, rest⟩
    rcases List.exists_cons_of_ne_nil some with ⟨⟨next, u⟩, more, rfl⟩
    have behind : List.IsChain Unmut ((op, first) :: (next, u) :: more) := h.others.right_of_append
    exact (List.isChain_cons_cons.1 behind).1 (earlier next (by simp [ops]))
  others := h.others.right_of_append.tail

theorem IsWritten.of_join_left (h : (left.join op right).IsWritten) : left.IsWritten where
  operands := fun t member =>
    h.operands t (by rw [terms_join]; exact List.mem_append_left _ member)
  spaced := h.spaced.of_join_left

theorem IsWritten.of_join_right (h : (left.join op right).IsWritten)
    (earlier : ∀ next ∈ right.ops, splitsFirst Level.all op next = true) : right.IsWritten where
  operands := fun t member =>
    h.operands t (by rw [terms_join]; exact List.mem_append_right _ member)
  spaced := h.spaced.of_join_right earlier

theorem IsScanned.of_join_left (h : (left.join op right).IsScanned) : left.IsScanned where
  operands := fun t member =>
    h.operands t (by rw [terms_join]; exact List.mem_append_left _ member)
  gapped := h.gapped.of_join_left

theorem IsScanned.of_join_right (h : (left.join op right).IsScanned) : right.IsScanned where
  operands := fun t member =>
    h.operands t (by rw [terms_join]; exact List.mem_append_right _ member)
  gapped := h.gapped.of_join_right

end Chain

/-! ## Operators between operands -/

/-- The text ends with an operand, and perhaps blanks behind it. -/
def BehindOperand (seen : List Char) : Prop :=
  ∃ c more, seen.dropWhile Text.isBlank = c :: more ∧ endsOperand c = true

/-- The text starts with a blank or an operand. -/
def AheadOperand (rest : List Char) : Prop :=
  ∃ c more, rest = c :: more ∧ (Text.isBlank c = true ∨ startsOperand c = true)

theorem ne_of_aheadOperand {c d : Char} (h : Text.isBlank c = true ∨ startsOperand c = true)
    (other : Text.isBlank d = false ∧ startsOperand d = false) : c ≠ d := by
  rcases h with blank | starts
  · exact ne_of_holds blank other.1
  · exact ne_of_holds starts other.2

/-- Between operands, an operator stands in its place and no other operator does. -/
theorem standsAt_iff {seen rest : List Char} (behind : BehindOperand seen)
    (ahead : AheadOperand rest) (op other : BinaryOp) :
    other.standsAt seen (op.chars ++ rest) = true ↔ other = op := by
  rcases behind with ⟨b, more, before, ends⟩
  rcases ahead with ⟨n, more', rfl, first⟩
  have starts : b ∉ BinaryOp.operandStarts := not_mem_operandStarts ends
  have equal : n ≠ '=' := ne_of_aheadOperand first (by decide)
  have less : n ≠ '<' := ne_of_aheadOperand first (by decide)
  have greater : n ≠ '>' := ne_of_aheadOperand first (by decide)
  have slash : n ≠ '/' := ne_of_aheadOperand first (by decide)
  simp only [BinaryOp.operandStarts, List.mem_cons, List.not_mem_nil, or_false, not_or] at starts
  -- Two operators can start alike, as `<` and `<=` do; the characters around them tell them apart.
  cases op <;> cases other <;>
    simp [BinaryOp.standsAt, before, BinaryOp.chars, List.isPrefixOf, BinaryOp.neighboursAdmit,
      BinaryOp.isAngle, BinaryOp.isArithmetic, BinaryOp.operandStarts, starts, equal, less, greater,
      slash, Ne.symm equal]

theorem find?_standsAt {seen rest : List Char} (behind : BehindOperand seen)
    (ahead : AheadOperand rest) {op : BinaryOp} {level : Level} (member : op ∈ level.ops) :
    level.ops.find? (·.standsAt seen (op.chars ++ rest)) = some op := by
  cases found : level.ops.find? (·.standsAt seen (op.chars ++ rest)) with
  | none =>
    have stands := (standsAt_iff behind ahead op op).2 rfl
    exact absurd stands (List.find?_eq_none.1 found op member)
  | some other =>
    have stands := List.find?_some found
    rw [(standsAt_iff behind ahead op other).1 stands]

/-- Characters that are to be passed over are passed over. -/
theorem splitsFrom_skip (level : Level) (skipped seen rest : List Char) :
    splitsFrom level skipped.length [] false seen (skipped ++ rest) =
      splitsFrom level 0 [] false (skipped.reverse ++ seen) rest := by
  induction skipped generalizing seen with
  | nil => rfl
  | cons c more ih =>
    have step : splitsFrom level (more.length + 1) [] false seen (c :: (more ++ rest)) =
        splitsFrom level more.length [] false (c :: seen) (more ++ rest) := by
      simp [splitsFrom]
    rw [List.length_cons, List.cons_append, step, ih]
    simp

/-- No operator of a level starts with a character of another level's operator. -/
theorem standsAt_of_not_mem {op other : BinaryOp} {level : Level} (foreign : op ∉ level.ops)
    (member : other ∈ level.ops) {c : Char} (inside : c ∈ op.chars) (seen rest : List Char) :
    other.standsAt seen (c :: rest) = false := by
  -- The first characters of the operators tell the levels apart.
  have apart : ∀ level : Level, op ∉ level.ops → ∀ other ∈ level.ops, ∀ c ∈ op.chars,
      other.chars.head? ≠ some c := by
    intro level
    cases op <;> cases level <;> simp [BinaryOp.chars, Level.ops]
  have differs := apart level foreign other member c inside
  have starts : other.chars.isPrefixOf (c :: rest) = false := by
    cases chars : other.chars with
    | nil => exact absurd chars other.chars_ne_nil
    | cons d more =>
      have other' : d ≠ c := by simpa [chars] using differs
      simp [List.isPrefixOf, other']
  rw [BinaryOp.standsAt, starts, Bool.false_and]

theorem splitsFrom_foreign {op : BinaryOp} {level : Level} (foreign : op ∉ level.ops)
    {chars : List Char} (inside : ∀ c ∈ chars, c ∈ op.chars) (seen rest : List Char) :
    splitsFrom level 0 [] false seen (chars ++ rest) =
      splitsFrom level 0 [] false (chars.reverse ++ seen) rest := by
  induction chars generalizing seen with
  | nil => rfl
  | cons c more ih =>
    rw [List.forall_mem_cons] at inside
    have plain : isPlain c = true := (plain_of_mem_chars c inside.1).1
    rw [List.cons_append, splitsFrom_sign plain fun other member =>
      standsAt_of_not_mem foreign member inside.1 _ _, ih inside.2]
    simp

/-- Between operands, an operator is found if it is one of the level. -/
theorem splitsFrom_op {seen rest : List Char} (behind : BehindOperand seen)
    (ahead : AheadOperand rest) (op : BinaryOp) (level : Level) :
    splitsFrom level 0 [] false seen (op.chars ++ rest) =
      (if op ∈ level.ops then [⟨seen, op, rest⟩] else []) ++
        splitsFrom level 0 [] false (op.chars.reverse ++ seen) rest := by
  by_cases member : op ∈ level.ops
  · have found := find?_standsAt behind ahead member
    rcases List.exists_cons_of_ne_nil op.chars_ne_nil with ⟨c, more, chars⟩
    have inside : c ∈ op.chars := by simp [chars]
    have plain : isPlain c = true := (plain_of_mem_chars c inside).1
    have quote : c ≠ '"' := ne_of_isPlain plain rfl
    have step : splitsFrom level 0 [] false seen (c :: (more ++ rest)) =
        ⟨seen, op, rest⟩ :: splitsFrom level more.length [] false (c :: seen) (more ++ rest) := by
      rw [chars, List.cons_append] at found
      simp [splitsFrom, quote, closerOf?_of_isPlain plain, found, chars]
    rw [if_pos member, chars, List.cons_append, step, splitsFrom_skip]
    simp
  · rw [if_neg member, splitsFrom_foreign member fun _ inside => inside]
    rfl

/-! ## Operators of a chain -/

theorem atOperand_op (op : BinaryOp) (seen : List Char) : AtOperand (op.chars.reverse ++ seen) := by
  cases op <;> exact .cons (by decide) _

section Term

variable {t : Term}

/-- No operator is found in an operand and the blanks around it. -/
theorem splitsFrom_term (operand : OperandText t.form t.text) (before : isGap t.before = true)
    (after : isGap t.after = true) (level : Level) {seen : List Char} (expects : AtOperand seen)
    (rest : List Char) :
    splitsFrom level 0 [] false seen (t.written ++ rest) =
      splitsFrom level 0 [] false (t.written.reverse ++ seen) rest := by
  have shape : t.written ++ rest = t.before ++ (t.text ++ (t.after ++ rest)) := by
    simp [Term.written]
  rw [shape, splitsFrom_quiet (nested_gap before), operand.isSealed level _ _ (expects.gap before),
    splitsFrom_quiet (nested_gap after)]
  simp [Term.written]

theorem behindOperand_term (operand : OperandText t.form t.text) (after : isGap t.after = true)
    (seen : List Char) : BehindOperand (t.written.reverse ++ seen) := by
  rcases List.exists_cons_of_ne_nil (List.reverse_ne_nil_iff.2 operand.ne_nil) with ⟨c, more, last⟩
  have ends : endsOperand c = true := by
    apply operand.last
    rw [← List.head?_reverse, last]
    rfl
  have shape : t.written.reverse ++ seen =
      t.after.reverse ++ c :: (more ++ t.before.reverse ++ seen) := by
    simp [Term.written, last]
  refine ⟨c, more ++ t.before.reverse ++ seen, ?_, ends⟩
  rw [shape]
  apply Text.dropWhile_pad
  · simpa [isGap] using after
  · intro d found
    obtain rfl : c = d := by simpa using found
    exact isBlank_of_endsOperand ends

theorem aheadOperand_term (operand : OperandText t.form t.text) (before : isGap t.before = true)
    (rest : List Char) : AheadOperand (t.written ++ rest) := by
  rcases head_gap before operand t.after with ⟨c, more, start, first⟩
  exact ⟨c, more ++ rest, by rw [Term.written, start]; rfl, first.imp_right And.left⟩

end Term

theorem Chain.IsScanned.aheadOperand {c : Chain} (h : c.IsScanned) : AheadOperand c.text :=
  aheadOperand_term (h.operands _ List.mem_cons_self) (h.gapped.before _ List.mem_cons_self) _

/-- Where an operand is expected, a chain is passed over; what is found in it are operators of the
level, so nothing is found if it has none of them. -/
theorem splitsFrom_chain {c : Chain} (h : c.IsScanned) (level : Level) {seen : List Char}
    (expects : AtOperand seen) (rest : List Char) :
    BehindOperand (c.text.reverse ++ seen) ∧ ∃ found,
      splitsFrom level 0 [] false seen (c.text ++ rest) =
          found ++ splitsFrom level 0 [] false (c.text.reverse ++ seen) rest ∧
        ((∀ op ∈ c.ops, op ∉ level.ops) → found = []) := by
  rcases c with ⟨first, joined⟩
  induction joined generalizing first seen with
  -- The induction is on the operands that are joined to the first one.
  | nil =>
    have operand := h.operands first List.mem_cons_self
    have before := h.gapped.before first List.mem_cons_self
    have after := h.gapped.after first List.mem_cons_self
    have text : (Chain.mk first []).text = first.written := by simp [Chain.text, Chain.written]
    rw [text]
    exact ⟨behindOperand_term operand after seen, [],
      splitsFrom_term operand before after level expects rest, fun _ => rfl⟩
  | cons second more ih =>
    rcases second with ⟨op, t⟩
    have operand := h.operands first List.mem_cons_self
    have before := h.gapped.before first List.mem_cons_self
    have after := h.gapped.after first List.mem_cons_self
    have joined : ((Chain.mk first []).join op ⟨t, more⟩).IsScanned := h
    have right : (Chain.mk t more).IsScanned := joined.of_join_right
    have text : (Chain.mk first ((op, t) :: more)).text =
        first.written ++ (op.chars ++ (Chain.mk t more).text) := by
      simp [Chain.text, Chain.written]
    obtain ⟨behind, found, passed, none⟩ := ih
      (atOperand_op op (first.written.reverse ++ seen)) t right
    have ahead : AheadOperand ((Chain.mk t more).text ++ rest) := by
      rcases right.aheadOperand with ⟨c, others, start, first⟩
      exact ⟨c, others ++ rest, by rw [start]; rfl, first⟩
    refine ⟨by simpa [text] using behind,
      (if op ∈ level.ops then
        [⟨first.written.reverse ++ seen, op, (Chain.mk t more).text ++ rest⟩] else []) ++ found,
      ?_, ?_⟩
    -- Pass over the first operand, then the operator, then the rest of the chain.
    · calc splitsFrom level 0 [] false seen ((Chain.mk first ((op, t) :: more)).text ++ rest)
        _ = splitsFrom level 0 [] false seen
              (first.written ++ (op.chars ++ ((Chain.mk t more).text ++ rest))) := by simp [text]
        _ = _ := splitsFrom_term operand before after level expects _
        _ = _ := splitsFrom_op (behindOperand_term operand after seen) ahead op level
        _ = _ := by rw [passed]
        _ = _ := by simp [text]
    · intro foreign
      have here : op ∉ level.ops := foreign op (by simp [Chain.ops])
      have later : found = [] := none fun other member => foreign other (by
        simp only [Chain.ops, List.map_cons, List.mem_cons]
        exact .inr member)
      simp [here, later]

/-- A chain is split at each operator of the level. -/
theorem splits_join {left right : Chain} {op : BinaryOp} {level : Level}
    (h : (left.join op right).IsScanned) (member : op ∈ level.ops) : ∃ before after,
      splits level (left.join op right).text =
          before ++ ⟨left.text.reverse, op, right.text⟩ :: after ∧
        ((∀ op ∈ left.ops, op ∉ level.ops) → before = []) ∧
        ((∀ op ∈ right.ops, op ∉ level.ops) → after = []) := by
  obtain ⟨behind, before, passed, noneBefore⟩ := splitsFrom_chain h.of_join_left level AtOperand.nil
    (op.chars ++ right.text)
  obtain ⟨-, after, passed', noneAfter⟩ := splitsFrom_chain h.of_join_right level
    (atOperand_op op (left.text.reverse ++ [])) []
  refine ⟨before, after, ?_, noneBefore, noneAfter⟩
  calc splits level (left.join op right).text
    _ = splitsFrom level 0 [] false [] (left.text ++ (op.chars ++ right.text)) := by
      rw [splits, Chain.text_join]
    _ = _ := passed
    _ = _ := by rw [splitsFrom_op behind h.of_join_right.aheadOperand, if_pos member]
    _ = _ := by
      simp only [List.append_nil, splitsFrom] at passed' ⊢
      rw [passed']
      simp

/-- A chain without operators of a level is not split at the level. -/
theorem splits_of_forall {c : Chain} {level : Level} (h : c.IsScanned)
    (none : ∀ op ∈ c.ops, op ∉ level.ops) : splits level c.text = [] := by
  rcases splitsFrom_chain h level AtOperand.nil [] with ⟨-, found, passed, nothing⟩
  rw [List.append_nil] at passed
  rw [splits, passed, nothing none]
  rfl

/-! ## Trees of chains -/

section Group

variable {level : Level} {tighter : List Level} {op : BinaryOp} {e x : Expr}
  {before after : List (BinaryOp × Expr)}

theorem cut_of_forall (e : Expr) (none : ∀ op ∈ before.map Prod.fst, op ∉ level.ops) :
    cut level e before = ((e, before), []) := by
  induction before generalizing e with
  | nil => rfl
  | cons joined rest ih =>
    rcases joined with ⟨op, x⟩
    rw [List.map_cons, List.forall_mem_cons] at none
    simp [cut, ih x none.2, none.1]

theorem cut_append (e x : Expr) (before after : List (BinaryOp × Expr)) (member : op ∈ level.ops) :
    cut level e (before ++ (op, x) :: after) =
      ((cut level e before).1,
        (cut level e before).2 ++ (op, (cut level x after).1) :: (cut level x after).2) := by
  induction before generalizing e with
  | nil => simp [cut, member]
  | cons joined rest ih =>
    rcases joined with ⟨other, y⟩
    rw [List.cons_append, cut, cut, ih]
    by_cases here : other ∈ level.ops
    · simp [here]
    · simp [here]

/-- A level without operators is passed over. -/
theorem group_of_forall (e : Expr) (none : ∀ op ∈ before.map Prod.fst, op ∉ level.ops) :
    group (level :: tighter) e before = group tighter e before := by
  rw [group, cut_of_forall e none]
  cases level.groupsLeft <;> rfl

/-- Of a level that groups to the right, the first operator joins the trees on its sides. -/
theorem group_append_right (e x : Expr) (after : List (BinaryOp × Expr)) (member : op ∈ level.ops)
    (right : level.groupsLeft = false) (first : ∀ op ∈ before.map Prod.fst, op ∉ level.ops) :
    group (level :: tighter) e (before ++ (op, x) :: after) =
      ofBinary op.symbol (group (level :: tighter) e before)
        (group (level :: tighter) x after) := by
  simp [group, cut_append e x before after member, cut_of_forall e first, right, joinRight]

/-- Of a level that groups to the left, the last operator joins the trees on its sides. -/
theorem group_append_left (e x : Expr) (before : List (BinaryOp × Expr)) (member : op ∈ level.ops)
    (left : level.groupsLeft = true) (last : ∀ op ∈ after.map Prod.fst, op ∉ level.ops) :
    group (level :: tighter) e (before ++ (op, x) :: after) =
      ofBinary op.symbol (group (level :: tighter) e before)
        (group (level :: tighter) x after) := by
  simp [group, cut_append e x before after member, cut_of_forall x last, left, joinLeft]

end Group

/-- The tree of a chain when only operators of some levels are looked at. -/
def Chain.treeAt (levels : List Level) (c : Chain) : Expr :=
  group levels c.first.tree (c.rest.map fun (op, t) => (op, t.tree))

theorem Chain.treeAt_of_forall {level : Level} {tighter : List Level} {c : Chain}
    (none : ∀ op ∈ c.ops, op ∉ level.ops) : c.treeAt (level :: tighter) = c.treeAt tighter := by
  apply group_of_forall
  simpa [Chain.ops] using none

/-! ## The split of a chain -/

variable {level : Level} {c : Chain}

/-- A chain with operators of a level, at the first of them. -/
theorem exists_first_join (has : ∃ op ∈ c.ops, op ∈ level.ops) :
    ∃ (left : Chain) (op : BinaryOp) (right : Chain), c = left.join op right ∧
      op ∈ level.ops ∧ ∀ op ∈ left.ops, op ∉ level.ops := by
  rcases c with ⟨first, rest⟩
  cases found : rest.find? (fun joined => decide (joined.1 ∈ level.ops)) with
  | none =>
    rcases has with ⟨op, inside, member⟩
    rcases List.mem_map.1 inside with ⟨joined, inside', rfl⟩
    exact absurd member (by simpa using List.find?_eq_none.1 found joined inside')
  | some joined =>
    rcases joined with ⟨op, t⟩
    rcases List.find?_eq_some_iff_append.1 found with ⟨member, before, after, rfl, none⟩
    refine ⟨⟨first, before⟩, op, ⟨t, after⟩, rfl, by simpa using member, ?_⟩
    intro other inside
    rcases List.mem_map.1 inside with ⟨joined, inside', rfl⟩
    simpa using none joined inside'

/-- A chain with operators of a level, at the last of them. -/
theorem exists_last_join (has : ∃ op ∈ c.ops, op ∈ level.ops) :
    ∃ (left : Chain) (op : BinaryOp) (right : Chain), c = left.join op right ∧
      op ∈ level.ops ∧ ∀ op ∈ right.ops, op ∉ level.ops := by
  rcases c with ⟨first, rest⟩
  -- The last operator is the first one of the reversed list.
  cases found : rest.reverse.find? (fun joined => decide (joined.1 ∈ level.ops)) with
  | none =>
    rcases has with ⟨op, inside, member⟩
    rcases List.mem_map.1 inside with ⟨joined, inside', rfl⟩
    have foreign := List.find?_eq_none.1 found joined (List.mem_reverse.2 inside')
    exact absurd member (by simpa using foreign)
  | some joined =>
    rcases joined with ⟨op, t⟩
    rcases List.find?_eq_some_iff_append.1 found with ⟨member, after, before, reversed, none⟩
    have shape : rest = before.reverse ++ (op, t) :: after.reverse := by
      simpa using congrArg List.reverse reversed
    subst shape
    refine ⟨⟨first, before.reverse⟩, op, ⟨t, after.reverse⟩, rfl, by simpa using member, ?_⟩
    intro other inside
    rcases List.mem_map.1 inside with ⟨joined, inside', rfl⟩
    simpa using none joined (List.mem_reverse.1 inside')

/-- The operator of a level at which a text is split. -/
def splitOf? (level : Level) (cs : List Char) : Option Split :=
  if level.groupsLeft then (splits level cs).getLast? else (splits level cs).head?

theorem split?_eq (cs : List Char) : split? cs = Level.all.findSome? (splitOf? · cs) :=
  rfl

theorem splitOf?_of_forall (h : c.IsScanned) (none : ∀ op ∈ c.ops, op ∉ level.ops) :
    splitOf? level c.text = Option.none := by
  rw [splitOf?, splits_of_forall h none]
  cases level.groupsLeft <;> rfl

/-- A level with operators splits the chain into two, whose trees are joined in the tree of the
chain. -/
theorem exists_splitOf? (h : c.IsScanned) (has : ∃ op ∈ c.ops, op ∈ level.ops)
    (tighter : List Level) : ∃ (left : Chain) (op : BinaryOp) (right : Chain),
      c = left.join op right ∧ splitOf? level c.text = .some ⟨left.text.reverse, op, right.text⟩ ∧
      (∀ next ∈ right.ops, splitsFirst (level :: tighter) op next = true) ∧
      c.treeAt (level :: tighter) =
        ofBinary op.symbol (left.treeAt (level :: tighter)) (right.treeAt (level :: tighter)) := by
  cases groups : level.groupsLeft with
  | false =>
    rcases exists_first_join has with ⟨left, op, right, rfl, member, first⟩
    rcases splits_join h member with ⟨before, after, found, none, -⟩
    refine ⟨left, op, right, rfl, ?_, ?_, ?_⟩
    · simp [splitOf?, groups, found, none first]
    · intro next _
      simp [splitsFirst, member, groups]
    · have none : ∀ op ∈ (left.rest.map fun (op, t) => (op, t.tree)).map Prod.fst,
          op ∉ level.ops := by
        simpa [Chain.ops] using first
      simpa [Chain.treeAt, Chain.join] using group_append_right left.first.tree right.first.tree
        (right.rest.map fun (op, t) => (op, t.tree)) member groups none
  | true =>
    rcases exists_last_join has with ⟨left, op, right, rfl, member, last⟩
    rcases splits_join h member with ⟨before, after, found, -, none⟩
    refine ⟨left, op, right, rfl, ?_, ?_, ?_⟩
    · simp [splitOf?, groups, found, none last]
    · intro next inside
      simp [splitsFirst, member, last next inside]
    · have none : ∀ op ∈ (right.rest.map fun (op, t) => (op, t.tree)).map Prod.fst,
          op ∉ level.ops := by
        simpa [Chain.ops] using last
      simpa [Chain.treeAt, Chain.join] using group_append_left left.first.tree right.first.tree
        (left.rest.map fun (op, t) => (op, t.tree)) member groups none

/-- The loosest level with operators splits the chain. -/
theorem exists_findSome? (h : c.IsScanned) {levels : List Level}
    (has : ∃ op ∈ c.ops, ∃ level ∈ levels, op ∈ level.ops) :
    ∃ (left : Chain) (op : BinaryOp) (right : Chain), c = left.join op right ∧
      levels.findSome? (splitOf? · c.text) = some ⟨left.text.reverse, op, right.text⟩ ∧
      (∀ next ∈ right.ops, splitsFirst levels op next = true) ∧
      c.treeAt levels = ofBinary op.symbol (left.treeAt levels) (right.treeAt levels) := by
  induction levels with
  | nil =>
    rcases has with ⟨op, -, level, none, -⟩
    cases none
  | cons level tighter ih =>
    -- Either this level splits the chain, or it is passed over on both sides of the later split.
    by_cases here : ∃ op ∈ c.ops, op ∈ level.ops
    · rcases exists_splitOf? h here tighter with ⟨left, op, right, shape, found, earlier, tree⟩
      exact ⟨left, op, right, shape, by simp [found], earlier, tree⟩
    · have none : ∀ op ∈ c.ops, op ∉ level.ops :=
        fun op inside member => here ⟨op, inside, member⟩
      have later : ∃ op ∈ c.ops, ∃ level ∈ tighter, op ∈ level.ops := by
        rcases has with ⟨op, inside, other, member, isOp⟩
        rcases List.mem_cons.1 member with rfl | member
        · exact absurd isOp (none op inside)
        · exact ⟨op, inside, other, member, isOp⟩
      rcases ih later with ⟨left, op, right, rfl, found, earlier, tree⟩
      have ops := Chain.ops_join left op right
      have noneHere : op ∉ level.ops := none op (by simp [ops])
      have noneLeft : ∀ op ∈ left.ops, op ∉ level.ops :=
        fun op inside => none op (by simp [ops, inside])
      have noneRight : ∀ op ∈ right.ops, op ∉ level.ops :=
        fun op inside => none op (by simp [ops, inside])
      refine ⟨left, op, right, rfl, ?_, ?_, ?_⟩
      · simpa [List.findSome?_cons, splitOf?_of_forall h none] using found
      · intro next inside
        rw [splitsFirst, if_neg noneHere, if_neg (noneRight next inside)]
        exact earlier next inside
      · rw [Chain.treeAt_of_forall none, Chain.treeAt_of_forall noneLeft,
          Chain.treeAt_of_forall noneRight, tree]

/-- A chain of several operands is split into two chains, whose trees are joined in its tree. -/
theorem exists_split? (h : c.IsScanned) (several : c.rest ≠ []) :
    ∃ (left : Chain) (op : BinaryOp) (right : Chain), c = left.join op right ∧
      split? c.text = some ⟨left.text.reverse, op, right.text⟩ ∧
      (∀ next ∈ right.ops, splitsFirst Level.all op next = true) ∧
      c.tree = ofBinary op.symbol left.tree right.tree := by
  rcases List.exists_cons_of_ne_nil several with ⟨⟨op, t⟩, more, rest⟩
  have everyLevel : ∀ op : BinaryOp, ∃ level ∈ Level.all, op ∈ level.ops := by
    intro op
    cases op <;> decide
  exact exists_findSome? h ⟨op, by simp [Chain.ops, rest], everyLevel op⟩

end Expr
end AccountAudit
