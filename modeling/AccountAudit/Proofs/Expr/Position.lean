import AccountAudit.Expr.Parser
import AccountAudit.Proofs.Expr.Layout

/-!
# Searching by position

The searches that take a text apart pass over it character by character. Here they are written as
walks of an index through the text, in which every look at a character and at the innermost open
bracket can fail: a look in front of the text, behind it, or at a bracket when none is open is a
fault (`Fault.outOfRange`). Each walk moves its index forward, by two characters behind a backslash
and by a whole operator behind an operator, so it ends; none of them meets a fault, and each finds
what the search finds (`Checked.operatorFrom_eq`, `Checked.cutFrom_eq`, `Checked.openerFrom_eq`,
`Checked.closesFrom_eq`).
-/

namespace AccountAudit
namespace Expr

/-- What can go wrong in reading a text. -/
inductive Fault where
  /-- A character or an open bracket is looked up where there is none. -/
  | outOfRange
  /-- A part that is to be read is no shorter than the text it was cut from. -/
  | notShorter
  | excess (excess : DigitExcess)
  deriving DecidableEq, Repr

namespace Checked

/-! ## Looking up -/

/-- The character at a place. -/
def charAt (cs : List Char) (place : Int) : Except Fault Char :=
  if place < 0 then .error .outOfRange
  else
    match cs[place.toNat]? with
    | some c => .ok c
    | none => .error .outOfRange

/-- The innermost of the open brackets. -/
def innermost {α : Type} : List α → Except Fault α
  | [] => .error .outOfRange
  | first :: _ => .ok first

theorem charAt_length (seen rest : List Char) (c : Char) :
    charAt (seen.reverse ++ c :: rest) seen.length = .ok c := by
  simp [charAt]

theorem charAt_previous (seen rest : List Char) (c : Char) :
    charAt ((c :: seen).reverse ++ rest) (((c :: seen).length : Int) - 1) = .ok c := by
  have place : ((c :: seen).length : Int) - 1 = (seen.length : Int) := by simp
  rw [place, List.reverse_cons, List.append_assoc]
  exact charAt_length seen rest c

theorem charAt_last (cs : List Char) (c : Char) :
    charAt (cs ++ [c]) (((cs ++ [c]).length : Int) - 1) = .ok c := by
  have found := charAt_previous cs.reverse [] c
  simpa using found

theorem length_lt_cons (seen rest : List Char) (c : Char) :
    seen.length < (seen.reverse ++ c :: rest).length := by
  simp

/-! ## Operators -/

/-- Whether an operator stands at a place. -/
def standsAt (cs : List Char) (i : Nat) (op : BinaryOp) : Except Fault Bool :=
  if op.chars.isPrefixOf (cs.drop i) then
    let before := Text.trimEnd (cs.take i)
    if before = [] then .ok false
    else do
      let last ← charAt before ((before.length : Int) - 1)
      pure (op.neighboursAdmit last (cs.drop (i + op.chars.length)).head?)
  else .ok false

/-- Walks to an operator of a level outside brackets and string literals: to the first one, or, if the
level groups to the left, to the last one, where `found` is the last one so far. -/
def operatorFrom (level : Level) (cs : List Char) (i : Nat) (closers : List Char) (quoted : Bool)
    (found : Option (Nat × BinaryOp)) : Except Fault (Option (Nat × BinaryOp)) :=
  if i < cs.length then do
    let c ← charAt cs i
    if quoted then
      if c = '\\' then operatorFrom level cs (i + 2) closers true found
      else operatorFrom level cs (i + 1) closers (c != '"') found
    else if c = '"' then operatorFrom level cs (i + 1) closers true found
    else
      match closerOf? c with
      | some closer => operatorFrom level cs (i + 1) (closer :: closers) false found
      | none =>
        if closers = [] then
          match ← level.ops.findM? (standsAt cs i) with
          | some op =>
            if level.groupsLeft then
              operatorFrom level cs (i + op.chars.length) [] false (some (i, op))
            else pure (some (i, op))
          | none => operatorFrom level cs (i + 1) [] false found
        else
          let closer ← innermost closers
          operatorFrom level cs (i + 1) (if c = closer then closers.tail else closers) false found
  else pure found
termination_by cs.length - i
decreasing_by
  all_goals
    -- An operator has a character, so the index moves behind it as well.
    try have := List.length_pos_iff.2 op.chars_ne_nil
    omega

theorem drop_length_add (seen ahead : List Char) (n : Nat) :
    (seen.reverse ++ ahead).drop (seen.length + n) = ahead.drop n := by
  rw [← List.drop_drop, List.drop_left' List.length_reverse]

theorem standsAt_eq (seen ahead : List Char) (op : BinaryOp) :
    standsAt (seen.reverse ++ ahead) seen.length op = .ok (op.standsAt seen ahead) := by
  have front : Text.trimEnd ((seen.reverse ++ ahead).take seen.length) =
      (seen.dropWhile Text.isBlank).reverse := by
    rw [List.take_left' List.length_reverse, Text.trimEnd, List.reverse_reverse]
  have here := drop_length_add seen ahead 0
  rw [Nat.add_zero, List.drop_zero] at here
  rw [standsAt, BinaryOp.standsAt, front, here, drop_length_add]
  cases op.chars.isPrefixOf ahead with
  | false => rfl
  | true =>
    cases seen.dropWhile Text.isBlank with
    | nil => rfl
    | cons c more =>
      -- The text in front is not empty, so it has a last character.
      have last := charAt_last more.reverse c
      have some : (c :: more).reverse ≠ [] := by simp
      rw [List.reverse_cons] at *
      simp only [if_true, if_neg some, last]
      rfl

/-- Where an operator stands, and which one. -/
def place (s : Split) : Nat × BinaryOp :=
  (s.seen.length, s.op)

/-- The operator that is looked for among those that stand behind the last one found. -/
def pick (level : Level) (found : Option (Nat × BinaryOp)) (behind : List Split) :
    Option (Nat × BinaryOp) :=
  ((if level.groupsLeft then behind.getLast? else behind.head?).map place).or found

theorem pick_nil (level : Level) (found : Option (Nat × BinaryOp)) :
    pick level found [] = found := by
  simp [pick]

theorem pick_cons (level : Level) (found : Option (Nat × BinaryOp)) (s : Split)
    (behind : List Split) :
    pick level found (s :: behind) =
      if level.groupsLeft then pick level (some (place s)) behind else some (place s) := by
  cases h : level.groupsLeft with
  | false => simp [pick, h]
  | true => cases behind using List.reverseRec <;> simp [pick, h, List.getLast?_cons]

/-- Behind an operator the search goes on at the next operand. -/
theorem splitsFrom_behind_op (level : Level) (seen : List Char) {op : BinaryOp}
    {behind rest : List Char} {c : Char} (whole : op.chars ++ behind = c :: rest) :
    splitsFrom level (op.chars.length - 1) [] false (c :: seen) rest =
      splitsFrom level 0 [] false (op.chars.reverse ++ seen) behind := by
  rcases List.exists_cons_of_ne_nil op.chars_ne_nil with ⟨first, more, chars⟩
  rw [chars, List.cons_append, List.cons.injEq] at whole
  rcases whole with ⟨rfl, rfl⟩
  rw [chars, List.length_cons, Nat.add_sub_cancel, splitsFrom_skip]
  simp

/-- The walk looks at no place outside the text and finds the operator that the search finds. -/
theorem operatorFrom_eq (level : Level) (seen ahead closers : List Char) (quoted : Bool)
    (found : Option (Nat × BinaryOp)) :
    operatorFrom level (seen.reverse ++ ahead) seen.length closers quoted found =
      .ok (pick level found (splitsFrom level 0 closers quoted seen ahead)) := by
  -- By induction on the length of what lies ahead: the walk can skip more than one character.
  induction size : ahead.length using Nat.strongRecOn
    generalizing seen ahead closers quoted found with
  | ind n ih =>
    rw [operatorFrom]
    cases ahead with
    | nil => simp [splitsFrom, pick_nil, pure, Except.pure]
    | cons c rest =>
      have next : ∀ closers quoted,
          operatorFrom level (seen.reverse ++ c :: rest) (seen.length + 1) closers quoted found =
            .ok (pick level found (splitsFrom level 0 closers quoted (c :: seen) rest)) := by
        intro closers quoted
        have shorter : rest.length < n := by simp [← size]
        simpa using ih rest.length shorter (c :: seen) rest closers quoted found rfl
      rw [if_pos (length_lt_cons seen rest c), charAt_length]
      unfold splitsFrom
      simp only [bind, Except.bind, Nat.lt_irrefl, if_false]
      cases quoted with
      | true =>
        simp only [if_true]
        by_cases escape : c = '\\'
        · -- The character behind a backslash is skipped, if there is one.
          rw [if_pos escape, if_pos escape]
          cases rest with
          | nil =>
            rw [operatorFrom, if_neg (by simp)]
            simp [splitsFrom, pick_nil, pure, Except.pure]
          | cons d more =>
            have shorter : more.length < n := by
              simp only [← size, List.length_cons]
              omega
            have skipped := ih more.length shorter (d :: c :: seen) more closers true found rfl
            have bang : (c != '"') = true := by simp [escape]
            simpa [splitsFrom, bang] using skipped
        · rw [if_neg escape, if_neg escape]
          exact next closers (c != '"')
      | false =>
        simp only [Bool.false_eq_true, if_false]
        by_cases quote : c = '"'
        · simp only [if_pos quote]
          exact next closers true
        simp only [if_neg quote]
        cases opens : closerOf? c with
        | some closer =>
          simp only
          exact next (closer :: closers) false
        | none =>
          cases closers with
          | cons closer outer =>
            simp only [innermost, if_neg (List.cons_ne_nil closer outer)]
            exact next (if c = closer then outer else closer :: outer) false
          | nil =>
            simp only [if_true, findM?_eq_ok fun op _ => standsAt_eq seen (c :: rest) op]
            cases stands : level.ops.find? (·.standsAt seen (c :: rest)) with
            | none =>
              simp only
              exact next [] false
            | some op =>
              simp only [pick_cons]
              cases level.groupsLeft with
              | false => rfl
              | true =>
                rcases prefix_of_find? stands with ⟨behind, whole⟩
                have shorter : behind.length < n := by
                  have size' := congrArg List.length whole
                  have some := List.length_pos_iff.2 op.chars_ne_nil
                  rw [List.length_append, size] at size'
                  omega
                have jumped := ih behind.length shorter (op.chars.reverse ++ seen) behind [] false
                  (some (seen.length, op)) rfl
                rw [if_pos rfl, if_pos rfl, splitsFrom_behind_op level seen whole, ← whole]
                simpa [Nat.add_comm, place] using jumped

/-! ## Commas and brackets -/

/-- Whether a string literal is open behind the character `c` at a place. A quote in a literal is
compared with the character in front of it. -/
def quotedAt (cs : List Char) (i : Nat) (quoted : Bool) (c : Char) : Except Fault Bool :=
  if quoted then
    if c = '"' then do
      let previous ← charAt cs ((i : Int) - 1)
      pure (previous == '\\')
    else pure true
  else pure (c == '"')

/-- Walks through a text and cuts it at its outer commas. -/
def cutFrom (cs : List Char) (i : Nat) (depth : Int) (quoted : Bool) (piece : List Char) :
    Except Fault (List (List Char)) :=
  if i < cs.length then do
    let c ← charAt cs i
    let quotedNow ← quotedAt cs i quoted c
    let depth := depthAfter depth quoted c
    if c == ',' && depth == 0 && !quotedNow then
      let pieces ← cutFrom cs (i + 1) depth quotedNow []
      pure (piece.reverse :: pieces)
    else cutFrom cs (i + 1) depth quotedNow (c :: piece)
  else pure (if piece.all Text.isBlank then [] else [piece.reverse])
termination_by cs.length - i

/-- Walks to the end of a text and looks for the opening bracket of the square bracket there. -/
def openerFrom (cs : List Char) (i : Nat) (opened : List (Char × Nat)) (quoted : Bool) :
    Except Fault (Option Nat) :=
  if i < cs.length then do
    let c ← charAt cs i
    let quotedNow ← quotedAt cs i quoted c
    if quoted || c == '"' then openerFrom cs (i + 1) opened quotedNow
    else
      match closerOf? c with
      | some closer => openerFrom cs (i + 1) ((closer, i) :: opened) quotedNow
      | none =>
        if opened = [] then openerFrom cs (i + 1) [] quotedNow
        else
          let (closer, place) ← innermost opened
          if c = closer then
            if i + 1 = cs.length ∧ closer = ']' then pure (some place)
            else openerFrom cs (i + 1) opened.tail quotedNow
          else openerFrom cs (i + 1) opened quotedNow
  else pure none
termination_by cs.length - i

/-- Walks to where the open round brackets are closed, and tells whether that is the end. -/
def closesFrom (cs : List Char) (i : Nat) (depth : Nat) : Except Fault Bool :=
  if i < cs.length then do
    let c ← charAt cs i
    let depth := roundDepth depth c
    if depth = 0 then pure (i + 1 == cs.length) else closesFrom cs (i + 1) depth
  else pure false
termination_by cs.length - i

/-- Only behind a character can a string literal be open. -/
theorem quotedAt_eq {seen : List Char} {quoted : Bool} (inside : quoted = true → seen ≠ [])
    (c : Char) (rest : List Char) :
    quotedAt (seen.reverse ++ c :: rest) seen.length quoted c =
      .ok (quotedAfter quoted (seen.headD ' ') c) := by
  unfold quotedAt quotedAfter
  cases quoted with
  | false => rfl
  | true =>
    rcases List.exists_cons_of_ne_nil (inside rfl) with ⟨previous, more, rfl⟩
    rw [charAt_previous]
    by_cases quote : c = '"'
    · simp [quote, bind, Except.bind, pure, Except.pure]
    · simp [quote, pure, Except.pure]

theorem cutFrom_eq {seen : List Char} {quoted : Bool} (inside : quoted = true → seen ≠ [])
    (ahead : List Char) (depth : Int) (piece : List Char) :
    cutFrom (seen.reverse ++ ahead) seen.length depth quoted piece =
      .ok (splitArgsFrom depth quoted (seen.headD ' ') piece ahead) := by
  induction ahead generalizing seen depth quoted piece with
  | nil =>
    rw [cutFrom, if_neg (by simp)]
    rfl
  | cons c rest ih =>
    have next : ∀ depth quoted piece,
        cutFrom (seen.reverse ++ c :: rest) (seen.length + 1) depth quoted piece =
          .ok (splitArgsFrom depth quoted c piece rest) := by
      intro depth quoted piece
      simpa using @ih (c :: seen) quoted (by simp) depth piece
    rw [cutFrom, if_pos (length_lt_cons seen rest c), charAt_length]
    simp only [bind, Except.bind, quotedAt_eq inside, next, splitArgsFrom]
    split <;> rfl

theorem openerFrom_eq {seen : List Char} {quoted : Bool} (inside : quoted = true → seen ≠ [])
    (ahead : List Char) (opened : List (Char × Nat)) :
    openerFrom (seen.reverse ++ ahead) seen.length opened quoted =
      .ok (openerOfLastFrom opened quoted (seen.headD ' ') seen.length ahead) := by
  induction ahead generalizing seen opened quoted with
  | nil =>
    rw [openerFrom, if_neg (by simp)]
    rfl
  | cons c rest ih =>
    have next : ∀ opened quoted,
        openerFrom (seen.reverse ++ c :: rest) (seen.length + 1) opened quoted =
          .ok (openerOfLastFrom opened quoted c (seen.length + 1) rest) := by
      intro opened quoted
      simpa using @ih (c :: seen) quoted (by simp) opened
    have atEnd : seen.length + 1 = (seen.reverse ++ c :: rest).length ↔ rest = [] := by simp
    rw [openerFrom, if_pos (length_lt_cons seen rest c), charAt_length]
    simp only [bind, Except.bind, quotedAt_eq inside, next, atEnd]
    conv_rhs => unfold openerOfLastFrom
    split
    · rfl
    · cases closerOf? c with
      | some closer => rfl
      | none =>
        cases opened with
        | nil => rfl
        | cons innermost' outer =>
          rcases innermost' with ⟨closer, place⟩
          simp only [if_neg (List.cons_ne_nil (closer, place) outer), innermost, beq_iff_eq]
          by_cases closes : c = closer
          · subst closes
            cases rest <;> by_cases square : c = ']' <;> simp [square, pure, Except.pure]
          · simp [closes]

/-- Behind the first of a pair of round brackets, the walk goes on while some bracket is open. -/
theorem closesFrom_eq (seen ahead : List Char) {depth : Nat} (inside : 0 < depth) :
    closesFrom (seen.reverse ++ ahead) seen.length depth =
      .ok (!closesEarly depth ahead && ahead.foldl roundDepth depth == 0) := by
  induction ahead generalizing seen depth with
  | nil =>
    have deep : depth ≠ 0 := by omega
    rw [closesFrom, if_neg (by simp)]
    simp [closesEarly, deep, pure, Except.pure]
  | cons c rest ih =>
    have atEnd : (seen.length + 1 == (seen.reverse ++ c :: rest).length) = rest.isEmpty := by
      cases rest <;> simp
    rw [closesFrom, if_pos (length_lt_cons seen rest c), charAt_length]
    simp only [bind, Except.bind, atEnd, closesEarly, List.foldl_cons]
    by_cases closed : roundDepth depth c = 0
    · cases rest <;> simp [closed, closesEarly, pure, Except.pure]
    · have next := ih (c :: seen) (Nat.pos_of_ne_zero closed)
      have deep : (roundDepth depth c == 0) = false := by simpa using closed
      rw [if_neg closed]
      simpa [deep] using next

end Checked
end Expr
end AccountAudit
