import AccountAudit.Proofs.Expr.Accounting
import AccountAudit.Proofs.Expr.Excess
import AccountAudit.Proofs.Expr.Position
import Mathlib.Logic.Relation

/-!
# Reading within bounds

Reading ends for every text, without a fault. `Checked.read` is reading with every look at a
character and every call on a part checked: it is defined by recursion on the length of the text, and
a part that is no shorter than its text is a fault (`Fault.notShorter`), as is a look outside the
text. No text meets a fault (`Checked.read_eq`), so each part is read at a shorter text, the tree is
no deeper than the text is long, and the one way to fail is an integer with too many digits.
-/

namespace AccountAudit
namespace Expr

/-! ## Depth -/

mutual

/-- The number of nodes on the longest way from the root down. -/
def depth : Expr → Nat
  | .node _ lhs rhs args => max (depthOption lhs) (max (depthOption rhs) (depthAll args)) + 1

def depthOption : Option Expr → Nat
  | none => 0
  | some e => e.depth

def depthAll : List Expr → Nat
  | [] => 0
  | e :: rest => max e.depth (depthAll rest)

end

theorem depthAll_le {es : List Expr} {n : Nat} (each : ∀ e ∈ es, e.depth ≤ n) : depthAll es ≤ n := by
  induction es with
  | nil => exact Nat.zero_le n
  | cons e rest ih =>
    rw [List.forall_mem_cons] at each
    exact Nat.max_le.2 ⟨each.1, ih each.2⟩

/-- A node is one deeper than its parts. -/
theorem depth_assemble_le (raw : List Char) (shape : Shape) {es : List Expr} {n : Nat}
    (each : ∀ e ∈ es, e.depth ≤ n) : (shape.assemble raw es).depth ≤ n + 1 := by
  have all := depthAll_le each
  unfold Shape.assemble
  split <;>
    simp_all [ofValue, ofPath, ofBinary, ofUnary, ofCall, ofArray, ofIndex, ofRaw, depth, depthOption,
      depthAll]

/-- The tree of a text is no deeper than the text is long, counting one for the empty text. -/
theorem depth_le {raw : List Char} {e : Expr} (parsed : parseChars raw = .ok e) :
    e.depth ≤ raw.length + 1 := by
  induction size : raw.length using Nat.strongRecOn generalizing raw e with
  | ind n ih =>
    rcases parseChars_eq_ok parsed with ⟨shape, es, apart, parts, rfl⟩
    refine depth_assemble_le raw shape fun x member => ?_
    -- Each part is shorter than the text, so its depth is at most the length of the text.
    rcases exists_left_of_forall₂ parts member with ⟨part, inside, read⟩
    have shorter : part.length < n := size ▸ length_lt_of_mem_parts apart inside
    have bound := ih part.length shorter read rfl
    omega

/-! ## Failures -/

/-- A text is one of the parts that another text is taken apart into. -/
def IsPartOf (part raw : List Char) : Prop :=
  ∃ shape, shapeOf raw = .ok shape ∧ part ∈ shape.parts

/-- A text is reached from another one by going from texts to their parts. -/
def Reaches : List Char → List Char → Prop :=
  Relation.ReflTransGen fun raw part => IsPartOf part raw

/-- A text is an integer with more digits than are read. -/
def IsLongInteger (digits : Nat) (raw : List Char) : Prop :=
  ∃ t, integerText? (bare raw) = some t ∧ t.digits.length = digits ∧ digitLimit < digits

/-- Taking a text apart fails if it is an integer with too many digits. -/
theorem isLongInteger_of_shapeOf {raw : List Char} {excess : DigitExcess}
    (failed : shapeOf raw = .error excess) :
    ∃ digits, excess = .reading digits ∧ IsLongInteger digits raw := by
  unfold shapeOf at failed
  dsimp only at failed
  split_ifs at failed
  split at failed
  · rename_i t integer
    unfold IntegerText.value readDigits at failed
    by_cases long : digitLimit < t.digits.length
    · refine ⟨t.digits.length, ?_, t, integer, rfl, long⟩
      simpa [long, Except.map, eq_comm] using failed
    · simp [long, Except.map] at failed
  · cases failed

/-- Reading fails at an integer with too many digits, which is one of the texts that the text is taken
apart into, and the failure counts its digits. -/
theorem isLongInteger_of_parseChars {raw : List Char} {excess : DigitExcess}
    (failed : parseChars raw = .error excess) :
    ∃ digits reached, excess = .reading digits ∧ Reaches raw reached ∧
      IsLongInteger digits reached := by
  induction size : raw.length using Nat.strongRecOn generalizing raw with
  | ind n ih =>
    rw [parseChars_eq] at failed
    cases apart : shapeOf raw with
    | error other =>
      obtain rfl : other = excess := by simpa [apart, Except.bind] using failed
      rcases isLongInteger_of_shapeOf apart with ⟨digits, counted, long⟩
      exact ⟨digits, raw, counted, .refl, long⟩
    | ok shape =>
      cases read : shape.parts.mapM parseChars with
      | ok es => simp [apart, read, Except.bind, Except.map] at failed
      | error other =>
        obtain rfl : other = excess := by simpa [apart, read, Except.bind, Except.map] using failed
        -- One of the parts fails in the same way, and it is shorter.
        rcases exists_error_of_mapM read with ⟨part, inside, fails⟩
        have shorter : part.length < n := size ▸ length_lt_of_mem_parts apart inside
        rcases ih part.length shorter fails rfl with ⟨digits, reached, counted, way, long⟩
        exact ⟨digits, reached, counted, .head ⟨shape, apart, inside⟩ way, long⟩

/-! ## Checked reading -/

namespace Checked

/-- The text without the round brackets around it. -/
def stripRound (cs : List Char) : List Char :=
  if isEnclosed cs then stripRound (Text.trim (inside cs)) else cs
termination_by cs.length
decreasing_by exact length_trim_inside_lt ‹_›

/-- The text without the marks around it. -/
def bare (raw : List Char) : List Char :=
  stripRound (unmarked ['&'] (unmarked ['&', 'm', 'u', 't', ' '] (stripRound (Text.trim raw))))

/-- The place at which a text is split, of the loosest level that has an operator in it. -/
def split? (cs : List Char) : Except Fault (Option (Nat × BinaryOp)) :=
  Level.all.findSomeM? fun level => operatorFrom level cs 0 [] false none

/-- A text that ends with a square bracket. -/
def bracketShape (cs : List Char) : Except Fault Shape := do
  match ← openerFrom cs 0 [] false with
  | none => pure .unknown
  | some 0 => pure (.array (← cutFrom (inside cs) 0 0 false []))
  | some place =>
    let inner := Text.trim (cs.drop (place + 1)).dropLast
    pure (.index (cs.dropLast.take place) (boundsOf inner) inner)

/-- Whether the brackets behind a function's name, which start at a place, close at the end. -/
def closesAtEnd (cs : List Char) (place : Nat) : Except Fault Bool :=
  if (cs.drop place).head? = some '(' ∧ (cs.drop place).getLast? = some ')' then
    closesFrom cs place 0
  else pure false

/-- A construct that is no atom and has no operator outside its brackets. -/
def closedShape (cs : List Char) : Except Fault Shape :=
  match cs with
  | '!' :: c :: rest => pure (.negation (c :: rest))
  | _ =>
    match callParts? cs with
    | some (func, brackets) => do
      if ← closesAtEnd cs func.length then
        pure (.call func (← cutFrom (inside brackets) 0 0 false []))
      else bracketShape cs
    | none => bracketShape cs

/-- A construct other than an integer. -/
def openShape (cs : List Char) : Except Fault Shape :=
  if isStringLiteral cs then pure (.literal (.text (String.ofList cs)))
  else if isPath cs then pure (.path cs)
  else do
    match ← split? cs with
    | some (place, op) =>
      pure (.binary (cs.take place) op (cs.drop (place + op.chars.length)))
    | none => closedShape cs

/-- The outermost construct of a text. -/
def shapeOf (raw : List Char) : Except Fault Shape :=
  let cs := bare raw
  if cs = [] then pure .unknown
  else if cs = ['t', 'r', 'u', 'e'] then pure (.literal (.bool true))
  else if cs = ['f', 'a', 'l', 's', 'e'] then pure (.literal (.bool false))
  else
    match integerText? cs with
    | some t => (t.value.mapError .excess).map fun n => .literal (.int n)
    | none => openShape cs

/-- Reads an expression, as long as every part is shorter than the text it was cut from. -/
def read (raw : List Char) : Except Fault Expr := do
  let shape ← shapeOf raw
  let parts ← shape.parts.mapM fun part =>
    if part.length < raw.length then read part else throw .notShorter
  pure (shape.assemble raw parts)
termination_by raw.length

theorem stripRound_eq (cs : List Char) : stripRound cs = Expr.stripRound cs := by
  induction cs using stripRound.induct with
  | case1 cs enclosed ih => rw [stripRound, Expr.stripRound_eq, if_pos enclosed, if_pos enclosed, ih]
  | case2 cs other => rw [stripRound, Expr.stripRound_eq, if_neg other, if_neg other]

theorem bare_eq (raw : List Char) : bare raw = Expr.bare raw := by
  unfold bare Expr.bare
  simp only [stripRound_eq]

theorem cutFrom_start (cs : List Char) : cutFrom cs 0 0 false [] = .ok (splitArgs cs) := by
  exact @cutFrom_eq [] false (by simp) cs 0 []

theorem bracketShape_eq (cs : List Char) : bracketShape cs = .ok (Expr.bracketShape cs) := by
  have opener : openerFrom cs 0 [] false = .ok (openerOfLast? cs) := by
    exact @openerFrom_eq [] false (by simp) cs []
  rw [bracketShape, Expr.bracketShape, opener]
  rcases openerOfLast? cs with _ | _ | place
  · rfl
  · simp only [bind, Except.bind, cutFrom_start]
    rfl
  · rfl

/-- The first of a pair of round brackets opens the pair, so the walk goes on behind it. -/
theorem closesAtEnd_eq (func brackets : List Char) :
    closesAtEnd (func ++ brackets) func.length = .ok (Expr.closesAtEnd brackets) := by
  rw [closesAtEnd, List.drop_left]
  by_cases paired : brackets.head? = some '(' ∧ brackets.getLast? = some ')'
  · obtain ⟨rest, rfl⟩ := List.head?_eq_some_iff.1 paired.1
    have first := charAt_length func.reverse rest '('
    have inside := length_lt_cons func.reverse rest '('
    have behind := closesFrom_eq ('(' :: func.reverse) rest Nat.one_pos
    simp only [List.reverse_cons, List.reverse_reverse, List.length_reverse, List.length_cons,
      List.append_assoc, List.singleton_append] at first inside behind
    rw [if_pos paired, closesFrom, if_pos inside, first]
    simp [bind, Except.bind, roundDepth, behind, Expr.closesAtEnd, closesEarly]
  · have open' : Expr.closesAtEnd brackets = false := by
      by_contra closes
      exact paired (ends_of_closesAtEnd (by simpa using closes))
    rw [if_neg paired, open']
    rfl

theorem closedShape_eq (cs : List Char) : closedShape cs = .ok (Expr.closedShape cs) := by
  unfold closedShape Expr.closedShape
  split
  · rfl
  · rename_i other
    cases parts : callParts? cs with
    | none => simp only [bracketShape_eq]
    | some pair =>
      rcases pair with ⟨func, brackets⟩
      obtain ⟨rfl, -⟩ := append_of_callParts? parts
      simp only [closesAtEnd_eq, bind, Except.bind, cutFrom_start, bracketShape_eq]
      split <;> rfl

/-- The walks through the levels stop at the first level that has an operator. -/
theorem split?_eq (cs : List Char) : split? cs = .ok ((Expr.split? cs).map place) := by
  have level : ∀ level, operatorFrom level cs 0 [] false none =
      .ok ((if level.groupsLeft then (splits level cs).getLast? else (splits level cs).head?).map
        place) := by
    intro level
    have found := operatorFrom_eq level [] cs [] false none
    simpa [pick, splits] using found
  unfold split? Expr.split?
  generalize Level.all = levels
  induction levels with
  | nil => rfl
  | cons first rest ih =>
    rw [List.findSomeM?_cons, level, List.findSome?_cons, ih]
    cases (if first.groupsLeft then (splits first cs).getLast? else (splits first cs).head?) <;> rfl

theorem openShape_eq (cs : List Char) : openShape cs = .ok (Expr.openShape cs) := by
  unfold openShape Expr.openShape
  split
  · rfl
  split
  · rfl
  rw [split?_eq]
  cases found : Expr.split? cs with
  | none => exact closedShape_eq cs
  | some s =>
    -- The place of an operator is the length of the text in front of it.
    have whole : cs = s.seen.reverse ++ (s.op.chars ++ s.right) := text_of_split? found
    have left : cs.take s.seen.length = s.left := by
      rw [whole, List.take_left' List.length_reverse, Split.left]
    have right : cs.drop (s.seen.length + s.op.chars.length) = s.right := by
      rw [whole, drop_length_add, List.drop_left]
    simp only [bind, Except.bind, Option.map, place, left, right]
    rfl

theorem shapeOf_eq (raw : List Char) : shapeOf raw = (Expr.shapeOf raw).mapError .excess := by
  unfold shapeOf Expr.shapeOf
  simp only [bare_eq, openShape_eq]
  split_ifs
  · rfl
  · rfl
  · rfl
  · cases integerText? (Expr.bare raw) with
    | none => rfl
    | some t =>
      dsimp only
      cases t.value <;> rfl

/-- Checked reading meets no fault and reads what reading reads. -/
theorem read_eq (raw : List Char) : read raw = (parseChars raw).mapError .excess := by
  induction size : raw.length using Nat.strongRecOn generalizing raw with
  | ind n ih =>
    rw [read, shapeOf_eq, parseChars_eq]
    cases apart : Expr.shapeOf raw with
    | error excess => rfl
    | ok shape =>
      have parts : (shape.parts.mapM fun part =>
          if part.length < raw.length then read part else throw .notShorter) =
          (shape.parts.mapM parseChars).mapError .excess := by
        rw [← mapM_mapError]
        refine mapM_congr fun part inside => ?_
        have shorter := length_lt_of_mem_parts apart inside
        rw [if_pos shorter, ih part.length (size ▸ shorter) part rfl]
      simp only [Except.mapError, Except.bind, bind, parts]
      cases shape.parts.mapM parseChars <;> rfl

end Checked

/-- **Reading within bounds.** Every text is read without a look outside it and with every part
shorter than its text; the tree is no deeper than the text is long, counting one for the empty text,
and the one failure is an integer with too many digits among the texts it is taken apart into. -/
theorem read_within_bounds (text : String) :
    Checked.read text.toList = (parse text).mapError .excess ∧
      match Checked.read text.toList with
      | .ok e => e.depth ≤ text.length + 1
      | .error fault => ∃ digits reached, fault = .excess (.reading digits) ∧
          Reaches text.toList reached ∧ IsLongInteger digits reached := by
  refine ⟨Checked.read_eq text.toList, ?_⟩
  rw [Checked.read_eq]
  cases parsed : parseChars text.toList with
  | ok e => exact depth_le parsed
  | error excess =>
    rcases isLongInteger_of_parseChars parsed with ⟨digits, reached, rfl, way, long⟩
    exact ⟨digits, reached, rfl, way, long⟩

end Expr
end AccountAudit
