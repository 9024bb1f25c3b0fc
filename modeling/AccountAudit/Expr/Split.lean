import AccountAudit.Expr.Bracket
import AccountAudit.Expr.Operator

/-!
# Splitting at an operator

The operators of a level that stand outside brackets and string literals, and the two operands that
such an operator leaves. Both operands are shorter than the text, since an operator has a
character of its own and something in front of it (`length_operands_lt`).
-/

namespace AccountAudit
namespace Expr

/-- A place where an operator stands: the text in front of it, the last character first, the
operator, and the text behind it. -/
structure Split where
  seen : List Char
  op : BinaryOp
  right : List Char
  deriving DecidableEq, Repr

namespace Split

def left (s : Split) : List Char :=
  s.seen.reverse

end Split

/-- Finds the operators of a level from left to right. `skip` counts characters that are passed
over, `closers` holds the brackets that close the open ones, innermost first, and `seen` is the text
so far, the last character first. -/
def splitsFrom (level : Level) (skip : Nat) (closers : List Char) (quoted : Bool)
    (seen : List Char) : List Char → List Split
  | [] => []
  | c :: rest =>
    if 0 < skip then splitsFrom level (skip - 1) closers quoted (c :: seen) rest
    else if quoted then
      splitsFrom level (if c = '\\' then 1 else 0) closers (c != '"') (c :: seen) rest
    else if c = '"' then splitsFrom level 0 closers true (c :: seen) rest
    else
      match closerOf? c, closers with
      | some closer, _ => splitsFrom level 0 (closer :: closers) false (c :: seen) rest
      | none, closer :: outer =>
        splitsFrom level 0 (if c = closer then outer else closers) false (c :: seen) rest
      | none, [] =>
        match level.ops.find? (·.standsAt seen (c :: rest)) with
        | some op =>
          ⟨seen, op, (c :: rest).drop op.chars.length⟩ ::
            splitsFrom level (op.chars.length - 1) [] false (c :: seen) rest
        | none => splitsFrom level 0 [] false (c :: seen) rest

/-- The operators of a level outside brackets and string literals, from left to right. -/
def splits (level : Level) (cs : List Char) : List Split :=
  splitsFrom level 0 [] false [] cs

/-- The operator at which a text is split: of the loosest level that has one, the first or the last
operator, as the level groups. -/
def split? (cs : List Char) : Option Split :=
  Level.all.findSome? fun level =>
    if level.groupsLeft then (splits level cs).getLast? else (splits level cs).head?

/-! ## Operands are shorter -/

theorem BinaryOp.seen_ne_nil {op : BinaryOp} {seen ahead : List Char}
    (h : op.standsAt seen ahead = true) : seen ≠ [] := by
  rintro rfl
  simp [BinaryOp.standsAt] at h

theorem length_lt_of_mem_splitsFrom {level : Level} {skip : Nat} {closers : List Char}
    {quoted : Bool} {seen cs : List Char} {s : Split}
    (h : s ∈ splitsFrom level skip closers quoted seen cs) :
    s.seen.length < seen.length + cs.length ∧ s.right.length < seen.length + cs.length := by
  induction cs generalizing skip closers quoted seen with
  | nil => simp [splitsFrom] at h
  | cons c rest ih =>
    have next : ∀ {skip closers quoted}, s ∈ splitsFrom level skip closers quoted (c :: seen) rest →
        s.seen.length < seen.length + (c :: rest).length ∧
          s.right.length < seen.length + (c :: rest).length := by
      intro skip closers quoted h
      have := ih h
      simp only [List.length_cons] at *
      omega
    unfold splitsFrom at h
    split at h
    · exact next h
    split at h
    · exact next h
    split at h
    · exact next h
    split at h
    · exact next h
    · exact next h
    split at h
    · rename_i op found
      rcases List.mem_cons.1 h with rfl | h
      · have stands := List.find?_some found
        have before := List.length_pos_iff.2 (BinaryOp.seen_ne_nil stands)
        have size := List.length_pos_iff.2 op.chars_ne_nil
        simp only [List.length_cons, List.length_drop]
        omega
      · exact next h
    · exact next h

/-- Both operands are shorter than the text. -/
theorem length_operands_lt {cs : List Char} {s : Split} (h : split? cs = some s) :
    s.left.length < cs.length ∧ s.right.length < cs.length := by
  obtain ⟨level, -, found⟩ := List.exists_of_findSome?_eq_some h
  have member : s ∈ splits level cs := by
    split at found
    · exact List.mem_of_getLast? found
    · exact List.mem_of_head? found
  simpa [Split.left] using length_lt_of_mem_splitsFrom member

end Expr
end AccountAudit
