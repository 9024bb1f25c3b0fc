import AccountAudit.Expr.Atom
import AccountAudit.Expr.Basic
import AccountAudit.Expr.Split

/-!
# Reading expressions

Documents write expressions as text. A text is first taken apart into its outermost construct and
the texts of that construct's parts (`shapeOf`), without looking into the parts; reading then reads
the parts (`parse`). Every part is shorter than the text it was cut from
(`length_lt_of_mem_parts`), so reading ends.

Every text is read as something: what is not understood becomes an unknown node with the whole text
in it. The one failure is an integer with too many digits.
-/

namespace AccountAudit
namespace Expr

/-- The outermost construct of a text, with the texts of its parts. -/
inductive Shape where
  | unknown
  | literal (value : Value)
  | path (text : List Char)
  | binary (left : List Char) (op : BinaryOp) (right : List Char)
  | negation (operand : List Char)
  | call (func : List Char) (args : List (List Char))
  | array (items : List (List Char))
  | index (base : List Char) (bounds : List (List Char)) (inner : List Char)
  deriving DecidableEq, Repr

/-- The texts that a construct leaves to be read. -/
def Shape.parts : Shape → List (List Char)
  | .unknown | .literal _ | .path _ => []
  | .binary left _ right => [left, right]
  | .negation operand => [operand]
  | .call _ args => args
  | .array items => items
  | .index base bounds _ => base :: bounds

/-- The text without a mark in front of it and the blanks around what remains. -/
def unmarked (mark cs : List Char) : List Char :=
  Text.trim (Text.withoutStart mark cs)

/-- The text without the marks that do not change what it stands for: blanks and round brackets
around it, and the sign of a borrowed or mutably borrowed value in front of it. -/
@[irreducible]
def bare (raw : List Char) : List Char :=
  stripRound (unmarked ['&'] (unmarked ['&', 'm', 'u', 't', ' '] (stripRound (Text.trim raw))))

/-- The bounds of an index: one, or two with `..` between them, each of which may be missing. -/
def boundsOf (inner : List Char) : List (List Char) :=
  (Text.splitOn ['.', '.'] inner).filter fun bound => !bound.all Text.isBlank

/-- A text that ends with a square bracket: an array, or an index behind its base. -/
def bracketShape (cs : List Char) : Shape :=
  match openerOfLast? cs with
  | none => .unknown
  | some 0 => .array (splitArgs (inside cs))
  | some place =>
    let inner := Text.trim (cs.drop (place + 1)).dropLast
    .index (cs.dropLast.take place) (boundsOf inner) inner

/-- A construct that is no atom and has no operator outside its brackets. -/
def closedShape (cs : List Char) : Shape :=
  match cs with
  | '!' :: c :: rest => .negation (c :: rest)
  | _ =>
    match callParts? cs with
    | some (func, brackets) =>
      if closesAtEnd brackets then .call func (splitArgs (inside brackets)) else bracketShape cs
    | none => bracketShape cs

/-- A construct other than an integer. -/
def openShape (cs : List Char) : Shape :=
  if isStringLiteral cs then .literal (.text (String.ofList cs))
  else if isPath cs then .path cs
  else
    match split? cs with
    | some s => .binary s.left s.op s.right
    | none => closedShape cs

/-- The outermost construct of a text. -/
def shapeOf (raw : List Char) : Except DigitExcess Shape :=
  let cs := bare raw
  if cs = [] then .ok .unknown
  else if cs = ['t', 'r', 'u', 'e'] then .ok (.literal (.bool true))
  else if cs = ['f', 'a', 'l', 's', 'e'] then .ok (.literal (.bool false))
  else
    match integerText? cs with
    | some t => t.value.map fun n => .literal (.int n)
    | none => .ok (openShape cs)

/-! ## Parts are shorter -/

theorem length_unmarked_le (mark cs : List Char) : (unmarked mark cs).length ≤ cs.length :=
  Nat.le_trans (Text.length_trim_le _) (Text.length_withoutStart_le mark cs)

theorem length_bare_le (raw : List Char) : (bare raw).length ≤ raw.length :=
  calc (bare raw).length
    _ ≤ _ := by
      unfold bare
      exact length_stripRound_le _
    _ ≤ _ := length_unmarked_le _ _
    _ ≤ _ := length_unmarked_le _ _
    _ ≤ _ := length_stripRound_le _
    _ ≤ _ := Text.length_trim_le raw

theorem length_le_of_mem_boundsOf {inner bound : List Char} (h : bound ∈ boundsOf inner) :
    bound.length ≤ inner.length :=
  Text.length_le_of_mem_splitOn (List.mem_filter.1 h).1

theorem length_lt_of_mem_bracketShape {cs part : List Char} (hcs : cs ≠ [])
    (h : part ∈ (bracketShape cs).parts) : part.length < cs.length := by
  have size := List.length_pos_iff.2 hcs
  unfold bracketShape at h
  split at h
  · simp [Shape.parts] at h
  · exact Nat.lt_of_le_of_lt (length_le_of_mem_splitArgs h) (length_inside_lt hcs)
  · rename_i place _ _
    rcases List.mem_cons.1 h with rfl | h
    · simp only [List.length_take, List.length_dropLast]
      omega
    · have := length_le_of_mem_boundsOf h
      have := Text.length_trim_le (cs.drop (place + 1)).dropLast
      simp only [List.length_dropLast, List.length_drop] at *
      omega

theorem length_lt_of_mem_closedShape {cs part : List Char} (hcs : cs ≠ [])
    (h : part ∈ (closedShape cs).parts) : part.length < cs.length := by
  unfold closedShape at h
  split at h
  · simp only [Shape.parts, List.mem_singleton] at h
    simp [h]
  · split at h
    · rename_i func brackets parts
      split at h
      · have le : brackets.length ≤ cs.length := by
          simp only [callParts?] at parts
          split at parts
          · obtain ⟨-, rfl⟩ := Prod.mk.inj (Option.some.inj parts)
            exact (List.dropWhile_sublist isNamePart).length_le
          · simp at parts
        have := length_le_of_mem_splitArgs h
        have := length_inside_le brackets
        have := List.length_pos_iff.2 hcs
        omega
      · exact length_lt_of_mem_bracketShape hcs h
    · exact length_lt_of_mem_bracketShape hcs h

theorem length_lt_of_mem_openShape {cs part : List Char} (hcs : cs ≠ [])
    (h : part ∈ (openShape cs).parts) : part.length < cs.length := by
  unfold openShape at h
  split at h
  · simp [Shape.parts] at h
  split at h
  · simp [Shape.parts] at h
  split at h
  · rename_i s found
    obtain ⟨left, right⟩ := length_operands_lt found
    simp only [Shape.parts, List.mem_cons, List.not_mem_nil, or_false] at h
    rcases h with rfl | rfl <;> assumption
  · exact length_lt_of_mem_closedShape hcs h

/-- Every part of a construct is shorter than the text it was cut from. -/
theorem length_lt_of_mem_parts {raw part : List Char} {shape : Shape}
    (h : shapeOf raw = .ok shape) (hp : part ∈ shape.parts) : part.length < raw.length := by
  have le := length_bare_le raw
  unfold shapeOf at h
  dsimp only at h
  split at h
  · obtain rfl := Except.ok.inj h
    simp [Shape.parts] at hp
  rename_i notEmpty
  split at h
  · obtain rfl := Except.ok.inj h
    simp [Shape.parts] at hp
  split at h
  · obtain rfl := Except.ok.inj h
    simp [Shape.parts] at hp
  split at h
  · rename_i t _
    cases value : t.value with
    | error e => simp [value, Except.map] at h
    | ok n =>
      simp only [value, Except.map, Except.ok.injEq] at h
      subst h
      simp [Shape.parts] at hp
  · obtain rfl := Except.ok.inj h
    exact Nat.lt_of_lt_of_le (length_lt_of_mem_openShape notEmpty hp) le

/-! ## Reading -/

/-- The node of a construct whose parts have been read, in the order of `Shape.parts`. -/
def Shape.assemble (raw : List Char) : Shape → List Expr → Expr
  | .literal value, _ => ofValue value
  | .path text, _ => ofPath (String.ofList text)
  | .binary _ op _, [left, right] => ofBinary op.symbol left right
  | .negation _, [operand] => ofUnary "!" operand
  | .call func _, args => ofCall (String.ofList func) args
  | .array _, items => ofArray items
  | .index _ _ inner, base :: bounds => ofIndex base bounds (String.ofList inner)
  | _, _ => ofRaw (String.ofList raw)

theorem mapM_congr {α β ε : Type} {f g : α → Except ε β} {xs : List α}
    (h : ∀ x ∈ xs, f x = g x) : xs.mapM f = xs.mapM g := by
  induction xs with
  | nil => rfl
  | cons x rest ih =>
    simp only [List.mem_cons, forall_eq_or_imp] at h
    simp only [List.mapM_cons, h.1, ih h.2]

/-- Reads an expression whose constructs are nested at most `depth` deep. -/
def parseWithin : Nat → List Char → Except DigitExcess Expr
  | 0, raw => .ok (ofRaw (String.ofList raw))
  | depth + 1, raw => do
    let shape ← shapeOf raw
    let parts ← shape.parts.mapM (parseWithin depth)
    pure (shape.assemble raw parts)

/-- Reads an expression. Its constructs are nested no deeper than the text is long. -/
def parseChars (raw : List Char) : Except DigitExcess Expr :=
  parseWithin (raw.length + 1) raw

/-- Reads an expression. -/
def parse (text : String) : Except DigitExcess Expr :=
  parseChars text.toList

/-- A greater depth than the text is long changes nothing. -/
theorem parseWithin_of_length_lt {depth : Nat} {raw : List Char} (h : raw.length < depth) :
    parseWithin depth raw = parseChars raw := by
  unfold parseChars
  generalize size : raw.length = n at h
  induction n using Nat.strongRecOn generalizing raw depth with
  | ind n ih =>
    match depth with
    | depth + 1 =>
      simp only [parseWithin]
      cases shape : shapeOf raw with
      | error => rfl
      | ok shape' =>
        have parts : shape'.parts.mapM (parseWithin depth) = shape'.parts.mapM (parseWithin n) := by
          refine mapM_congr fun part member => ?_
          have shorter := length_lt_of_mem_parts shape member
          rw [ih part.length (by omega) rfl (by omega),
            @ih part.length (by omega) n part rfl (by omega)]
        simp only [bind, Except.bind, parts]

/-- Reading a text reads its construct, then the parts of it from left to right. -/
theorem parseChars_eq (raw : List Char) :
    parseChars raw = (shapeOf raw).bind fun shape =>
      (shape.parts.mapM parseChars).map (shape.assemble raw) := by
  rw [parseChars, parseWithin]
  cases shape : shapeOf raw with
  | error => rfl
  | ok shape' =>
    have parts : shape'.parts.mapM (parseWithin raw.length) = shape'.parts.mapM parseChars :=
      mapM_congr fun part member =>
        parseWithin_of_length_lt (length_lt_of_mem_parts shape member)
    simp only [bind, Except.bind, parts]
    cases shape'.parts.mapM parseChars <;> rfl

end Expr
end AccountAudit
