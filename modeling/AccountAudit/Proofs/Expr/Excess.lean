import AccountAudit.Expr.Parser
import AccountAudit.Proofs.Expr.Bare
import AccountAudit.Proofs.Related

/-!
# Texts that cannot be read

Every text is read as some expression, except those in which an integer has too many digits. The
integer may stand in any construct that the text is taken apart into (`HoldsLongInteger`), since the
reading of a construct needs that of all its parts (`exists_parseChars_iff`).
-/

namespace AccountAudit
namespace Expr

/-- Among the constructs that a text is taken apart into is an integer with more digits than are
read. -/
inductive HoldsLongInteger : List Char → Prop where
  | here {raw : List Char} {t : IntegerText} (integer : integerText? (bare raw) = some t)
      (long : digitLimit < t.digits.length) : HoldsLongInteger raw
  | part {raw part : List Char} {shape : Shape} (apart : shapeOf raw = .ok shape)
      (inside : part ∈ shape.parts) (holds : HoldsLongInteger part) : HoldsLongInteger raw

theorem exists_value_iff {t : IntegerText} :
    (∃ n, t.value = .ok n) ↔ t.digits.length ≤ digitLimit := by
  rw [← exists_readDigits_iff, IntegerText.value]
  cases readDigits t.digits <;> simp

/-- The outermost construct is found unless it is a long integer. -/
theorem exists_shapeOf_iff (raw : List Char) :
    (∃ shape, shapeOf raw = .ok shape) ↔
      ∀ t, integerText? (bare raw) = some t → t.digits.length ≤ digitLimit := by
  unfold shapeOf
  generalize bare raw = cs
  cases integer : integerText? cs with
  | none =>
    refine iff_of_true ?_ (by simp)
    simp only [integer]
    split_ifs <;> exact ⟨_, rfl⟩
  | some t =>
    -- The words in front of integers are no integers.
    have notEmpty : cs ≠ [] := by
      rintro rfl
      cases integer
    have notTrue : cs ≠ ['t', 'r', 'u', 'e'] := by
      rintro rfl
      cases integer
    have notFalse : cs ≠ ['f', 'a', 'l', 's', 'e'] := by
      rintro rfl
      cases integer
    simp only [if_neg notEmpty, if_neg notTrue, if_neg notFalse, integer, Option.some.injEq,
      forall_eq']
    rw [← exists_value_iff, exists_map_iff]

/-- A text can be read unless a long integer stands somewhere in it. -/
theorem exists_parseChars_iff (raw : List Char) :
    (∃ e, parseChars raw = .ok e) ↔ ¬ HoldsLongInteger raw := by
  -- By induction on the length: every part of a construct is shorter than its text.
  induction size : raw.length using Nat.strongRecOn generalizing raw with
  | ind n ih =>
    rw [parseChars_eq]
    cases apart : shapeOf raw with
    | error excess =>
      have long := mt (exists_shapeOf_iff raw).2 (not_exists_ok apart)
      push Not at long
      rcases long with ⟨t, integer, long⟩
      exact iff_of_false (by simp [Except.bind]) (not_not.2 (.here integer long))
    | ok shape =>
      have parts : (∃ es, shape.parts.mapM parseChars = .ok es) ↔
          ∀ part ∈ shape.parts, ¬ HoldsLongInteger part := by
        rw [exists_mapM_iff]
        refine forall₂_congr fun part inside => ih part.length ?_ part rfl
        exact size ▸ length_lt_of_mem_parts apart inside
      refine exists_map_iff.trans (parts.trans ⟨?_, ?_⟩)
      · rintro readable (@⟨_, t, integer, long⟩ | @⟨_, part, other, apart', inside, holds⟩)
        · have short := (exists_shapeOf_iff raw).1 ⟨shape, apart⟩ t integer
          omega
        · obtain rfl : shape = other := Except.ok.inj (apart.symm.trans apart')
          exact readable part inside holds
      · exact fun readable part inside holds => readable (.part apart inside holds)

/-! ## Numerals -/

/-- Nothing around or in front of a numeral is dropped. -/
theorem bare_of_digits {cs : List Char} (digits : ∀ c ∈ cs, Text.isDigit c = true)
    (nonempty : cs ≠ []) : bare cs = cs := by
  rcases List.exists_cons_of_ne_nil nonempty with ⟨first, rest, rfl⟩
  have tight : Text.Tight (first :: rest) :=
    ⟨fun c head => isBlank_of_isDigit (digits c (List.mem_of_mem_head? head)),
      fun c last => isBlank_of_isDigit (digits c (List.mem_of_getLast? last))⟩
  have digit := digits first List.mem_cons_self
  exact bare_of_tight tight (ne_of_holds digit (by decide)) (ne_of_holds digit (by decide))

/-- A numeral with too many digits cannot be read. -/
theorem holdsLongInteger_of_digits {cs : List Char} (digits : ∀ c ∈ cs, Text.isDigit c = true)
    (long : digitLimit < cs.length) : HoldsLongInteger cs := by
  cases cs with
  | nil => cases long
  | cons first rest =>
    have others : ∀ c ∈ rest, Text.isDigit c = true ∨ c = '_' :=
      fun c inside => .inl (digits c (List.mem_cons_of_mem first inside))
    have written : integerText? (first :: rest ++ []) =
        some ⟨false, (first :: rest).filter (· != '_')⟩ :=
      integerText?_written false (digits first List.mem_cons_self) others (.inl rfl)
    have whole : (first :: rest).filter (· != '_') = first :: rest := by
      refine List.filter_eq_self.2 fun c inside => ?_
      have other : c ≠ '_' := ne_of_holds (digits c inside) (by decide)
      simpa using other
    rw [List.append_nil, whole] at written
    have bared := bare_of_digits digits (List.cons_ne_nil first rest)
    exact .here ((congrArg integerText? bared).trans written) long

end Expr
end AccountAudit
