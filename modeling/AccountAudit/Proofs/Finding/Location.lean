import AccountAudit.Finding.Basic
import AccountAudit.Proofs.Related
import AccountAudit.Proofs.Value.Literal

/-!
# Places as texts

The text of a place names its file and its two offsets, and it does so without ambiguity
(`Location.text_inj`): the file is what stands in front of the last colon, whatever colons, hyphens
and digits it has itself, and the hyphen between the offsets is the first one that is no sign.
-/

namespace AccountAudit

/-- The last place of an item cuts a list into the part in front of it and the part behind it. -/
theorem eq_of_append_cons_last {α : Type} {a : α} {front front' back back' : List α}
    (last : a ∉ back) (last' : a ∉ back') (same : front ++ a :: back = front' ++ a :: back') :
    front = front' ∧ back = back' := by
  have mirrored : back.reverse ++ a :: front.reverse = back'.reverse ++ a :: front'.reverse := by
    simpa using congrArg List.reverse same
  have parts := eq_of_append_cons (by simpa using last) (by simpa using last') mirrored
  exact ⟨List.reverse_injective parts.2, List.reverse_injective parts.1⟩

/-! ## Offsets as texts -/

namespace Offset

/-- The text of an offset. -/
def text (i : Int) : List Char :=
  (toString i).toList

theorem text_ofNat (n : Nat) : text (.ofNat n) = Nat.toDigits 10 n :=
  Json.toList_ofNat n

theorem text_negSucc (n : Nat) : text (.negSucc n) = '-' :: Nat.toDigits 10 (n + 1) :=
  Json.toList_negSucc n

theorem isDigit_of_mem_toDigits {n : Nat} {c : Char} (inside : c ∈ Nat.toDigits 10 n) :
    c.isDigit = true :=
  Nat.isDigit_of_mem_toDigits (by decide) (by decide) inside

theorem toDigits_injective {m n : Nat} (same : Nat.toDigits 10 m = Nat.toDigits 10 n) : m = n := by
  rw [← Nat.ofDigitChars_ten_toDigits (n := m), same, Nat.ofDigitChars_ten_toDigits]

/-- An offset is written by digits, with a hyphen in front of them at most. -/
theorem exists_text_eq_cons (i : Int) : ∃ first digits, text i = first :: digits ∧
    (first = '-' ∨ first.isDigit = true) ∧ ∀ c ∈ digits, c.isDigit = true := by
  cases i with
  | ofNat n =>
    rcases List.exists_cons_of_ne_nil (Nat.toDigits_ne_nil (n := n) (b := 10)) with
      ⟨first, digits, is⟩
    refine ⟨first, digits, (text_ofNat n).trans is, .inr ?_, fun c inside => ?_⟩
    · exact isDigit_of_mem_toDigits (is ▸ List.mem_cons_self)
    · exact isDigit_of_mem_toDigits (is ▸ List.mem_cons_of_mem first inside)
  | negSucc n => exact ⟨'-', _, text_negSucc n, .inl rfl, fun _ => isDigit_of_mem_toDigits⟩

theorem of_mem_text {i : Int} {c : Char} (inside : c ∈ text i) : c = '-' ∨ c.isDigit = true := by
  rcases exists_text_eq_cons i with ⟨first, digits, is, head, tail⟩
  rw [is, List.mem_cons] at inside
  rcases inside with rfl | later
  · exact head
  · exact .inr (tail c later)

theorem text_injective {i j : Int} (same : text i = text j) : i = j := by
  have unsigned : ∀ {m n : Nat}, Nat.toDigits 10 m ≠ '-' :: Nat.toDigits 10 n := by
    intro m n equal
    have digit : '-'.isDigit = true :=
      isDigit_of_mem_toDigits (n := m) (equal ▸ List.mem_cons_self)
    cases digit
  cases i with
  | ofNat m =>
    cases j with
    | ofNat n =>
      rw [text_ofNat, text_ofNat] at same
      rw [toDigits_injective same]
    | negSucc n =>
      rw [text_ofNat, text_negSucc] at same
      exact absurd same unsigned
  | negSucc m =>
    cases j with
    | ofNat n =>
      rw [text_ofNat, text_negSucc] at same
      exact absurd same.symm unsigned
    | negSucc n =>
      rw [text_negSucc, text_negSucc, List.cons.injEq] at same
      rw [Nat.succ.inj (toDigits_injective same.2)]

/-- Two offsets with a hyphen between them are told apart, whatever signs they have. -/
theorem eq_of_joined {i i' j j' : Int} (same : text i ++ '-' :: text j = text i' ++ '-' :: text j') :
    i = i' ∧ j = j' := by
  rcases exists_text_eq_cons i with ⟨first, digits, is, -, tail⟩
  rcases exists_text_eq_cons i' with ⟨first', digits', is', -, tail'⟩
  rw [is, is', List.cons_append, List.cons_append, List.cons.injEq] at same
  -- A sign can only be the first character, so behind it the first hyphen is the one between them.
  have parts := eq_of_append_cons (fun inside => by cases tail _ inside)
    (fun inside => by cases tail' _ inside) same.2
  refine ⟨text_injective ?_, text_injective parts.2⟩
  rw [is, is', same.1, parts.1]

end Offset

/-! ## Places -/

namespace Location

theorem toList_text (place : Location) : place.text.toList =
    place.file.toList ++ ':' :: (Offset.text place.start ++ '-' :: Offset.text place.stop) := by
  simp [text, Offset.text]

theorem colon_not_mem_offsets (start stop : Int) :
    ':' ∉ Offset.text start ++ '-' :: Offset.text stop := by
  have absent : ∀ i, ':' ∉ Offset.text i := by
    intro i inside
    rcases Offset.of_mem_text inside with hyphen | digit
    · cases hyphen
    · cases digit
  rw [List.mem_append, List.mem_cons]
  rintro (inside | hyphen | inside)
  · exact absent start inside
  · cases hyphen
  · exact absent stop inside

/-- The text of a place determines its file and its offsets. -/
theorem text_inj {place other : Location} : place.text = other.text ↔
    place.file = other.file ∧ place.start = other.start ∧ place.stop = other.stop := by
  constructor
  · intro same
    have chars := congrArg String.toList same
    rw [toList_text, toList_text] at chars
    -- The offsets have no colon, so the last colon is the one behind the file.
    have parts := eq_of_append_cons_last (colon_not_mem_offsets _ _) (colon_not_mem_offsets _ _) chars
    exact ⟨String.toList_injective parts.1, Offset.eq_of_joined parts.2⟩
  · rintro ⟨file, start, stop⟩
    rw [text, text, file, start, stop]

end Location
end AccountAudit
