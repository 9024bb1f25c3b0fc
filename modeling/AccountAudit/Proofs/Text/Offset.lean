import AccountAudit.Text.Basic
import Mathlib.Order.MinMax

/-!
# Offsets in a text

An offset that is not negative counts characters from the start of the text, and one beyond the end
means the end: the line of an offset counts line feeds among the characters in front of it
(`lineOf_eq`), and a slice takes the characters between two offsets (`slice_eq`).

A text can also be measured by its UTF-8 encoding. Its octets determine the text
(`octets_injective`), there are as many line feeds among them as among the characters
(`count_octets`), and at least as many octets as characters, with equality for ASCII texts only
(`length_octets_eq_iff`). So the number of octets in front of a character is an offset in characters
exactly behind an ASCII text.
-/

namespace AccountAudit
namespace Text

variable {cs : List Char} {start stop offset : Int}

/-! ## Offsets in characters -/

theorem position_eq (size : Nat) (nonneg : 0 ≤ offset) :
    position size offset = min offset.toNat size := by
  rw [position, if_neg (not_lt.2 nonneg)]

theorem take_position (cs : List Char) (nonneg : 0 ≤ offset) :
    cs.take (position cs.length offset) = cs.take offset.toNat := by
  rw [position_eq _ nonneg, List.take_eq_take_iff]
  simp

theorem lineOf_eq (cs : List Char) (nonneg : 0 ≤ offset) :
    lineOf cs offset = (cs.take offset.toNat).count '\n' + 1 := by
  rw [lineOf, take_position cs nonneg]

theorem slice_eq (cs : List Char) (nonneg : 0 ≤ start) (ordered : start ≤ stop) :
    slice cs start stop = (cs.drop start.toNat).take (stop - start).toNat := by
  have length : (stop - start).toNat = stop.toNat - start.toNat := by omega
  rw [slice, take_position cs (le_trans nonneg ordered), position_eq _ nonneg, length,
    ← List.drop_take]
  by_cases inside : start.toNat ≤ cs.length
  · rw [min_eq_left inside]
  -- Behind the end there is nothing to drop that is not dropped already.
  · have beyond : cs.length ≤ start.toNat := (not_le.1 inside).le
    rw [min_eq_right beyond, List.drop_eq_nil_of_le (by simp), List.drop_eq_nil_of_le]
    exact (List.length_take_le' _ _).trans beyond

/-! ## Octets -/

/-- The UTF-8 encoding of a text. -/
def octets (cs : List Char) : List UInt8 :=
  cs.flatMap String.utf8EncodeChar

theorem octets_cons (c : Char) (cs : List Char) :
    octets (c :: cs) = String.utf8EncodeChar c ++ octets cs :=
  List.flatMap_cons

theorem octets_append (cs ds : List Char) : octets (cs ++ ds) = octets cs ++ octets ds :=
  List.flatMap_append

/-- These are the octets of which the string is made. -/
theorem toByteArray_ofList (cs : List Char) :
    (String.ofList cs).toByteArray = (octets cs).toByteArray :=
  String.toByteArray_ofList

theorem octets_injective {cs ds : List Char} (same : octets cs = octets ds) : cs = ds := by
  have strings : String.ofList cs = String.ofList ds := by
    apply String.toByteArray_inj.1
    rw [toByteArray_ofList, toByteArray_ofList, same]
  simpa using congrArg String.toList strings

/-- The line feed. -/
def lineFeed : UInt8 := 10

/-- Every octet of a character that is not of ASCII is above those of ASCII. -/
theorem le_of_mem_utf8EncodeChar {c : Char} {octet : UInt8} (wide : 127 < c.val.toNat)
    (inside : octet ∈ String.utf8EncodeChar c) : 128 ≤ octet.toNat := by
  have high : ∀ n, 128 ≤ n → n < 256 → octet = UInt8.ofNat n → 128 ≤ octet.toNat := by
    intro n low small same
    rwa [same, UInt8.toNat_ofNat_of_lt' small]
  simp only [String.utf8EncodeChar, if_neg (not_le.2 wide)] at inside
  split at inside
  · simp only [List.mem_cons, List.not_mem_nil, or_false] at inside
    rcases inside with same | same <;> exact high _ (by omega) (by omega) same
  split at inside <;> simp only [List.mem_cons, List.not_mem_nil, or_false] at inside
  · rcases inside with same | same | same <;> exact high _ (by omega) (by omega) same
  · rcases inside with same | same | same | same <;> exact high _ (by omega) (by omega) same

theorem lineFeed_notMem {c : Char} (other : c ≠ '\n') : lineFeed ∉ String.utf8EncodeChar c := by
  intro inside
  by_cases wide : 127 < c.val.toNat
  · have := le_of_mem_utf8EncodeChar wide inside
    contradiction
  -- A character of ASCII is its own octet.
  · simp only [String.utf8EncodeChar, if_pos (not_lt.1 wide), List.mem_singleton] at inside
    apply other
    have small : c.val.toNat < UInt8.size := lt_of_le_of_lt (not_lt.1 wide) (by decide)
    have code := congrArg UInt8.toNat inside
    rw [UInt8.toNat_ofNat_of_lt' small] at code
    exact Char.val_inj.1 (UInt32.toNat_inj.1 code.symm)

theorem count_octets (cs : List Char) : (octets cs).count lineFeed = cs.count '\n' := by
  induction cs with
  | nil => rfl
  | cons c rest ih =>
    rw [octets_cons, List.count_append, ih]
    by_cases feed : c = '\n'
    · subst feed
      rw [List.count_cons_self, Nat.add_comm]
      rfl
    · rw [List.count_eq_zero.2 (lineFeed_notMem feed), List.count_cons_of_ne feed, Nat.zero_add]

/-- A character of ASCII. -/
def isAscii (c : Char) : Bool :=
  c.toNat ≤ 127

theorem utf8Size_eq_one_iff (c : Char) : c.utf8Size = 1 ↔ isAscii c = true := by
  rw [Char.utf8Size_eq_one_iff, isAscii, decide_eq_true_iff]
  exact UInt32.le_iff_toNat_le

theorem length_octets_cons (c : Char) (cs : List Char) :
    (octets (c :: cs)).length = c.utf8Size + (octets cs).length := by
  rw [octets_cons, List.length_append, String.length_utf8EncodeChar]

theorem length_le_length_octets (cs : List Char) : cs.length ≤ (octets cs).length := by
  induction cs with
  | nil => simp
  | cons c rest ih =>
    have some := c.utf8Size_pos
    rw [length_octets_cons, List.length_cons]
    omega

theorem length_octets_eq_iff (cs : List Char) :
    (octets cs).length = cs.length ↔ cs.all isAscii = true := by
  induction cs with
  | nil => simp [octets]
  | cons c rest ih =>
    have some := c.utf8Size_pos
    have others := length_le_length_octets rest
    rw [List.all_cons, Bool.and_eq_true, ← ih, ← utf8Size_eq_one_iff, length_octets_cons,
      List.length_cons]
    omega

end Text
end AccountAudit
