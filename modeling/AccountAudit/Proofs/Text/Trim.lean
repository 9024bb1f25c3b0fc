import AccountAudit.Text.Basic
import AccountAudit.Text.Digit
import Mathlib.Data.List.DropRight

/-!
# Blanks and trimming

No blank is a word character or a digit. Trimming takes the blanks around a text away and leaves a
text alone that neither starts nor ends with one (`trim_pad`).
-/

namespace AccountAudit
namespace Text

/-! ## Classes of characters -/

theorem exists_range_of_holds {ranges : CharRanges} {n : Nat} (h : ranges.holds n = true) :
    ∃ range ∈ ranges, range.1 ≤ n ∧ n ≤ range.2 := by
  rw [CharRanges.holds] at h
  induction ranges with
  | nil => simp [CharRanges.start?] at h
  | cons range rest ih =>
    rcases range with ⟨first, last⟩
    rw [CharRanges.start?] at h
    -- The ranges ascend: below the first one, the search stops.
    by_cases before : n < first
    · simp [before] at h
    · by_cases inside : n ≤ last
      · exact ⟨(first, last), List.mem_cons_self, by simpa using before, inside⟩
      · rcases ih (by simpa [before, inside] using h) with ⟨range, member, holds⟩
        exact ⟨range, List.mem_cons_of_mem _ member, holds⟩

/-- Ranges that lie apart hold no code point together. -/
theorem holds_eq_false_of_apart {ranges others : CharRanges} {n : Nat}
    (apart : ∀ r ∈ ranges, ∀ s ∈ others, r.2 < s.1 ∨ s.2 < r.1) (h : ranges.holds n = true) :
    others.holds n = false := by
  cases held : others.holds n with
  | false => rfl
  | true =>
    rcases exists_range_of_holds h with ⟨r, inside, low, high⟩
    rcases exists_range_of_holds held with ⟨s, inside', low', high'⟩
    have distance := apart r inside s inside'
    omega

theorem isWord_of_isBlank {c : Char} (h : isBlank c = true) : isWord c = false :=
  holds_eq_false_of_apart (by decide +kernel) h

theorem isDigit_of_isBlank {c : Char} (h : isBlank c = true) : isDigit c = false :=
  holds_eq_false_of_apart (by decide +kernel) h

/-! ## Trimming -/

/-- The text starts and ends with characters that are no blanks. -/
structure Tight (cs : List Char) : Prop where
  head : ∀ c, cs.head? = some c → isBlank c = false
  last : ∀ c, cs.getLast? = some c → isBlank c = false

theorem dropWhile_pad {gap cs : List Char} (blank : gap.all isBlank = true)
    (head : ∀ c, cs.head? = some c → isBlank c = false) :
    (gap ++ cs).dropWhile isBlank = cs := by
  rw [List.dropWhile_append_of_pos (by simpa using blank)]
  cases cs with
  | nil => rfl
  | cons c rest => simp [head c rfl]

/-- Trimming takes the blanks around a text away, and nothing else. -/
theorem trim_pad {front cs back : List Char} (blankFront : front.all isBlank = true)
    (blankBack : back.all isBlank = true) (tight : Tight cs) (some : cs ≠ []) :
    trim (front ++ cs ++ back) = cs := by
  have start : trimStart (front ++ (cs ++ back)) = cs ++ back := by
    refine dropWhile_pad blankFront fun c found => tight.head c ?_
    rcases List.exists_cons_of_ne_nil some with ⟨d, rest, rfl⟩
    exact found
  -- The end is trimmed in the reversed text, where the last character comes first.
  have stop : (back.reverse ++ cs.reverse).dropWhile isBlank = cs.reverse := by
    refine dropWhile_pad (by simpa using blankBack) fun c found => tight.last c ?_
    rwa [List.head?_reverse] at found
  rw [trim, List.append_assoc, start, trimEnd, List.reverse_append, stop, List.reverse_reverse]

theorem trim_pad_front {front cs : List Char} (blank : front.all isBlank = true)
    (tight : Tight cs) (some : cs ≠ []) : trim (front ++ cs) = cs := by
  have padded : trim (front ++ cs ++ []) = cs := trim_pad blank rfl tight some
  simpa using padded

theorem trim_of_tight {cs : List Char} (tight : Tight cs) (some : cs ≠ []) : trim cs = cs := by
  have padded : trim ([] ++ cs) = cs := trim_pad_front rfl tight some
  rwa [List.nil_append] at padded

/-! ## Trimming one end -/

theorem all_isBlank_trimStart (cs : List Char) :
    (trimStart cs).all isBlank = cs.all isBlank := by
  have whole : cs.takeWhile isBlank ++ trimStart cs = cs := List.takeWhile_append_dropWhile
  calc (trimStart cs).all isBlank
    _ = (cs.takeWhile isBlank ++ trimStart cs).all isBlank := by
      rw [List.all_append, List.all_takeWhile, Bool.true_and]
    _ = cs.all isBlank := by rw [whole]

theorem all_isBlank_trimEnd (cs : List Char) : (trimEnd cs).all isBlank = cs.all isBlank := by
  have start := all_isBlank_trimStart cs.reverse
  rw [trimStart, List.all_reverse] at start
  rw [trimEnd, List.all_reverse, start]

/-- The blanks in front of a text with something in it end where they end without what follows. -/
theorem trimStart_append {cs : List Char} (visible : cs.all isBlank = false) (ds : List Char) :
    trimStart (cs ++ ds) = trimStart cs ++ ds := by
  have some : ¬ (cs.dropWhile isBlank).isEmpty = true := by
    intro none
    rw [← all_isBlank_trimStart, trimStart, List.isEmpty_iff.1 none] at visible
    cases visible
  rw [trimStart, List.dropWhile_append, if_neg some, trimStart]

theorem trimEnd_append {ds : List Char} (visible : ds.all isBlank = false) (cs : List Char) :
    trimEnd (cs ++ ds) = cs ++ trimEnd ds := by
  have visible' : ds.reverse.all isBlank = false := by rwa [List.all_reverse]
  have start := trimStart_append visible' cs.reverse
  rw [trimStart] at start
  rw [trimEnd, List.reverse_append, start, List.reverse_append, List.reverse_reverse]
  rfl

theorem trimStart_trimStart (cs : List Char) : trimStart (trimStart cs) = trimStart cs :=
  List.dropWhile_idempotent isBlank cs

/-- Trimming the start first changes nothing. -/
theorem trim_trimStart (cs : List Char) : trim (trimStart cs) = trim cs := by
  rw [trim, trimStart_trimStart, trim]

theorem trimEnd_append_blanks (cs : List Char) :
    trimEnd cs ++ (cs.reverse.takeWhile isBlank).reverse = cs := by
  rw [trimEnd, ← List.reverse_append, List.takeWhile_append_dropWhile, List.reverse_reverse]

theorem trimStart_of_blank {cs : List Char} (blank : cs.all isBlank = true) : trimStart cs = [] :=
  List.dropWhile_eq_nil_iff.2 (List.all_eq_true.1 blank)

theorem trimEnd_append_blank (cs : List Char) {gap : List Char} (blank : gap.all isBlank = true) :
    trimEnd (cs ++ gap) = trimEnd cs := by
  have mirrored : ∀ c ∈ gap.reverse, isBlank c = true := by simpa using blank
  rw [trimEnd, List.reverse_append, List.dropWhile_append_of_pos mirrored, trimEnd]

/-- Trimming the end first changes nothing. -/
theorem trim_trimEnd (cs : List Char) : trim (trimEnd cs) = trim cs := by
  have whole := trimEnd_append_blanks cs
  have blank : (cs.reverse.takeWhile isBlank).reverse.all isBlank = true := by
    rw [List.all_reverse, List.all_takeWhile]
  cases visible : (trimEnd cs).all isBlank with
  | true =>
    have blank' : cs.all isBlank = true := by rwa [all_isBlank_trimEnd] at visible
    rw [trim, trim, trimStart_of_blank visible, trimStart_of_blank blank']
  | false =>
    calc trim (trimEnd cs)
      _ = trimEnd (trimStart (trimEnd cs) ++ (cs.reverse.takeWhile isBlank).reverse) := by
        rw [trimEnd_append_blank _ blank, trim]
      _ = trimEnd (trimStart (trimEnd cs ++ (cs.reverse.takeWhile isBlank).reverse)) := by
        rw [trimStart_append visible]
      _ = trim cs := by rw [whole, trim]

/-! ## Blanks around a text -/

theorem trimStart_blank_append (cs : List Char) {gap : List Char} (blank : gap.all isBlank = true) :
    trimStart (gap ++ cs) = trimStart cs :=
  List.dropWhile_append_of_pos (List.all_eq_true.1 blank)

/-- Blanks around a text do not matter. -/
theorem trim_around (cs : List Char) {front back : List Char} (blankFront : front.all isBlank = true)
    (blankBack : back.all isBlank = true) : trim (front ++ cs ++ back) = trim cs := by
  calc trim (front ++ cs ++ back)
    _ = trim (cs ++ back) := by
      rw [List.append_assoc, trim, trimStart_blank_append _ blankFront, ← trim]
    _ = trim (trimEnd (cs ++ back)) := (trim_trimEnd _).symm
    _ = trim cs := by rw [trimEnd_append_blank _ blankBack, trim_trimEnd]

/-- A text is what trimming leaves with blanks around it. -/
theorem exists_around_trim (cs : List Char) : ∃ front back, front.all isBlank = true ∧
    back.all isBlank = true ∧ cs = front ++ trim cs ++ back := by
  refine ⟨cs.takeWhile isBlank, ((trimStart cs).reverse.takeWhile isBlank).reverse,
    List.all_takeWhile, by rw [List.all_reverse, List.all_takeWhile], ?_⟩
  rw [List.append_assoc, trim, trimEnd_append_blanks, trimStart, List.takeWhile_append_dropWhile]

theorem trim_trim (cs : List Char) : trim (trim cs) = trim cs := by
  rcases exists_around_trim cs with ⟨front, back, blankFront, blankBack, whole⟩
  rw [← trim_around (trim cs) blankFront blankBack, ← whole]

/-- Trimming keeps the first character, if it is no blank. -/
theorem head?_trim {c : Char} (visible : isBlank c = false) (rest : List Char) :
    (trim (c :: rest)).head? = some c := by
  rcases exists_around_trim (c :: rest) with ⟨front, back, blankFront, blankBack, whole⟩
  have blank : ∀ {gap : List Char}, gap.all isBlank = true → c ∉ gap := by
    intro gap blank inside
    rw [List.all_eq_true.1 blank c inside] at visible
    cases visible
  cases front with
  | cons d front =>
    obtain ⟨rfl, -⟩ := List.cons_eq_cons.1 whole
    exact absurd List.mem_cons_self (blank blankFront)
  | nil =>
    cases trimmed : trim (c :: rest) with
    | nil =>
      rw [trimmed, List.append_nil, List.nil_append] at whole
      exact absurd (whole ▸ List.mem_cons_self) (blank blankBack)
    | cons d more =>
      rw [trimmed] at whole
      obtain ⟨rfl, -⟩ := List.cons_eq_cons.1 whole
      rfl

end Text
end AccountAudit
