import AccountAudit.Proofs.Expr.Token
import Mathlib.Data.List.Chain

/-!
# Identifiers

Digits are word characters, so the words of a text do not end at a digit. An identifier that stands in
a text between characters that are no word characters is one of the identifiers of the text
(`mem_identifiersOf`).
-/

namespace AccountAudit
namespace Text

/-! ## Digits -/

/-- In ascending ranges every range is found. -/
theorem holds_of_mem {ranges : CharRanges} {n : Nat}
    (ascending : ranges.IsChain fun r s => r.1 ≤ r.2 ∧ r.2 < s.1) {range : Nat × Nat}
    (member : range ∈ ranges) (low : range.1 ≤ n) (high : n ≤ range.2) :
    ranges.holds n = true := by
  have apart : ranges.Pairwise fun r s => r.1 ≤ r.2 ∧ r.2 < s.1 := by
    have trans : IsTrans (Nat × Nat) fun r s => r.1 ≤ r.2 ∧ r.2 < s.1 :=
      ⟨fun r s t first second => ⟨first.1, by omega⟩⟩
    exact List.isChain_iff_pairwise.1 ascending
  clear ascending
  rw [CharRanges.holds]
  induction ranges with
  | nil => cases member
  | cons first rest ih =>
    rcases first with ⟨start, stop⟩
    rw [List.pairwise_cons] at apart
    rw [CharRanges.start?]
    rcases List.mem_cons.1 member with rfl | later
    · have notBelow : ¬ n < start := Nat.not_lt.2 low
      simp [notBelow, high]
    · have behind := apart.1 range later
      dsimp only at behind
      have notBelow : ¬ n < start := by omega
      have notInside : ¬ n ≤ stop := by omega
      simpa [notBelow, notInside] using ih later apart.2

theorem isWord_of_isDigit {c : Char} (h : isDigit c = true) : isWord c = true := by
  rcases exists_range_of_holds h with ⟨r, inside, low, high⟩
  have table : ∀ r ∈ digitRanges, ∃ s ∈ wordRanges, s.1 ≤ r.1 ∧ r.2 ≤ s.2 := by decide +kernel
  rcases table r inside with ⟨s, member, low', high'⟩
  exact holds_of_mem (by decide +kernel) member (le_trans low' low) (le_trans high high')

/-! ## Words in a text -/

/-- A word that has been started goes on to its end. -/
theorem mem_identifiersFrom_some {start more behind : List Char}
    (word : ∀ c ∈ more, isWord c = true) (ends : ∀ c, [c] <+: behind → isWord c = false) :
    start.reverse ++ more ∈ identifiersFrom (some start) (more ++ behind) := by
  induction more generalizing start with
  | nil =>
    cases behind with
    | nil => simp [identifiersFrom]
    | cons c rest =>
      have stops : isWord c = false := ends c (List.prefix_append [c] rest)
      simp [identifiersFrom, stops]
  | cons c more ih =>
    rw [List.forall_mem_cons] at word
    rw [List.cons_append, identifiersFrom, if_pos word.1]
    have later : (c :: start).reverse ++ more ∈ identifiersFrom (some (c :: start)) (more ++ behind) :=
      ih word.2
    simpa using later

/-- What stands in front of a place that is in no word does not matter for the words behind it. -/
theorem mem_identifiersFrom_of_front {word : Option (List Char)} {front behind found : List Char}
    (start : front = [] → word = none) (ends : ∀ c, [c] <:+ front → isWord c = false)
    (member : found ∈ identifiersFrom none behind) :
    found ∈ identifiersFrom word (front ++ behind) := by
  induction front generalizing word with
  | nil =>
    rw [start rfl]
    exact member
  | cons c rest ih =>
    have later : ∀ d, [d] <:+ rest → isWord d = false :=
      fun d last => ends d (last.trans (List.suffix_cons c rest))
    cases rest with
    | nil =>
      have stops : isWord c = false := ends c List.suffix_rfl
      cases word with
      | none =>
        have noStart : startsWord c = false := by
          by_contra starts
          rw [Expr.isWord_of_startsWord (by simpa using starts)] at stops
          cases stops
        simpa [identifiersFrom, noStart] using member
      | some word => simpa [identifiersFrom, stops] using .inr member
    | cons d more =>
      have next : ∀ {word : Option (List Char)}, found ∈ identifiersFrom word (d :: more ++ behind) :=
        fun {word} => ih (by simp) later
      cases word with
      | none => exact next
      | some word =>
        rw [List.cons_append, identifiersFrom]
        split
        · exact next
        · exact List.mem_cons_of_mem _ next

/-- An identifier between characters that are no word characters is found. -/
theorem mem_identifiersOf {s : String} {front name behind : List Char}
    (written : s.toList = front ++ (name ++ behind))
    (head : ∃ c rest, name = c :: rest ∧ startsWord c = true) (word : ∀ c ∈ name, isWord c = true)
    (before : ∀ c, [c] <:+ front → isWord c = false)
    (after : ∀ c, [c] <+: behind → isWord c = false) :
    String.ofList name ∈ identifiersOf s := by
  rcases head with ⟨c, rest, rfl, starts⟩
  rw [List.forall_mem_cons] at word
  have here : c :: rest ∈ identifiersFrom none (c :: rest ++ behind) := by
    rw [List.cons_append, identifiersFrom, if_pos starts]
    have whole : [c].reverse ++ rest ∈ identifiersFrom (some [c]) (rest ++ behind) :=
      mem_identifiersFrom_some word.2 after
    exact whole
  rw [identifiersOf, identifiers, written]
  exact List.mem_map_of_mem (mem_identifiersFrom_of_front (fun _ => rfl) before here)

end Text
end AccountAudit
