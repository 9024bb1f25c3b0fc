import AccountAudit.Text.Basic
import Mathlib.Algebra.Order.BigOperators.Group.List
import Mathlib.Algebra.Order.Ring.Nat

/-!
# Splitting

At a separator of one character, texts are split as lists are. A text in which a separator cannot even
start is not split, and a text around a separator is split into its two sides exactly if no other
separator occurs (`splitOn_eq_pair_iff`). The last piece is an end of the text without separators
(`lastPiece_isSuffix`). In front of a character that the separator has not, a text is split in one way,
whatever follows (`exists_splitOnFrom_append_cons`).
-/

namespace AccountAudit
namespace Text

theorem splitOnFrom_singleton (c : Char) (piece cs : List Char) :
    splitOnFrom [c] 0 piece cs = (cs.splitOn c).modifyHead (piece.reverse ++ ·) := by
  -- `piece` holds what was read since the last separator, in reverse.
  induction cs generalizing piece with
  | nil => simp [splitOnFrom]
  | cons d rest ih =>
    rw [splitOnFrom, List.splitOn_cons_eq_if_modifyHead]
    by_cases here : d = c
    · have whole : (rest.splitOn c).modifyHead (fun tail => tail) = rest.splitOn c := by
        cases rest.splitOn c <;> rfl
      simp [here, ih, whole]
    · simp [here, Ne.symm here, ih, List.modifyHead_modifyHead, Function.comp_def]

theorem splitOn_singleton (c : Char) (cs : List Char) : splitOn [c] cs = cs.splitOn c := by
  rw [splitOn, splitOnFrom_singleton]
  cases cs.splitOn c <;> rfl

/-- The separator is in no piece. -/
theorem not_mem_of_mem_splitOn {c : Char} {cs piece : List Char} (h : piece ∈ splitOn [c] cs) :
    c ∉ piece := by
  rw [splitOn_singleton] at h
  induction cs generalizing piece with
  | nil =>
    obtain rfl : piece = [] := by simpa using h
    exact List.not_mem_nil
  | cons d rest ih =>
    rw [List.splitOn_cons_eq_if_modifyHead] at h
    split at h
    · rcases List.mem_cons.1 h with rfl | later
      · exact List.not_mem_nil
      · exact ih later
    · rename_i other
      -- The character joins the first piece of the rest; the other pieces are as they were.
      cases pieces : rest.splitOn c with
      | nil => simp [pieces] at h
      | cons first more =>
        rw [pieces, List.modifyHead_cons] at h
        rcases List.mem_cons.1 h with rfl | later
        · have inside : c ∉ first := ih (by simp [pieces])
          have different : c ≠ d := by
            rintro rfl
            exact other (by simp)
          simp [inside, different]
        · exact ih (by simp [pieces, later])

/-- Texts without the separator are the pieces of what they make when joined by it. -/
theorem splitString_intercalate {c : Char} {names : List String}
    (plain : ∀ name ∈ names, c ∉ name.toList) (some : names ≠ []) :
    splitString (String.singleton c) ((String.singleton c).intercalate names) = names := by
  rw [splitString, String.toList_singleton, splitOn_singleton, String.toList_intercalate,
    String.toList_singleton, List.splitOn_intercalate]
  · simp [Function.comp_def]
  · intro piece member
    rcases List.mem_map.1 member with ⟨name, inside, rfl⟩
    exact plain name inside
  · simpa using some

/-! ## Texts with and without separators -/

/-- A text in which the separator does not occur is one piece. -/
theorem splitOnFrom_of_not_occursIn {sep : List Char} (piece : List Char) {cs : List Char}
    (absent : occursIn sep cs = false) : splitOnFrom sep 0 piece cs = [piece.reverse ++ cs] := by
  induction cs generalizing piece with
  | nil => simp [splitOnFrom]
  | cons c rest ih =>
    rw [occursIn, Bool.or_eq_false_iff] at absent
    rw [splitOnFrom, if_neg (by simp [absent.1]), ih (c :: piece) absent.2]
    simp

/-- A separator does not occur without its first character. -/
theorem occursIn_of_not_mem {first : Char} {others cs : List Char} (absent : first ∉ cs) :
    occursIn (first :: others) cs = false := by
  induction cs with
  | nil => rfl
  | cons c rest ih =>
    rw [List.mem_cons, not_or] at absent
    simp [occursIn, List.isPrefixOf, absent.1, ih absent.2]

theorem before_of_not_mem {first : Char} {others cs : List Char} (absent : first ∉ cs) :
    before (first :: others) cs = cs := by
  simp [before, splitOn, splitOnFrom_of_not_occursIn [] (occursIn_of_not_mem absent)]

theorem splitOnFrom_ne_nil (sep : List Char) (pass : Nat) (piece cs : List Char) :
    splitOnFrom sep pass piece cs ≠ [] := by
  fun_induction splitOnFrom sep pass piece cs with
  | case1 => simp
  | case2 pass piece c rest ih => exact ih
  | case3 => simp
  | case4 piece c rest absent ih => exact ih

/-- A text in which the separator occurs has two pieces at least. -/
theorem exists_splitOnFrom_of_occursIn {sep : List Char} (nonempty : sep ≠ []) (piece : List Char)
    {cs : List Char} (present : occursIn sep cs = true) :
    ∃ first second more, splitOnFrom sep 0 piece cs = first :: second :: more := by
  induction cs generalizing piece with
  | nil => simp [occursIn, nonempty] at present
  | cons c rest ih =>
    rw [splitOnFrom]
    split
    · rcases List.exists_cons_of_ne_nil (splitOnFrom_ne_nil sep (sep.length - 1) [] rest) with
        ⟨second, more, pieces⟩
      exact ⟨_, second, more, by rw [pieces]⟩
    · rename_i absent
      rw [occursIn, Bool.or_eq_true] at present
      exact ih (c :: piece) (present.resolve_left absent)

/-! ## First pieces -/

/-- The first piece is the whole text, or a separator follows it. -/
theorem splitOnFrom_cases (sep piece cs : List Char) :
    ∃ first more, splitOnFrom sep 0 piece cs = (piece.reverse ++ first) :: more ∧
      (cs = first ∨ ∃ rest, cs = first ++ (sep ++ rest)) := by
  induction cs generalizing piece with
  | nil => exact ⟨[], [], by simp [splitOnFrom], .inl rfl⟩
  | cons c cs ih =>
    rw [splitOnFrom]
    by_cases here : sep.isPrefixOf (c :: cs) = true
    · rcases List.isPrefixOf_iff_prefix.1 here with ⟨rest, whole⟩
      rw [if_pos here]
      exact ⟨[], _, by rw [List.append_nil], .inr ⟨rest, whole.symm⟩⟩
    · rw [if_neg here]
      rcases ih (c :: piece) with ⟨first, more, pieces, whole⟩
      refine ⟨c :: first, more, by simp [pieces], ?_⟩
      rcases whole with rfl | ⟨rest, rfl⟩
      · exact .inl rfl
      · exact .inr ⟨rest, rfl⟩

theorem before_cases (sep cs : List Char) :
    cs = before sep cs ∨ ∃ rest, cs = before sep cs ++ (sep ++ rest) := by
  rcases splitOnFrom_cases sep [] cs with ⟨first, more, pieces, whole⟩
  have same : before sep cs = first := by simp [before, splitOn, pieces]
  rw [same]
  exact whole

/-! ## Lengths of pieces -/

/-- The pieces and the separators between them are as long as the text. -/
theorem length_splitOnFrom {sep : List Char} (nonempty : sep ≠ []) (pass : Nat)
    (piece cs : List Char) :
    ((splitOnFrom sep pass piece cs).map List.length).sum + min pass cs.length +
        sep.length * (splitOnFrom sep pass piece cs).length =
      piece.length + cs.length + sep.length := by
  have size := List.length_pos_iff.2 nonempty
  fun_induction splitOnFrom sep pass piece cs with
  | case1 => simp
  | case2 pass piece c rest ih =>
    simp only [List.length_cons] at *
    omega
  | case3 piece c rest found ih =>
    -- The rest of the separator lies in the rest of the text, so all of it is passed over.
    have inside := (List.isPrefixOf_iff_prefix.1 found).length_le
    simp only [List.map_cons, List.sum_cons, List.length_cons, List.length_reverse,
      List.length_nil, Nat.mul_add] at *
    omega
  | case4 piece c rest absent ih =>
    simp only [List.length_cons] at *
    omega

theorem splitOnFrom_pass (sep piece skipped cs : List Char) :
    splitOnFrom sep skipped.length piece (skipped ++ cs) = splitOnFrom sep 0 piece cs := by
  induction skipped with
  | nil => rfl
  | cons c rest ih => rw [List.cons_append, List.length_cons, splitOnFrom, ih]

/-! ## Pairs of pieces -/

section Pair

variable {sep : List Char}

theorem occursIn_iff_isInfix {cs : List Char} : occursIn sep cs = true ↔ sep <:+: cs := by
  induction cs with
  | nil => simp [occursIn]
  | cons c rest ih =>
    rw [occursIn, Bool.or_eq_true, ih, List.isPrefixOf_iff_prefix, List.infix_cons_iff]

theorem splitOnFrom_of_not_isInfix (piece : List Char) {cs : List Char} (absent : ¬ sep <:+: cs) :
    splitOnFrom sep 0 piece cs = [piece.reverse ++ cs] :=
  splitOnFrom_of_not_occursIn piece (by simpa [← occursIn_iff_isInfix] using absent)

/-- A separator begins at a text exactly if it begins at enough of the text. -/
theorem prefix_append_dropLast_iff (c : Char) (front behind : List Char) :
    sep <+: c :: (front ++ sep.dropLast) ↔ sep <+: c :: (front ++ (sep ++ behind)) := by
  have longer : c :: (front ++ sep.dropLast) <+: c :: (front ++ (sep ++ behind)) := by
    have start : sep.dropLast <+: sep ++ behind :=
      (List.dropLast_prefix sep).trans (List.prefix_append sep behind)
    exact List.cons_prefix_cons.2 ⟨rfl, (List.prefix_append_right_inj front).2 start⟩
  constructor
  · exact fun begins => begins.trans longer
  · intro begins
    refine List.prefix_of_prefix_length_le begins longer ?_
    simp only [List.length_cons, List.length_append, List.length_dropLast]
    omega

/-- A text is cut at a separator if none begins in front of it. -/
theorem splitOnFrom_append (nonempty : sep ≠ []) (piece : List Char) {front : List Char}
    (absent : ¬ sep <:+: front ++ sep.dropLast) (behind : List Char) :
    splitOnFrom sep 0 piece (front ++ (sep ++ behind)) =
      (piece.reverse ++ front) :: splitOnFrom sep 0 [] behind := by
  induction front generalizing piece with
  | nil =>
    rcases List.exists_cons_of_ne_nil nonempty with ⟨c, more, rfl⟩
    have begins : (c :: more).isPrefixOf (c :: (more ++ behind)) = true := by
      rw [List.isPrefixOf_iff_prefix, ← List.cons_append]
      exact List.prefix_append _ _
    have passed := splitOnFrom_pass (c :: more) [] more behind
    rw [List.nil_append, List.cons_append, splitOnFrom, if_pos begins]
    simpa using passed
  | cons c rest ih =>
    rw [List.cons_append, List.infix_cons_iff, not_or,
      prefix_append_dropLast_iff c rest behind] at absent
    rw [List.cons_append, splitOnFrom, if_neg (by simpa using absent.1), ih (c :: piece) absent.2]
    simp

/-- The first of several pieces reaches up to the first separator. -/
theorem exists_of_splitOnFrom_cons (nonempty : sep ≠ []) {piece cs first second : List Char}
    {more : List (List Char)} (pieces : splitOnFrom sep 0 piece cs = first :: second :: more) :
    ∃ front behind, first = piece.reverse ++ front ∧ cs = front ++ (sep ++ behind) ∧
      (¬ sep <:+: front ++ sep.dropLast) ∧ splitOnFrom sep 0 [] behind = second :: more := by
  induction cs generalizing piece with
  | nil => simp [splitOnFrom] at pieces
  | cons c cs ih =>
    by_cases here : sep <+: c :: cs
    · rcases here with ⟨behind, whole⟩
      have short : ¬ sep <:+: [] ++ sep.dropLast := by
        intro inside
        have size := inside.length_le
        have some := List.length_pos_iff.2 nonempty
        simp only [List.nil_append, List.length_dropLast] at size
        omega
      have cut := splitOnFrom_append nonempty piece short behind
      rw [List.nil_append, whole, pieces, List.cons.injEq] at cut
      exact ⟨[], behind, cut.1, whole.symm, short, cut.2.symm⟩
    · rw [splitOnFrom, if_neg (by simpa using here)] at pieces
      rcases ih pieces with ⟨front, behind, rfl, rfl, absent, rest⟩
      refine ⟨c :: front, behind, by simp, rfl, ?_, rest⟩
      rw [List.cons_append, List.infix_cons_iff, not_or, prefix_append_dropLast_iff c front behind]
      exact ⟨here, absent⟩

/-- A text with a separator in it is two pieces exactly if no other separator occurs. -/
theorem splitOn_eq_pair_iff (nonempty : sep ≠ []) (a b : List Char) :
    splitOn sep (a ++ (sep ++ b)) = [a, b] ↔ (¬ sep <:+: a ++ sep.dropLast) ∧ ¬ sep <:+: b := by
  constructor
  · intro pieces
    rcases exists_of_splitOnFrom_cons nonempty pieces with ⟨front, behind, rfl, whole, absent, rest⟩
    obtain rfl : b = behind := by simpa using whole
    refine ⟨absent, fun present => ?_⟩
    rcases exists_splitOnFrom_of_occursIn nonempty [] (occursIn_iff_isInfix.2 present) with
      ⟨first, second, more, several⟩
    rw [rest] at several
    cases several
  · rintro ⟨front, back⟩
    rw [splitOn, splitOnFrom_append nonempty [] front, splitOnFrom_of_not_isInfix [] back]
    rfl

/-- Two pieces that are left of a text by dropping others are all its pieces, if nothing but a
separator lies between them. -/
theorem filter_splitOn_eq_pair_iff (nonempty : sep ≠ []) (a b : List Char) {p : List Char → Bool}
    (first : p a = true) (second : p b = true) :
    (splitOn sep (a ++ (sep ++ b))).filter p = [a, b] ↔
      (¬ sep <:+: a ++ sep.dropLast) ∧ ¬ sep <:+: b := by
  rw [← splitOn_eq_pair_iff nonempty]
  constructor
  · intro kept
    have some := List.length_pos_iff.2 nonempty
    have total := length_splitOnFrom nonempty 0 [] (a ++ (sep ++ b))
    rw [← splitOn] at total
    have sub : [a, b].Sublist (splitOn sep (a ++ (sep ++ b))) := kept ▸ List.filter_sublist
    have least := (sub.map List.length).sum_le_sum (by simp)
    simp only [List.map_cons, List.map_nil, List.sum_cons, List.sum_nil] at least
    simp only [List.length_append, List.length_nil, Nat.zero_min] at total
    -- With a third piece there would be a further separator, for which the text is too short.
    have few : (splitOn sep (a ++ (sep ++ b))).length ≤ 2 := by
      by_contra many
      have three : sep.length * 3 ≤ sep.length * (splitOn sep (a ++ (sep ++ b))).length :=
        Nat.mul_le_mul_left _ (by omega)
      omega
    exact (sub.eq_of_length_le few).symm
  · intro pieces
    rw [pieces]
    simp [first, second]

end Pair

/-! ## Last pieces -/

section Last

variable {sep : List Char}

theorem lastPiece_of_not_isInfix {cs : List Char} (absent : ¬ sep <:+: cs) :
    lastPiece sep cs = cs := by
  rw [lastPiece, splitOn, splitOnFrom_of_not_isInfix [] absent]
  rfl

/-- What stands in front of a separator does not matter for the last piece. -/
theorem lastPiece_append (nonempty : sep ≠ []) {front : List Char}
    (absent : ¬ sep <:+: front ++ sep.dropLast) (behind : List Char) :
    lastPiece sep (front ++ (sep ++ behind)) = lastPiece sep behind := by
  rw [lastPiece, splitOn, splitOnFrom_append nonempty [] absent, ← splitOn, lastPiece]
  rcases List.exists_cons_of_ne_nil (splitOnFrom_ne_nil sep 0 [] behind) with ⟨first, more, pieces⟩
  rw [splitOn, pieces]
  simp only [List.getLastD_cons]

/-- The last piece is an end of the text in which the separator does not occur. -/
theorem lastPiece_isSuffix (nonempty : sep ≠ []) (cs : List Char) :
    lastPiece sep cs <:+ cs ∧ ¬ sep <:+: lastPiece sep cs := by
  -- By induction on the length, since a separator is passed over at once.
  induction size : cs.length using Nat.strongRecOn generalizing cs with
  | ind n ih =>
    by_cases present : sep <:+: cs
    · rcases exists_splitOnFrom_of_occursIn nonempty [] (occursIn_iff_isInfix.2 present) with
        ⟨_, _, _, several⟩
      rcases exists_of_splitOnFrom_cons nonempty several with ⟨front, behind, -, rfl, absent, -⟩
      have shorter : behind.length < n := by
        have some := List.length_pos_iff.2 nonempty
        simp only [← size, List.length_append]
        omega
      rw [lastPiece_append nonempty absent]
      rcases ih _ shorter behind rfl with ⟨ending, none⟩
      refine ⟨ending.trans ?_, none⟩
      rw [← List.append_assoc]
      exact List.suffix_append _ _
    · rw [lastPiece_of_not_isInfix present]
      exact ⟨List.suffix_rfl, present⟩

end Last

/-! ## Characters that the separator has not -/

/-- The first piece goes on what has been read of it, and the others do not depend on that. -/
theorem exists_splitOnFrom (sep : List Char) (pass : Nat) (cs : List Char) :
    ∃ (first : List Char) (more : List (List Char)), ∀ piece,
      splitOnFrom sep pass piece cs = (piece.reverse ++ first) :: more := by
  induction cs generalizing pass with
  | nil => exact ⟨[], [], fun piece => by cases pass <;> simp [splitOnFrom]⟩
  | cons c cs ih =>
    cases pass with
    | succ pass =>
      rcases ih pass with ⟨first, more, later⟩
      exact ⟨first, more, fun piece => by rw [splitOnFrom, later]⟩
    | zero =>
      by_cases here : sep.isPrefixOf (c :: cs) = true
      · exact ⟨[], _, fun piece => by rw [splitOnFrom, if_pos here, List.append_nil]⟩
      · rcases ih 0 with ⟨first, more, later⟩
        exact ⟨c :: first, more, fun piece => by simp [splitOnFrom, here, later]⟩

section Foreign

variable {sep : List Char} {c : Char} (foreign : c ∉ sep)
include foreign

/-- What begins at a text reaches up to a foreign character at most. -/
theorem prefix_append_cons_iff (front rest : List Char) :
    sep <+: front ++ c :: rest ↔ sep <+: front := by
  constructor
  · intro begins
    rcases List.prefix_or_prefix_of_prefix begins (List.prefix_append front _) with short | long
    · exact short
    · obtain ⟨more, rfl⟩ := long
      rw [List.prefix_append_right_inj] at begins
      cases more with
      | nil => simp
      | cons d more =>
        obtain rfl := (List.cons_prefix_cons.1 begins).1
        exact absurd (List.mem_append_right front List.mem_cons_self) foreign
  · exact fun begins => begins.trans (List.prefix_append front _)

/-- A text without separators is passed over if a foreign character follows it. -/
theorem splitOnFrom_append_cons (nonempty : sep ≠ []) (piece : List Char) {front : List Char}
    (absent : ¬ sep <:+: front) (rest : List Char) :
    splitOnFrom sep 0 piece (front ++ c :: rest) =
      splitOnFrom sep 0 (c :: (front.reverse ++ piece)) rest := by
  induction front generalizing piece with
  | nil =>
    have other : ¬ sep <+: c :: rest := by
      have none := prefix_append_cons_iff foreign [] rest
      simpa [nonempty] using none
    rw [List.nil_append, splitOnFrom, if_neg (by simpa using other)]
    rfl
  | cons d front ih =>
    rw [List.infix_cons_iff, not_or, ← prefix_append_cons_iff foreign _ rest] at absent
    rw [List.cons_append] at absent ⊢
    rw [splitOnFrom, if_neg (by simpa using absent.1), ih (d :: piece) absent.2]
    simp

/-- Splitting comes to a foreign character in a piece that starts with the text, or behind a
separator. -/
theorem exists_splitOnFrom_append_cons (nonempty : sep ≠ []) (front : List Char) :
    ∃ (pieces : List (List Char)) (lead last : List Char), front = lead ++ last ∧
      (lead = [] ∨ ∃ before, lead = before ++ sep) ∧
      ∀ rest, splitOnFrom sep 0 [] (front ++ c :: rest) =
        pieces ++ splitOnFrom sep 0 (c :: last.reverse) rest := by
  -- By induction on the length, since a separator is passed over at once.
  induction size : front.length using Nat.strongRecOn generalizing front with
  | ind n ih =>
    by_cases present : sep <:+: front
    · rcases exists_splitOnFrom_of_occursIn nonempty [] (occursIn_iff_isInfix.2 present) with
        ⟨_, _, _, several⟩
      rcases exists_of_splitOnFrom_cons nonempty several with ⟨first, behind, -, rfl, absent, -⟩
      have shorter : behind.length < n := by
        have some := List.length_pos_iff.2 nonempty
        simp only [← size, List.length_append]
        omega
      rcases ih _ shorter behind rfl with ⟨pieces, lead, last, rfl, cut, comes⟩
      refine ⟨first :: pieces, first ++ (sep ++ lead), last, by simp, .inr ?_, fun rest => ?_⟩
      · rcases cut with rfl | ⟨before, rfl⟩
        · exact ⟨first, by simp⟩
        · exact ⟨first ++ (sep ++ before), by simp⟩
      · have split := splitOnFrom_append nonempty [] absent (lead ++ last ++ c :: rest)
        rw [comes] at split
        simpa using split
    · refine ⟨[], [], front, rfl, .inl rfl, fun rest => ?_⟩
      rw [splitOnFrom_append_cons foreign nonempty [] present, List.append_nil]
      rfl

end Foreign

end Text
end AccountAudit
