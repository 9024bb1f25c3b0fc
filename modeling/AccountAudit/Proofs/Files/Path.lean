import AccountAudit.Files.Path
import AccountAudit.Proofs.Text.Split
import Mathlib.Data.List.Lex
import Mathlib.Data.String.Basic

/-!
# Proper paths

A path is proper when it can be written: its anchor is one that a text can start with, and its names
are names of files (`Path.Proper`). Every path that is read from a text is proper
(`proper_ofString`), and a proper path is read back from its own text (`ofString_text`), so different
proper paths have different texts. For proper paths the order is an order, and sorted lists without
repetition depend on their members only (`distinctSorted_congr`).
-/

namespace AccountAudit
namespace Files

/-- What a file or a folder can be called. -/
structure IsName (name : String) : Prop where
  some : name ≠ ""
  elsewhere : name ≠ "."
  plain : '/' ∉ name.toList

instance : DecidablePred IsName := fun name =>
  decidable_of_iff (name ≠ "" ∧ name ≠ "." ∧ '/' ∉ name.toList)
    ⟨fun ⟨nonempty, elsewhere, plain⟩ => ⟨nonempty, elsewhere, plain⟩,
      fun isName => ⟨isName.some, isName.elsewhere, isName.plain⟩⟩

namespace Path

/-- The path can be written. -/
structure Proper (p : Path) : Prop where
  anchor : p.anchor = "" ∨ p.anchor = "/" ∨ p.anchor = "//"
  names : ∀ name ∈ p.names, IsName name

variable {p q : Path}

/-! ## Reading and writing -/

theorem anchorOf_cases (cs : List Char) :
    anchorOf cs = "" ∨ anchorOf cs = "/" ∨ anchorOf cs = "//" := by
  unfold anchorOf
  split <;> simp

theorem proper_ofString (s : String) : (ofString s).Proper := by
  refine ⟨anchorOf_cases s.toList, fun name member => ?_⟩
  rcases List.mem_filter.1 member with ⟨piece, kept⟩
  simp only [Bool.and_eq_true, bne_iff_ne, ne_eq] at kept
  refine ⟨kept.1, kept.2, ?_⟩
  rcases List.mem_map.1 piece with ⟨cs, inside, rfl⟩
  have free : '/' ∉ cs := Text.not_mem_of_mem_splitOn inside
  rwa [String.toList_ofList]

/-- Joined names start with the first character of the first name. -/
theorem head_intercalate {names : List String} (proper : ∀ name ∈ names, IsName name) :
    ("/".intercalate names).toList.head? ≠ some '/' := by
  rw [String.toList_intercalate]
  cases names with
  | nil => simp
  | cons name rest =>
    obtain ⟨c, cs, text⟩ : ∃ c cs, name.toList = c :: cs := by
      refine List.exists_cons_of_ne_nil fun empty => (proper name List.mem_cons_self).some ?_
      exact String.toList_inj.1 empty
    have other : c ≠ '/' := by
      rintro rfl
      exact (proper name List.mem_cons_self).plain (by simp [text])
    cases rest with
    | nil => simpa [text] using other
    | cons next rest => simpa [text] using other

/-- The slashes in front are those of the anchor. -/
theorem anchorOf_append {anchor written : String}
    (isAnchor : anchor = "" ∨ anchor = "/" ∨ anchor = "//")
    (relative : written.toList.head? ≠ some '/') : anchorOf (anchor ++ written).toList = anchor := by
  -- No slash of the names stands behind those of the anchor.
  have none : written.toList.takeWhile (· == '/') = [] := by
    cases text : written.toList with
    | nil => rfl
    | cons c cs =>
      have other : c ≠ '/' := by
        rintro rfl
        exact relative (by simp [text])
      simp [other]
  rw [anchorOf, String.toList_append]
  rcases isAnchor with rfl | rfl | rfl <;> simp [none]

/-- The names are the pieces between the slashes; those of the anchor give empty pieces only. -/
theorem names_append {anchor : String} {names : List String}
    (isAnchor : anchor = "" ∨ anchor = "/" ∨ anchor = "//")
    (proper : ∀ name ∈ names, IsName name) :
    ((Text.splitString "/" (anchor ++ "/".intercalate names)).filter fun name =>
      name != "" && name != ".") = names := by
  -- Without an anchor, splitting undoes the joining, and no name is left out.
  have plain : ((Text.splitString "/" ("/".intercalate names)).filter fun name =>
      name != "" && name != ".") = names := by
    cases names with
    | nil => decide
    | cons name rest =>
      have single : "/" = String.singleton '/' := by decide
      have pieces : Text.splitString "/" ("/".intercalate (name :: rest)) = name :: rest := by
        rw [single]
        exact Text.splitString_intercalate (fun name member => (proper name member).plain) (by simp)
      rw [pieces, List.filter_eq_self]
      intro name member
      simp [(proper name member).some, (proper name member).elsewhere]
  -- A slash in front only gives an empty piece.
  have slash : ∀ s : String, Text.splitString "/" ("/" ++ s) = "" :: Text.splitString "/" s := by
    intro s
    have text : ("/" ++ s).toList = '/' :: s.toList := by simp
    rw [Text.splitString, Text.splitString, text]
    rfl
  rcases isAnchor with rfl | rfl | rfl
  · rwa [String.empty_append]
  · rw [slash]
    simpa using plain
  · have twice : "//" ++ "/".intercalate names = "/" ++ ("/" ++ "/".intercalate names) := by
      rw [← String.append_assoc]
      rfl
    rw [twice, slash, slash]
    simpa using plain

/-- A proper path is read back from its text. -/
theorem ofString_text (proper : p.Proper) : ofString p.text = p := by
  rcases p with ⟨anchor, names⟩
  rcases proper with ⟨isAnchor, areNames⟩
  dsimp only at isAnchor areNames
  by_cases empty : (anchor ++ "/".intercalate names).isEmpty = true
  · -- Only the path of the place that one is at has an empty text, and it is written as `.`.
    have nothing : anchor ++ "/".intercalate names = "" := by simpa using empty
    obtain rfl : anchor = "" := (String.append_eq_empty_iff.1 nothing).1
    have joined := names_append (.inl rfl) areNames
    rw [nothing] at joined
    obtain rfl : names = [] := by rw [← joined]; decide
    rfl
  · rw [text, if_neg empty, ofString, anchorOf_append isAnchor (head_intercalate areNames),
      names_append isAnchor areNames]

theorem text_injective (hp : p.Proper) (hq : q.Proper) (same : p.text = q.text) : p = q := by
  rw [← ofString_text hp, same, ofString_text hq]

/-! ## Steps -/

/-- The first step tells whether there is an anchor: no name is one. -/
theorem steps_injective (hp : p.Proper) (hq : q.Proper) (same : p.steps = q.steps) : p = q := by
  have noName : ∀ {a : String}, a = "/" ∨ a = "//" → ¬ IsName a := by
    rintro a (rfl | rfl) name <;> exact name.plain (by decide)
  have isAnchor : ∀ {a : String}, a = "" ∨ a = "/" ∨ a = "//" → a ≠ "" → a = "/" ∨ a = "//" := by
    intro a cases nonempty
    exact cases.resolve_left nonempty
  rcases p with ⟨a, ps⟩
  rcases q with ⟨b, qs⟩
  simp only [steps, String.isEmpty_iff] at same
  -- In the two mixed cases, the anchor of one path would be the first name of the other.
  by_cases ha : a = "" <;> by_cases hb : b = "" <;> simp only [ha, hb, if_true, if_false] at same
  · rw [ha, hb, same]
  · exact absurd (hp.names b (by simp [same])) (noName (isAnchor hq.anchor hb))
  · exact absurd (hq.names a (by simp [← same])) (noName (isAnchor hp.anchor ha))
  · rcases List.cons.inj same with ⟨rfl, rfl⟩
    rfl

/-! ## The order -/

theorem precedes_iff : p.precedes q = true ↔ p.steps ≤ q.steps := by
  rw [precedes, Bool.or_eq_true, decide_eq_true_eq, beq_iff_eq, le_iff_lt_or_eq]

theorem precedes_antisymm (hp : p.Proper) (hq : q.Proper) (hpq : p.precedes q = true)
    (hqp : q.precedes p = true) : p = q :=
  steps_injective hp hq (le_antisymm (precedes_iff.1 hpq) (precedes_iff.1 hqp))

theorem pairwise_distinctSorted (paths : List Path) :
    (distinctSorted paths).Pairwise fun p q => p.precedes q = true := by
  refine List.pairwise_mergeSort ?_ ?_ _
  · intro p q r hpq hqr
    exact precedes_iff.2 (le_trans (precedes_iff.1 hpq) (precedes_iff.1 hqr))
  · intro p q
    rw [Bool.or_eq_true, precedes_iff, precedes_iff]
    exact le_total _ _

/-! ## Paths in order -/

@[simp]
theorem mem_distinctSorted {paths : List Path} : p ∈ distinctSorted paths ↔ p ∈ paths := by
  rw [distinctSorted, List.mem_mergeSort, List.mem_eraseDups]

theorem nodup_eraseDups {α : Type} [BEq α] [LawfulBEq α] (items : List α) :
    items.eraseDups.Nodup := by
  induction h : items.length using Nat.strong_induction_on generalizing items with
  | _ n ih =>
    cases items with
    | nil => simp
    | cons a rest =>
      rw [List.eraseDups_cons, List.nodup_cons]
      -- The head is erased from the rest, which does not get longer by that.
      refine ⟨?_, ih _ ?_ _ rfl⟩
      · simp [List.mem_eraseDups]
      · have shorter := List.length_filter_le (fun b => !b == a) rest
        simp only [List.length_cons] at h
        omega

theorem nodup_distinctSorted (paths : List Path) : (distinctSorted paths).Nodup := by
  rw [distinctSorted, List.Perm.nodup_iff (List.mergeSort_perm _ _)]
  exact nodup_eraseDups paths

/-- Each path comes before the next one, and no path is listed twice. -/
theorem ascending_distinctSorted {paths : List Path} (proper : ∀ p ∈ paths, p.Proper) :
    (distinctSorted paths).Pairwise fun p q => p.steps < q.steps := by
  have sorted := (pairwise_distinctSorted paths).and (nodup_distinctSorted paths)
  refine sorted.imp_of_mem fun {p q} hp hq ordered => ?_
  refine lt_of_le_of_ne (precedes_iff.1 ordered.1) fun same => ordered.2 ?_
  exact steps_injective (proper p (mem_distinctSorted.1 hp)) (proper q (mem_distinctSorted.1 hq)) same

/-- The result depends on the members only, neither on their order nor on repetitions. -/
theorem distinctSorted_congr {ps qs : List Path} (proper : ∀ p ∈ ps, p.Proper)
    (same : ∀ p, p ∈ ps ↔ p ∈ qs) : distinctSorted ps = distinctSorted qs := by
  have perm : (distinctSorted ps).Perm (distinctSorted qs) := by
    rw [List.perm_ext_iff_of_nodup (nodup_distinctSorted ps) (nodup_distinctSorted qs)]
    intro p
    rw [mem_distinctSorted, mem_distinctSorted, same]
  -- Two permutations of each other, both in order, are the same list.
  refine perm.eq_of_pairwise ?_ (pairwise_distinctSorted ps) (pairwise_distinctSorted qs)
  intro p q hp hq hpq hqp
  exact precedes_antisymm (proper p (mem_distinctSorted.1 hp))
    (proper q ((same q).2 (mem_distinctSorted.1 hq))) hpq hqp

/-! ## Endings -/

/-- The letters at the end of a text without a point are all of it, or a point is in front of them. -/
theorem eq_or_exists_point (cs : List Char) :
    (cs.reverse.takeWhile (· != '.')).reverse = cs ∨
      ∃ stem, cs = stem ++ '.' :: (cs.reverse.takeWhile (· != '.')).reverse := by
  have parts := List.takeWhile_append_dropWhile (p := (· != '.')) (l := cs.reverse)
  cases behind : cs.reverse.dropWhile (· != '.') with
  | nil =>
    rw [behind, List.append_nil] at parts
    exact .inl (by rw [parts, List.reverse_reverse])
  | cons c stem =>
    -- The first character that is not taken is a point.
    have point : c = '.' := by
      have stops := List.head_dropWhile_not (p := (· != '.')) (l := cs.reverse) (by simp [behind])
      simpa [behind] using stops
    refine .inr ⟨stem.reverse, ?_⟩
    rw [behind, point] at parts
    simpa using (congrArg List.reverse parts).symm

/-- A name ends in what follows its last point if there is something in front of the point. -/
theorem suffixOf_eq_iff {cs letters : List Char} (nonempty : letters ≠ [])
    (pointless : '.' ∉ letters) :
    suffixOf cs = '.' :: letters ↔ ∃ stem, stem ≠ [] ∧ cs = stem ++ '.' :: letters := by
  constructor
  · intro h
    unfold suffixOf at h
    dsimp only at h
    split at h
    · cases h
    · rename_i long
      rw [List.cons_inj_right] at h
      rw [h, Bool.or_eq_true, List.isEmpty_iff, decide_eq_true_eq, not_or, Nat.not_le] at long
      rcases eq_or_exists_point cs with whole | ⟨stem, is⟩
      · rw [h] at whole
        rw [whole] at long
        omega
      · rw [h] at is
        refine ⟨stem, ?_, is⟩
        rintro rfl
        rw [is] at long
        simp at long
  · rintro ⟨stem, some, rfl⟩
    have letter : ∀ c ∈ letters.reverse, (c != '.') = true := by
      intro c inside
      rw [bne_iff_ne]
      rintro rfl
      exact pointless (List.mem_reverse.1 inside)
    have ending : (((stem ++ '.' :: letters).reverse).takeWhile (· != '.')).reverse = letters := by
      rw [List.reverse_append, List.reverse_cons, List.append_assoc,
        List.takeWhile_append_of_pos letter]
      simp
    rw [suffixOf, ending, if_neg (by simp [nonempty, some])]

/-- A path has an ending if its name is more than the ending. -/
theorem suffix_eq_iff {ending : String} {letters : List Char} (pointed : ending.toList = '.' :: letters)
    (nonempty : letters ≠ []) (pointless : '.' ∉ letters) :
    p.suffix = ending ↔ p.name ≠ ending ∧ ending.toList <:+ p.name.toList := by
  rw [suffix, ← String.toList_inj, String.toList_ofList, pointed,
    suffixOf_eq_iff nonempty pointless, ← pointed]
  constructor
  · rintro ⟨stem, some, is⟩
    refine ⟨?_, stem, is.symm⟩
    rintro rfl
    exact some (by simpa using is)
  · rintro ⟨other, stem, is⟩
    refine ⟨stem, ?_, is.symm⟩
    rintro rfl
    exact other (String.toList_inj.1 (by simpa using is.symm))

end Path
end Files
end AccountAudit
