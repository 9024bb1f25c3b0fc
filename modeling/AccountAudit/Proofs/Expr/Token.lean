import AccountAudit.Expr.Atom
import AccountAudit.Proofs.Expr.Nesting
import AccountAudit.Proofs.Text.Trim
import Mathlib.Data.List.Chain

/-!
# Tokens

What the texts of operands start and end with, and what the texts of paths, integers and string
literals hold. Their characters outside string literals are quiet, so no operator is found in them,
and they have no two points side by side, which would write a range.
-/

namespace AccountAudit
namespace Expr

/-! ## First and last characters -/

/-- A character that an operand can start with. -/
def startsOperand (c : Char) : Bool :=
  Text.startsWord c || Text.isDigit c || ['-', '"', '!', '(', '[', '&'].contains c

/-- A character that an operand can end with. -/
def endsOperand (c : Char) : Bool :=
  Text.isWord c || Text.isDigit c || [')', ']', '"'].contains c

/-- A character that is part of a name or of a number. -/
def isNamed (c : Char) : Bool :=
  Text.isWord c || Text.isDigit c

/-- The signs that nest, quote or start an operator, and the comma. -/
def signs : List Char :=
  ['"', '(', ')', '[', ']', '\x7b', '\x7d', '|', '&', '=', '!', '>', '<', '+', '-', '*', '/', '%', ',']

/-- No sign is part of a name or a blank. -/
theorem sign_facts : ∀ d ∈ signs, isNamed d = false ∧ Text.isBlank d = false := by
  have table : signs.all (fun d => !isNamed d && !Text.isBlank d) = true := by decide
  intro d member
  simpa using List.all_eq_true.1 table d member

theorem toNat_of_startsWord {c : Char} (h : Text.startsWord c = true) :
    65 ≤ c.toNat ∧ c.toNat ≤ 90 ∨ c.toNat = 95 ∨ 97 ≤ c.toNat ∧ c.toNat ≤ 122 := by
  have ranges : Text.startsWord c = (decide (65 ≤ c.val ∧ c.val ≤ 90) ||
      decide (97 ≤ c.val) && decide (c.val ≤ 122) || c == '_') := rfl
  simp only [ranges, Bool.or_eq_true, Bool.and_eq_true, decide_eq_true_eq, beq_iff_eq,
    UInt32.le_iff_toNat_le] at h
  rcases h with (upper | lower) | rfl
  · exact .inl upper
  · exact .inr (.inr lower)
  · exact .inr (.inl rfl)

theorem isWord_of_startsWord {c : Char} (h : Text.startsWord c = true) : Text.isWord c = true := by
  have table : ∀ n < 123, (65 ≤ n ∧ n ≤ 90 ∨ n = 95 ∨ 97 ≤ n ∧ n ≤ 122) →
      Text.wordRanges.holds n = true := by decide
  have range := toNat_of_startsWord h
  exact table c.toNat (by omega) range

theorem isDigit_of_startsWord {c : Char} (h : Text.startsWord c = true) :
    Text.isDigit c = false := by
  have table : ∀ n < 123, (65 ≤ n ∧ n ≤ 90 ∨ n = 95 ∨ 97 ≤ n ∧ n ≤ 122) →
      Text.digitRanges.holds n = false := by decide
  have range := toNat_of_startsWord h
  exact table c.toNat (by omega) range

theorem isBlank_of_isWord {c : Char} (h : Text.isWord c = true) : Text.isBlank c = false := by
  cases blank : Text.isBlank c with
  | false => rfl
  | true => simp [Text.isWord_of_isBlank blank] at h

theorem isBlank_of_isDigit {c : Char} (h : Text.isDigit c = true) : Text.isBlank c = false := by
  cases blank : Text.isBlank c with
  | false => rfl
  | true => simp [Text.isDigit_of_isBlank blank] at h

theorem isBlank_of_startsOperand {c : Char} (h : startsOperand c = true) :
    Text.isBlank c = false := by
  simp only [startsOperand, Bool.or_eq_true, List.contains_iff_mem] at h
  rcases h with (word | digit) | sign
  · exact isBlank_of_isWord (isWord_of_startsWord word)
  · exact isBlank_of_isDigit digit
  · have isSign : c ∈ signs := by
      simp only [List.mem_cons, List.not_mem_nil, or_false] at sign
      rcases sign with rfl | rfl | rfl | rfl | rfl | rfl <;> simp [signs]
    exact (sign_facts c isSign).2

theorem isBlank_of_endsOperand {c : Char} (h : endsOperand c = true) : Text.isBlank c = false := by
  simp only [endsOperand, Bool.or_eq_true, List.contains_iff_mem] at h
  rcases h with (word | digit) | sign
  · exact isBlank_of_isWord word
  · exact isBlank_of_isDigit digit
  · have isSign : c ∈ signs := by
      simp only [List.mem_cons, List.not_mem_nil, or_false] at sign
      rcases sign with rfl | rfl | rfl <;> simp [signs]
    exact (sign_facts c isSign).2

/-- What holds of one character and not of another one tells them apart. -/
theorem ne_of_holds {p : Char → Bool} {c d : Char} (h : p c = true) (other : p d = false) :
    c ≠ d := by
  rintro rfl
  simp [h] at other

theorem mem_signs_of_operandStarts {c : Char} (h : c ∈ BinaryOp.operandStarts) : c ∈ signs := by
  simp only [BinaryOp.operandStarts, signs, List.mem_cons, List.not_mem_nil, or_false] at h ⊢
  tauto

/-- Behind an operand, an arithmetic symbol is an operator. -/
theorem not_mem_operandStarts {c : Char} (h : endsOperand c = true) :
    c ∉ BinaryOp.operandStarts := by
  intro inside
  have named := (sign_facts c (mem_signs_of_operandStarts inside)).1
  rw [endsOperand, ← isNamed, named, Bool.false_or, List.contains_iff_mem] at h
  simp only [List.mem_cons, List.not_mem_nil, or_false] at h
  rcases h with rfl | rfl | rfl <;> simp [BinaryOp.operandStarts] at inside

theorem mem_signs_of_isPlain {c : Char} (h : isPlain c = false) : c ∈ signs := by
  simp only [isPlain, Bool.not_eq_false', List.contains_iff_mem, List.mem_cons, List.not_mem_nil,
    or_false] at h
  rcases h with rfl | rfl | rfl | rfl | rfl | rfl | rfl <;> simp [signs]

theorem mem_signs_of_isQuiet {c : Char} (h : isQuiet c = false) : c ∈ signs := by
  simp only [isQuiet, Bool.not_eq_false', List.contains_iff_mem, List.mem_cons, List.not_mem_nil,
    or_false] at h
  rcases h with rfl | rfl | rfl | rfl | rfl | rfl | rfl | rfl | rfl | rfl | rfl | rfl <;>
    simp [signs]

theorem isPlain_of_isNamed {c : Char} (h : isNamed c = true) : isPlain c = true := by
  by_contra nests
  simp [(sign_facts c (mem_signs_of_isPlain (by simpa using nests))).1] at h

theorem isQuiet_of_isNamed {c : Char} (h : isNamed c = true) : isQuiet c = true := by
  by_contra loud
  simp [(sign_facts c (mem_signs_of_isQuiet (by simpa using loud))).1] at h

/-! ## Paths -/

/-- No two points stand side by side. -/
def Undotted (cs : List Char) : Prop :=
  cs.IsChain fun a b => a ≠ '.' ∨ b ≠ '.'

/-- In a path, an open round bracket is closed at once. -/
def Hollow (cs : List Char) : Prop :=
  cs.IsChain fun a b => a = '(' → b = ')'

/-- What is known of the rest of a path text. -/
structure PathRest (place : PathPlace) (cs : List Char) : Prop where
  nested : Nested isQuiet cs
  undotted : Undotted cs
  hollow : Hollow cs
  last : ∀ c, cs.getLast? = some c → endsOperand c = true
  head : place = .start → ∃ c rest, cs = c :: rest ∧ Text.startsWord c = true
  named : '(' ∉ cs → ∀ c ∈ cs, Text.isWord c = true ∨ c = ':' ∨ c = '.'

theorem isNamed_of_isWord {c : Char} (h : Text.isWord c = true) : isNamed c = true := by
  simp [isNamed, h]

theorem last_cons {c : Char} {rest : List Char} (ends : rest = [] → endsOperand c = true)
    (last : ∀ d, rest.getLast? = some d → endsOperand d = true) :
    ∀ d, (c :: rest).getLast? = some d → endsOperand d = true := by
  intro d found
  cases rest with
  | nil =>
    obtain rfl : c = d := by simpa using found
    exact ends rfl
  | cons e more => exact last d (by simpa [List.getLast?_cons_cons] using found)

theorem PathRest.word {place : PathPlace} {c : Char} {rest : List Char}
    (word : Text.isWord c = true) (starts : place = .start → Text.startsWord c = true)
    (rests : PathRest .name rest) : PathRest place (c :: rest) := by
  have isNamed : isNamed c = true := isNamed_of_isWord word
  have point : c ≠ '.' := ne_of_holds isNamed (by decide)
  have round : c ≠ '(' := ne_of_holds isNamed (by decide)
  refine ⟨.plain (isPlain_of_isNamed isNamed) (isQuiet_of_isNamed isNamed) rests.nested,
    List.IsChain.cons rests.undotted fun d _ => .inl point,
    List.IsChain.cons rests.hollow fun d _ here => absurd here round,
    last_cons (fun _ => by simp [endsOperand, word]) rests.last,
    fun start => ⟨c, rest, rfl, starts start⟩, fun bare d member => ?_⟩
  rcases List.mem_cons.1 member with rfl | later
  · exact .inl word
  · exact rests.named (fun inside => bare (List.mem_cons_of_mem _ inside)) d later

theorem pathRest {place : PathPlace} {cs : List Char} (h : isPathFrom place cs = true) :
    PathRest place cs := by
  fun_induction isPathFrom place cs with
  | case1 c rest ih =>
    rcases Bool.and_eq_true_iff.1 h with ⟨starts, more⟩
    exact .word (isWord_of_startsWord starts) (fun _ => starts) (ih more)
  | case2 => cases h
  -- The call brackets `()`.
  | case3 rest ih =>
    rcases ih h with ⟨nested, undotted, hollow, last, -, -⟩
    refine ⟨.bracket rfl (.nil _) nested, ?_, ?_, ?_, by simp, by simp⟩
    · exact (undotted.cons fun d _ => .inl (by decide)).cons fun d _ => .inl (by decide)
    · exact (hollow.cons fun d _ here => absurd here (by decide)).cons fun d found _ => by
        simpa [eq_comm] using found
    · exact last_cons (by simp) (last_cons (fun _ => by decide) last)
  -- The sign `::`, with a name behind it.
  | case4 place rest other ih =>
    rcases ih h with ⟨nested, undotted, hollow, last, head, named⟩
    rcases head rfl with ⟨c, more, rfl, -⟩
    refine ⟨.plain rfl rfl (.plain rfl rfl nested), ?_, ?_, ?_, fun start => absurd start other, ?_⟩
    · exact (undotted.cons fun d _ => .inl (by decide)).cons fun d _ => .inl (by decide)
    · exact (hollow.cons fun d _ here => absurd here (by decide)).cons fun d _ here =>
        absurd here (by decide)
    · exact last_cons (by simp) (last_cons (by simp) last)
    · intro bare d member
      rcases List.mem_cons.1 member with rfl | member
      · exact .inr (.inl rfl)
      rcases List.mem_cons.1 member with rfl | later
      · exact .inr (.inl rfl)
      · exact named (fun inside => bare (by simp [inside])) d later
  -- A point, with a name behind it, which starts with no point.
  | case5 place rest other ih =>
    rcases ih h with ⟨nested, undotted, hollow, last, head, named⟩
    rcases head rfl with ⟨c, more, rfl, starts⟩
    refine ⟨.plain rfl rfl nested, ?_, ?_, ?_, fun start => absurd start other, ?_⟩
    · refine undotted.cons fun d found => .inr ?_
      obtain rfl : c = d := by simpa using found
      exact ne_of_holds starts (by decide)
    · exact hollow.cons fun d _ here => absurd here (by decide)
    · exact last_cons (by simp) last
    · intro bare d member
      rcases List.mem_cons.1 member with rfl | later
      · exact .inr (.inr rfl)
      · exact named (fun inside => bare (by simp [inside])) d later
  -- A further character of a name.
  | case6 c rest _ _ _ ih =>
    rcases Bool.and_eq_true_iff.1 h with ⟨word, more⟩
    exact .word word (by simp) (ih more)
  | case7 => cases h
  | case8 place other =>
    exact ⟨.nil _, .nil, .nil, by simp, fun start => absurd start other, by simp⟩

theorem exists_head_of_isPath {cs : List Char} (h : isPath cs = true) :
    ∃ c rest, cs = c :: rest ∧ Text.startsWord c = true :=
  (pathRest h).head rfl

/-- A path has nothing but names, the signs that join them, and call brackets. -/
theorem isPath_eq_false_of_mem {cs : List Char} {c : Char} (inside : c ∈ cs)
    (foreign : (isNamed c || [':', '.', '(', ')'].contains c) = false) : isPath cs = false := by
  have chars : ∀ {place : PathPlace} {cs : List Char}, isPathFrom place cs = true →
      ∀ d ∈ cs, (isNamed d || [':', '.', '(', ')'].contains d) = true := by
    intro place cs h
    fun_induction isPathFrom place cs with
    | case1 c rest ih =>
      rcases Bool.and_eq_true_iff.1 h with ⟨starts, more⟩
      simpa [isNamed_of_isWord (isWord_of_startsWord starts)] using ih more
    | case2 => cases h
    | case3 rest ih => simpa using ih h
    | case4 place rest other ih => simpa using ih h
    | case5 place rest other ih => simpa using ih h
    | case6 c rest _ _ _ ih =>
      rcases Bool.and_eq_true_iff.1 h with ⟨word, more⟩
      simpa [isNamed_of_isWord word] using ih more
    | case7 => cases h
    | case8 => simp
  cases h : isPath cs with
  | false => rfl
  | true =>
    rw [chars h c inside] at foreign
    cases foreign

/-- An open round bracket that is not closed at once belongs to no path. -/
theorem isPath_eq_false_of_open {name rest : List Char} {c : Char} (other : c ≠ ')') :
    isPath (name ++ '(' :: c :: rest) = false := by
  cases h : isPath (name ++ '(' :: c :: rest) with
  | false => rfl
  | true =>
    have hollow := (pathRest h).hollow
    rw [Hollow, List.isChain_append_cons_cons] at hollow
    exact absurd (hollow.2.1 rfl) other

/-! ## Texts without operators -/

theorem splits_of_nested {cs : List Char} (h : Nested isQuiet cs) (level : Level) :
    splits level cs = [] := by
  have passed := splitsFrom_quiet h level [] []
  rw [List.append_nil] at passed
  rw [splits, passed]
  rfl

theorem splits_of_isPath {cs : List Char} (h : isPath cs = true) (level : Level) :
    splits level cs = [] :=
  splits_of_nested (pathRest h).nested level

/-- The first character of a text is no operator. -/
theorem splits_cons_of_nested {c : Char} {cs : List Char} (plain : isPlain c = true)
    (h : Nested isQuiet cs) (level : Level) : splits level (c :: cs) = [] := by
  have none : level.ops.find? (·.standsAt [] (c :: cs)) = none := by
    simp [List.find?_eq_none, BinaryOp.standsAt]
  have quote : c ≠ '"' := ne_of_isPlain plain rfl
  have passed := splitsFrom_quiet h level [c] []
  rw [List.append_nil] at passed
  simp [splits, splitsFrom, quote, closerOf?_of_isPlain plain, none, passed]

/-! ## Integers -/

theorem isNamed_of_mem_integerTypes {type : List Char} (h : type ∈ integerTypes) :
    ∀ c ∈ type, isNamed c = true := by
  have table : integerTypes.all (·.all isNamed) = true := by decide
  exact List.all_eq_true.1 (List.all_eq_true.1 table type h)

/-- All characters of an integer but a sign are characters of numbers and names. -/
theorem isNamed_of_integerText? {cs : List Char} {t : IntegerText}
    (h : integerText? cs = some t) : ∃ sign body, cs = sign ++ body ∧ (sign = [] ∨ sign = ['-']) ∧
      body ≠ [] ∧ ∀ c ∈ body, isNamed c = true := by
  -- The body is the text behind the sign: digits, and perhaps a type.
  have body : ∀ {body : List Char} {written type : List Char},
      written = body.takeWhile (fun c => Text.isDigit c || c == '_') →
      type = body.dropWhile (fun c => Text.isDigit c || c == '_') →
      (written.head?.any Text.isDigit && (type.isEmpty || integerTypes.contains type)) = true →
      body ≠ [] ∧ ∀ c ∈ body, isNamed c = true := by
    intro body written type hw ht valid
    simp only [Bool.and_eq_true, Bool.or_eq_true, List.isEmpty_iff, List.contains_iff_mem] at valid
    have whole : written ++ type = body := by
      rw [hw, ht]
      exact List.takeWhile_append_dropWhile
    refine ⟨?_, fun c member => ?_⟩
    · rintro rfl
      simp [hw] at valid
    · rw [← whole] at member
      rcases List.mem_append.1 member with number | suffix
      · rw [hw] at number
        have digit := List.all_eq_true.1 List.all_takeWhile c number
        simp only [Bool.or_eq_true, beq_iff_eq] at digit
        rcases digit with digit | rfl
        · simp [isNamed, digit]
        · decide
      · rcases valid.2 with none | typed
        · simp [none] at suffix
        · exact isNamed_of_mem_integerTypes typed c suffix
  unfold integerText? at h
  split at h
  rename_i negative rest parts
  dsimp only at h
  split at h
  · rename_i valid
    rcases body rfl rfl valid with ⟨some, named⟩
    split at parts
    · rcases Prod.mk.inj parts with ⟨-, rfl⟩
      exact ⟨['-'], _, rfl, .inr rfl, some, named⟩
    · rcases Prod.mk.inj parts with ⟨-, rfl⟩
      exact ⟨[], _, rfl, .inl rfl, some, named⟩
  · cases h

theorem nested_of_isNamed {cs : List Char} (named : ∀ c ∈ cs, isNamed c = true) :
    Nested isQuiet cs :=
  .of_forall fun c member =>
    ⟨isPlain_of_isNamed (named c member), isQuiet_of_isNamed (named c member)⟩

theorem splits_of_integerText? {cs : List Char} {t : IntegerText}
    (h : integerText? cs = some t) (level : Level) : splits level cs = [] := by
  rcases isNamed_of_integerText? h with ⟨sign, body, rfl, rfl | rfl, some, named⟩
  · exact splits_of_nested (nested_of_isNamed named) level
  · exact splits_cons_of_nested rfl (nested_of_isNamed named) level

/-- An integer starts with a digit or a sign. -/
theorem integerText?_eq_none {c : Char} {cs : List Char} (digit : Text.isDigit c = false)
    (sign : c ≠ '-') : integerText? (c :: cs) = none := by
  have unsigned : ∀ rest, c :: cs ≠ '-' :: rest := by
    rintro rest same
    exact sign (List.cons.inj same).1
  have first : ((c :: cs).takeWhile (fun c => Text.isDigit c || c == '_')).head?.any
      Text.isDigit = false := by
    rw [List.takeWhile_cons]
    split <;> simp [digit]
  unfold integerText?
  split
  rename_i negative body parts
  split at parts
  · rename_i rest same
    exact absurd same (unsigned rest)
  · rcases Prod.mk.inj parts with ⟨-, rfl⟩
    simp [first]

section Written

variable {first : Char} {digits type : List Char}

/-- Digits end where their type starts. -/
theorem spanDigits (digit : Text.isDigit first = true)
    (others : ∀ c ∈ digits, Text.isDigit c = true ∨ c = '_')
    (typed : type = [] ∨ type ∈ integerTypes) :
    (first :: digits ++ type).takeWhile (fun c => Text.isDigit c || c == '_') = first :: digits ∧
      (first :: digits ++ type).dropWhile (fun c => Text.isDigit c || c == '_') = type := by
  have parts : ∀ c ∈ first :: digits, (Text.isDigit c || c == '_') = true := by
    intro c member
    rcases List.mem_cons.1 member with rfl | member
    · simp [digit]
    · simpa using others c member
  have table : ∀ type ∈ integerTypes,
      type.takeWhile (fun c => Text.isDigit c || c == '_') = [] ∧
        type.dropWhile (fun c => Text.isDigit c || c == '_') = type := by decide
  have stop : type.takeWhile (fun c => Text.isDigit c || c == '_') = [] ∧
      type.dropWhile (fun c => Text.isDigit c || c == '_') = type := by
    rcases typed with rfl | typed
    · exact ⟨rfl, rfl⟩
    · exact table type typed
  rw [List.takeWhile_append_of_pos parts, List.dropWhile_append_of_pos parts, stop.1, stop.2,
    List.append_nil]
  exact ⟨rfl, rfl⟩

theorem integerText?_written (negative : Bool) (digit : Text.isDigit first = true)
    (others : ∀ c ∈ digits, Text.isDigit c = true ∨ c = '_')
    (typed : type = [] ∨ type ∈ integerTypes) :
    integerText? ((if negative then ['-'] else []) ++ first :: digits ++ type) =
      some ⟨negative, (first :: digits).filter (· != '_')⟩ := by
  rcases spanDigits digit others typed with ⟨number, rest⟩
  have valid : ((first :: digits).head?.any Text.isDigit &&
      (type.isEmpty || integerTypes.contains type)) = true := by
    rcases typed with rfl | typed
    · simp [digit]
    · simp [digit, typed]
  cases negative with
  | true =>
    simp only [if_true, List.cons_append, List.nil_append] at *
    unfold integerText?
    simp only [number, rest, valid, if_true]
  | false =>
    have sign : first ≠ '-' := ne_of_holds digit (by decide)
    simp only [Bool.false_eq_true, if_false, List.nil_append, List.cons_append] at *
    unfold integerText?
    split
    rename_i negative body parts
    split at parts
    · rename_i same
      exact absurd (List.cons.inj same).1 sign
    · rcases Prod.mk.inj parts with ⟨rfl, rfl⟩
      simp only [number, rest, valid, if_true]

theorem isNamed_written (digit : Text.isDigit first = true)
    (others : ∀ c ∈ digits, Text.isDigit c = true ∨ c = '_')
    (typed : type = [] ∨ type ∈ integerTypes) : ∀ c ∈ first :: digits ++ type, isNamed c = true := by
  intro c member
  rw [List.cons_append] at member
  rcases List.mem_cons.1 member with rfl | member
  · simp [isNamed, digit]
  · rcases List.mem_append.1 member with number | suffix
    · rcases others c number with digit | rfl
      · simp [isNamed, digit]
      · decide
    · rcases typed with rfl | typed
      · cases suffix
      · exact isNamed_of_mem_integerTypes typed c suffix

end Written

/-! ## String literals -/

theorem splitsFrom_open_quote (level : Level) (skip : Nat) (seen cs : List Char)
    (closed : '"' ∉ cs.dropLast) : splitsFrom level skip [] true seen cs = [] := by
  induction cs generalizing skip seen with
  | nil => rfl
  | cons c rest ih =>
    -- The quote may stand at the end; then nothing is left to find.
    cases rest with
    | nil =>
      unfold splitsFrom
      split
      · rfl
      · rfl
    | cons d more =>
      rw [List.dropLast_cons_cons, List.mem_cons, not_or] at closed
      have stays : (c != '"') = true := bne_iff_ne.2 (Ne.symm closed.1)
      unfold splitsFrom
      split
      · exact ih _ _ closed.2
      · rw [stays]
        exact ih _ _ closed.2

theorem splits_of_isStringLiteral {cs : List Char} (h : isStringLiteral cs = true)
    (level : Level) : splits level cs = [] := by
  have inside : ∀ seen rest, '"' ∉ rest.dropLast →
      splitsFrom level 0 [] false seen ('"' :: rest) = [] := by
    intro seen rest closed
    have opened := splitsFrom_open_quote level 0 ('"' :: seen) rest closed
    simpa [splitsFrom] using opened
  unfold isStringLiteral at h
  dsimp only at h
  split at h
  · rename_i rest literal
    have closed : '"' ∉ rest.dropLast := by
      simp only [Bool.and_eq_true, Bool.not_eq_true', List.contains_eq_mem,
        decide_eq_false_iff_not] at h
      exact h.2
    split at literal
    · subst literal
      have none : level.ops.find? (·.standsAt [] ('b' :: '"' :: rest)) = none := by
        simp [List.find?_eq_none, BinaryOp.standsAt]
      have passed := inside ['b'] rest closed
      simpa [splits, splitsFrom, closerOf?, none] using passed
    · subst literal
      exact inside [] rest closed
  · cases h

/-- The text of a string literal. -/
def quotedText (bytes : Bool) (content : List Char) : List Char :=
  (if bytes then ['b'] else []) ++ '"' :: content ++ ['"']

theorem isStringLiteral_quotedText (bytes : Bool) {content : List Char}
    (isContent : IsContent content) : isStringLiteral (quotedText bytes content) = true := by
  have closed : '"' ∉ content := isContent '"' (by simp)
  cases bytes <;> simp [quotedText, isStringLiteral, closed]

theorem nested_quotedText (bytes : Bool) {content : List Char} (isContent : IsContent content) :
    Nested isQuiet (quotedText bytes content) := by
  have literal : Nested isQuiet ('"' :: (content ++ ['"'])) := .quoted isContent (.nil _)
  cases bytes
  · exact literal
  · exact .plain rfl rfl literal

theorem exists_of_isStringLiteral {cs : List Char} (h : isStringLiteral cs = true) :
    ∃ mark content, cs = mark ++ '"' :: (content ++ ['"']) ∧ (mark = [] ∨ mark = ['b']) ∧
      '"' ∉ content := by
  unfold isStringLiteral at h
  dsimp only at h
  split at h
  · rename_i rest literal
    simp only [Bool.and_eq_true, beq_iff_eq, Bool.not_eq_true', List.contains_eq_mem,
      decide_eq_false_iff_not] at h
    rcases List.getLast?_eq_some_iff.1 h.1 with ⟨content, rfl⟩
    rw [List.dropLast_concat] at h
    split at literal
    · exact ⟨['b'], content, congrArg _ literal, .inr rfl, h.2⟩
    · exact ⟨[], content, literal, .inl rfl, h.2⟩
  · cases h

/-- What is no string literal by its first or by its last character. -/
theorem isStringLiteral_eq_false {cs : List Char}
    (ends : cs.head? ≠ some '"' ∧ cs.head? ≠ some 'b' ∨ cs.getLast? ≠ some '"') :
    isStringLiteral cs = false := by
  cases h : isStringLiteral cs with
  | false => rfl
  | true =>
    unfold isStringLiteral at h
    dsimp only at h
    split at h
    · rename_i rest literal
      simp only [Bool.and_eq_true, beq_iff_eq] at h
      have some : rest ≠ [] := by
        rintro rfl
        simp at h
      split at literal
      · subst literal
        simp [List.getLast?_cons_of_ne_nil, some, h.1] at ends
      · subst literal
        simp [List.getLast?_cons_of_ne_nil, some, h.1] at ends
    · cases h

end Expr
end AccountAudit
