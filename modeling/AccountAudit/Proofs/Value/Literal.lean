import AccountAudit.Proofs.Value.Distinct
import Mathlib.Data.Nat.Digits.Defs

/-!
# Written strings and numbers can be read

A string literal is read as the text that it was written from (`Json.string_quoted`), with the
characters beyond the first plane as two halves, and an integer that has not more digits than can be
read as itself (`Json.wordOrNumber_int`). Both stand in front of any text that cannot be taken for a
part of them.
-/

namespace AccountAudit

/-! ## Digits -/

namespace Text

theorem start?_of_isDigit {c : Char} (digit : c.isDigit = true) :
    digitRanges.start? c.toNat = some 48 := by
  have range : 48 ≤ c.toNat ∧ c.toNat ≤ 57 := by
    simpa [Char.isDigit, UInt32.le_iff_toNat_le] using digit
  unfold digitRanges CharRanges.start?
  simp [range.1, range.2]

theorem isDigit_of_isDigit {c : Char} (digit : c.isDigit = true) : isDigit c = true := by
  rw [isDigit, CharRanges.holds, start?_of_isDigit digit]
  rfl

theorem digitValue_of_isDigit {c : Char} (digit : c.isDigit = true) :
    digitValue c = c.toNat - '0'.toNat := by
  have range : 48 ≤ c.toNat ∧ c.toNat ≤ 57 := by
    simpa [Char.isDigit, UInt32.le_iff_toNat_le] using digit
  rw [digitValue, start?_of_isDigit digit]
  change (c.toNat - 48) % 10 = c.toNat - 48
  omega

theorem digitsValue_toDigits (n : Nat) : digitsValue (Nat.toDigits 10 n) = n := by
  have same : ∀ (cs : List Char) (total : Nat), (∀ c ∈ cs, c.isDigit = true) →
      cs.foldl (fun total c => 10 * total + digitValue c) total =
        cs.foldl (fun total c => 10 * total + (c.toNat - '0'.toNat)) total := by
    intro cs total digits
    induction cs generalizing total with
    | nil => rfl
    | cons c rest ih =>
      rw [List.forall_mem_cons] at digits
      rw [List.foldl_cons, List.foldl_cons, digitValue_of_isDigit digits.1, ih _ digits.2]
  have digits : ∀ c ∈ Nat.toDigits 10 n, c.isDigit = true :=
    fun c inside => Nat.isDigit_of_mem_toDigits (by decide) (by decide) inside
  rw [digitsValue, same _ 0 digits, ← Nat.ofDigitChars_eq_foldl,
    Nat.ofDigitChars_toDigits (by decide) (by decide)]

theorem hexadecimal_succ {width : Nat} (wide : 0 < width) (n : Nat) :
    hexadecimal (width + 1) n = hexadecimal width (n / 16) ++ [Nat.digitChar (n % 16)] := by
  unfold hexadecimal
  rcases Nat.lt_or_ge n 16 with one | more
  -- A single digit is filled up with zeros, of which the last is a digit of zero.
  · have filled : List.replicate width '0' = List.replicate (width - 1) '0' ++ ['0'] := by
      rw [← List.replicate_succ', Nat.sub_add_cancel wide]
    rw [Nat.div_eq_of_lt one, Nat.mod_eq_of_lt one, Nat.toDigits_of_lt_base one,
      Nat.toDigits_of_lt_base (by decide)]
    simp [filled, Nat.digitChar]
  · rw [Nat.toDigits_of_base_le (by decide) more]
    simp [Nat.add_sub_add_right]

/-- Four digits are enough for a code unit. -/
theorem hexadecimal_four {n : Nat} (small : n < 0x10000) :
    hexadecimal 4 n = [Nat.digitChar (n / 16 / 16 / 16), Nat.digitChar (n / 16 / 16 % 16),
      Nat.digitChar (n / 16 % 16), Nat.digitChar (n % 16)] := by
  have first : n / 16 / 16 / 16 < 16 := by omega
  rw [hexadecimal_succ (by decide), hexadecimal_succ (by decide), hexadecimal_succ (by decide)]
  simp [hexadecimal, Nat.toDigits_of_lt_base first]

end Text

/-! ## Strings -/

namespace Json

variable {rest : List Char} {next c : Char}

theorem hexValue?_digitChar : ∀ d < 16, hexValue? (Nat.digitChar d) = some d := by
  decide

/-- The digits of a code unit are read as the code unit. -/
theorem fourHex?_hexadecimal {n : Nat} (small : n < 0x10000) (next : Char) (rest : List Char) :
    fourHex? (Text.hexadecimal 4 n ++ next :: rest) = some (n, next :: rest) := by
  have digit : ∀ m, hexValue? (Nat.digitChar (m % 16)) = some (m % 16) :=
    fun m => hexValue?_digitChar _ (Nat.mod_lt _ (by decide))
  have first : hexValue? (Nat.digitChar (n / 16 / 16 / 16)) = some (n / 16 / 16 / 16) :=
    hexValue?_digitChar _ (by omega)
  rw [Text.hexadecimal_four small]
  simp only [List.cons_append, List.nil_append, fourHex?, first, digit, Option.bind_eq_bind,
    Option.bind_some, Option.pure_def, Option.some.injEq, Prod.mk.injEq, and_true]
  omega

/-! ### Escapes -/

theorem codePoint_unit {n : Nat} (small : n < 0x10000) (whole : ¬ (0xD800 ≤ n ∧ n < 0xE000))
    (next : Char) (rest : List Char) :
    codePoint (Text.hexadecimal 4 n ++ next :: rest) = .ok (Char.ofNat n, next :: rest) := by
  have high : ¬ (0xD800 ≤ n ∧ n < 0xDC00) := by omega
  have low : ¬ (0xDC00 ≤ n ∧ n < 0xE000) := by omega
  unfold codePoint
  rw [fourHex?_hexadecimal small]
  dsimp only
  rw [if_neg high, if_neg low]

/-- The two halves of a surrogate pair are read as one character. -/
theorem codePoint_pair {high low : Nat} (isHigh : 0xD800 ≤ high ∧ high < 0xDC00)
    (isLow : 0xDC00 ≤ low ∧ low < 0xE000) (next : Char) (rest : List Char) :
    codePoint (Text.hexadecimal 4 high ++ '\\' :: 'u' :: (Text.hexadecimal 4 low ++ next :: rest)) =
      .ok (Char.ofNat (0x10000 + (high - 0xD800) * 0x400 + (low - 0xDC00)), next :: rest) := by
  unfold codePoint
  rw [fourHex?_hexadecimal (by omega)]
  dsimp only
  rw [if_pos isHigh]
  simp only [fourHex?_hexadecimal (show low < 0x10000 by omega), if_pos isLow]

theorem stringFrom_unit (opening fuel : Nat) (read digits : List Char) :
    stringFrom opening (fuel + 1) read ('\\' :: 'u' :: digits) =
      match codePoint digits with
      | .error e => .error e
      | .ok (c, rest) => stringFrom opening fuel (c :: read) rest := by
  rfl

theorem stringFrom_plain (opening fuel : Nat) (read rest : List Char) {c : Char} (quote : c ≠ '"')
    (backslash : c ≠ '\\') (printable : ¬ c.toNat < 0x20) :
    stringFrom opening (fuel + 1) read (c :: rest) = stringFrom opening fuel (c :: read) rest := by
  rw [stringFrom, if_neg printable]
  · exact quote
  · exact backslash

theorem toNat_ne_surrogate (c : Char) : ¬ (0xD800 ≤ c.toNat ∧ c.toNat < 0xE000) := by
  have valid := c.valid
  simp only [UInt32.isValidChar, Nat.isValidChar] at valid
  change ¬ (0xD800 ≤ c.val.toNat ∧ c.val.toNat < 0xE000)
  omega

theorem toNat_lt (c : Char) : c.toNat < 0x110000 := by
  have valid := c.valid
  simp only [UInt32.isValidChar, Nat.isValidChar] at valid
  change c.val.toNat < 0x110000
  omega

/-- The escape of a code unit. -/
def unit (n : Nat) : List Char :=
  '\\' :: 'u' :: Text.hexadecimal 4 n

/-- How a character is escaped: by a letter, not at all, or by one code unit or two. -/
theorem escape_cases (c : Char) :
    (∃ letter, letter ≠ 'u' ∧ simpleEscape? letter = some c ∧ escape c = ['\\', letter]) ∨
    (c ≠ '"' ∧ c ≠ '\\' ∧ ¬ c.toNat < 0x20 ∧ escape c = [c]) ∨
    (c.toNat < 0x10000 ∧ escape c = unit c.toNat) ∨
    0x10000 ≤ c.toNat ∧ escape c = unit (0xD800 + (c.toNat - 0x10000) / 0x400) ++
      unit (0xDC00 + (c.toNat - 0x10000) % 0x400) := by
  unfold escape
  split
  · rename_i quote
    exact .inl ⟨c, by rintro rfl; simp at quote, by rcases quote with rfl | rfl <;> rfl, rfl⟩
  · rename_i bare
    rw [not_or] at bare
    split
    · exact .inl ⟨'n', by decide, by subst c; rfl, rfl⟩
    split
    · exact .inl ⟨'r', by decide, by subst c; rfl, rfl⟩
    split
    · exact .inl ⟨'t', by decide, by subst c; rfl, rfl⟩
    split
    · exact .inl ⟨'b', by decide, by subst c; rfl, rfl⟩
    split
    · exact .inl ⟨'f', by decide, by subst c; rfl, rfl⟩
    split
    · rename_i printable
      exact .inr (.inl ⟨bare.1, bare.2, Nat.not_lt.2 printable.1, rfl⟩)
    split
    · rename_i small
      exact .inr (.inr (.inl ⟨small, rfl⟩))
    · rename_i large
      exact .inr (.inr (.inr ⟨Nat.not_lt.1 large, rfl⟩))

theorem stringFrom_letter (opening fuel : Nat) (read rest : List Char) {letter c : Char}
    (other : letter ≠ 'u') (stands : simpleEscape? letter = some c) :
    stringFrom opening (fuel + 1) read ('\\' :: letter :: rest) =
      stringFrom opening fuel (c :: read) rest := by
  rw [stringFrom, stands]
  exact other

/-- A character that was escaped is read as itself. -/
theorem stringFrom_escape (opening fuel : Nat) (read : List Char) (c next : Char)
    (rest : List Char) :
    stringFrom opening (fuel + 1) read (escape c ++ next :: rest) =
      stringFrom opening fuel (c :: read) (next :: rest) := by
  rcases escape_cases c with ⟨letter, other, stands, is⟩ | ⟨quote, backslash, printable, is⟩ |
    ⟨small, is⟩ | ⟨large, is⟩
  · rw [is]
    exact stringFrom_letter opening fuel read _ other stands
  · rw [is]
    exact stringFrom_plain opening fuel read _ quote backslash printable
  · rw [is, unit, List.cons_append, List.cons_append, stringFrom_unit,
      codePoint_unit small (toNat_ne_surrogate c), Char.ofNat_toNat]
  -- The character lies beyond the first plane, and its two halves are read together.
  · have bound := toNat_lt c
    have high : 0xD800 ≤ 0xD800 + (c.toNat - 0x10000) / 0x400 ∧
        0xD800 + (c.toNat - 0x10000) / 0x400 < 0xDC00 := by omega
    have low : 0xDC00 ≤ 0xDC00 + (c.toNat - 0x10000) % 0x400 ∧
        0xDC00 + (c.toNat - 0x10000) % 0x400 < 0xE000 := by omega
    have whole : 0x10000 + (0xD800 + (c.toNat - 0x10000) / 0x400 - 0xD800) * 0x400 +
        (0xDC00 + (c.toNat - 0x10000) % 0x400 - 0xDC00) = c.toNat := by omega
    have pair := codePoint_pair high low next rest
    rw [whole, Char.ofNat_toNat] at pair
    rw [is, unit, unit, List.append_assoc, List.cons_append, List.cons_append, stringFrom_unit,
      List.cons_append, List.cons_append, pair]

theorem escape_ne_nil (c : Char) : escape c ≠ [] := by
  rcases escape_cases c with ⟨letter, -, -, is⟩ | ⟨-, -, -, is⟩ | ⟨-, is⟩ | ⟨-, is⟩
  · rw [is]
    exact List.cons_ne_nil _ _
  · rw [is]
    exact List.cons_ne_nil _ _
  · rw [is]
    exact List.cons_ne_nil _ _
  · rw [is]
    exact List.append_ne_nil_of_left_ne_nil (List.cons_ne_nil _ _) _

/-- Escaping makes no text shorter. -/
theorem length_le_length_escaped (cs : List Char) : cs.length ≤ (cs.flatMap escape).length := by
  induction cs with
  | nil => simp
  | cons c rest ih =>
    have step := List.length_pos_iff.2 (escape_ne_nil c)
    rw [List.flatMap_cons, List.length_append, List.length_cons]
    omega

/-- A string literal is read as the text that it was written from. -/
theorem string_quoted (s : String) (rest : List Char) :
    string (s.toList.flatMap escape ++ '"' :: rest) = .ok (s, rest) := by
  -- Every character takes one step, and at least one character of the literal.
  have steps : ∀ (cs read : List Char) (opening fuel : Nat), cs.length < fuel →
      stringFrom opening fuel read (cs.flatMap escape ++ '"' :: rest) =
        .ok (String.ofList (read.reverse ++ cs), rest) := by
    intro cs
    induction cs with
    | nil =>
      intro read opening fuel enough
      obtain ⟨fuel, rfl⟩ := Nat.exists_eq_add_one.2 (Nat.zero_lt_of_lt enough)
      simp [stringFrom]
    | cons c cs ih =>
      intro read opening fuel enough
      rw [List.length_cons] at enough
      obtain ⟨fuel, rfl⟩ := Nat.exists_eq_add_one.2 (Nat.zero_lt_of_lt enough)
      have follows : ∃ next later, cs.flatMap escape ++ '"' :: rest = next :: later :=
        List.exists_cons_of_ne_nil (by simp)
      obtain ⟨next, later, split⟩ := follows
      rw [List.flatMap_cons, List.append_assoc, split, stringFrom_escape, ← split,
        ih (c :: read) opening fuel (Nat.lt_of_succ_lt_succ enough)]
      simp
  have enough := length_le_length_escaped s.toList
  rw [string, steps _ _ _ _ (by rw [List.length_append]; omega)]
  simp

/-! ## Numbers and words -/

/-- The text cannot be taken for a part of a number in front of it. -/
def Ends (rest : List Char) : Prop :=
  ∀ c ∈ rest.head?, isAsciiDigit c = false ∧ c ≠ '.' ∧ c ≠ 'e' ∧ c ≠ 'E'

theorem ends_nil : Ends [] := by
  simp [Ends]

theorem isAsciiDigit_eq (c : Char) : isAsciiDigit c = c.isDigit := by
  simp [isAsciiDigit, Char.isDigit, Char.le_def]

theorem isAsciiDigit_of_mem_toDigits {n : Nat} {c : Char} (inside : c ∈ Nat.toDigits 10 n) :
    isAsciiDigit c = true := by
  rw [isAsciiDigit_eq]
  exact Nat.isDigit_of_mem_toDigits (by decide) (by decide) inside

/-- A number other than zero starts with another digit than zero. -/
theorem head_toDigits_ne_zero {n : Nat} (positive : n ≠ 0) :
    (Nat.toDigits 10 n).head? ≠ some '0' := by
  induction n using Nat.strongRecOn with
  | ind n ih =>
    rcases Nat.lt_or_ge n 10 with one | more
    · rw [Nat.toDigits_of_lt_base one]
      have digits : ∀ m < 10, m ≠ 0 → [Nat.digitChar m].head? ≠ some '0' := by decide
      exact digits n one positive
    · rw [Nat.toDigits_of_base_le (by decide) more, List.head?_append]
      have front := ih (n / 10) (Nat.div_lt_self (by omega) (by decide)) (by omega)
      cases first : (Nat.toDigits 10 (n / 10)).head? with
      | none => exact absurd (List.head?_eq_none_iff.1 first) Nat.toDigits_ne_nil
      | some c => simpa [first] using front

/-- The sign of a number and its rest. -/
def signed (cs : List Char) : Bool × List Char :=
  match cs with
  | '-' :: rest => (true, rest)
  | _ => (false, cs)

/-- The digits in front of a number's point. -/
def wholeDigits (body : List Char) : List Char :=
  match body with
  | '0' :: _ => ['0']
  | _ => body.takeWhile isAsciiDigit

/-- The digits behind a number's point and what follows them. -/
def fractionDigits (rest : List Char) : List Char × List Char :=
  match rest with
  | '.' :: more =>
    let digits := more.takeWhile isAsciiDigit
    if digits.isEmpty then ([], rest) else (digits, more.dropWhile isAsciiDigit)
  | _ => ([], rest)

/-- A number, read of its sign and what follows the sign. -/
def numberOf (cs : List Char) : Bool × List Char → Reading Value
  | (negative, body) =>
    let whole := wholeDigits body
    if whole.isEmpty then .error ⟨.expectingValue, cs.length⟩
    else
      match fractionDigits (body.drop whole.length) with
      | (fraction, rest) =>
        let power := exponent? rest
        if fraction.isEmpty && power.isNone then
          match readDigits whole with
          | .error excess => .error ⟨.integerTooLong excess, cs.length⟩
          | .ok magnitude => .ok (.int (if negative then -magnitude else magnitude), rest)
        else
          let (shift, rest) : Int × List Char := match power with
            | none => (0, rest)
            | some (down, digits, later) =>
              let size : Int := (Text.digitsValue digits : Nat)
              (if down then -size else size, later)
          .ok (.float (.ofDecimal negative (Text.digitsValue (whole ++ fraction))
            (shift - fraction.length)), rest)

theorem number_eq (cs : List Char) : number cs = numberOf cs (signed cs) := rfl

/-- Without a fraction and an exponent a number is an integer. -/
theorem number_eq_int {cs body whole rest : List Char} {negative : Bool} {n : Nat}
    (sign : signed cs = (negative, body)) (isWhole : wholeDigits body = whole)
    (some : whole ≠ []) (noFraction : fractionDigits (body.drop whole.length) = ([], rest))
    (noExponent : exponent? rest = none) (digits : readDigits whole = .ok n) :
    number cs = .ok (.int (if negative then -(n : Int) else n), rest) := by
  rw [number_eq, sign, numberOf]
  dsimp only
  rw [isWhole, if_neg (by simpa using some), noFraction]
  dsimp only
  rw [noExponent, if_pos (by simp), digits]

/-- The digits of a number are taken as its whole part. -/
theorem wholeDigits_toDigits (n : Nat) {rest : List Char} (ends : Ends rest) :
    wholeDigits (Nat.toDigits 10 n ++ rest) = Nat.toDigits 10 n := by
  by_cases zero : n = 0
  · subst zero
    rfl
  -- A first digit of zero would end the whole part at once, but there is none.
  · have stops : rest.takeWhile isAsciiDigit = [] := by
      cases rest with
      | nil => rfl
      | cons c later => simp [(ends c rfl).1]
    have taken : (Nat.toDigits 10 n ++ rest).takeWhile isAsciiDigit = Nat.toDigits 10 n := by
      rw [List.takeWhile_append_of_pos fun c inside => isAsciiDigit_of_mem_toDigits inside, stops,
        List.append_nil]
    unfold wholeDigits
    split
    · rename_i later same
      have head := congrArg List.head? same
      rw [List.head?_append_of_ne_nil _ Nat.toDigits_ne_nil] at head
      exact absurd head (head_toDigits_ne_zero zero)
    · exact taken

theorem fractionDigits_eq {rest : List Char} (ends : Ends rest) :
    fractionDigits rest = ([], rest) := by
  unfold fractionDigits
  split
  · exact absurd rfl (ends '.' rfl).2.1
  · rfl

theorem exponent?_eq_none {rest : List Char} (ends : Ends rest) : exponent? rest = none := by
  cases rest with
  | nil => rfl
  | cons c later =>
    have other := (ends c rfl).2.2
    unfold exponent?
    dsimp only
    rw [if_neg (not_or.2 other)]

theorem readDigits_toDigits {n : Nat} (few : n < 10 ^ digitLimit) :
    readDigits (Nat.toDigits 10 n) = .ok n := by
  have length : (Nat.toDigits 10 n).length ≤ digitLimit :=
    (Nat.length_toDigits_le_iff (by decide) (by decide)).2 few
  rw [readDigits_of_length_le length, Text.digitsValue_toDigits]

/-- Digits with a sign are read as an integer. -/
theorem number_of_signed {cs rest : List Char} {negative : Bool} {n : Nat} (ends : Ends rest)
    (few : n < 10 ^ digitLimit) (sign : signed cs = (negative, Nat.toDigits 10 n ++ rest)) :
    number cs = .ok (.int (if negative then -(n : Int) else n), rest) := by
  have noFraction : fractionDigits ((Nat.toDigits 10 n ++ rest).drop (Nat.toDigits 10 n).length) =
      ([], rest) := by
    rw [List.drop_left, fractionDigits_eq ends]
  exact number_eq_int sign (wholeDigits_toDigits n ends) Nat.toDigits_ne_nil noFraction
    (exponent?_eq_none ends) (readDigits_toDigits few)

theorem signed_of_head?_ne {cs : List Char} (other : cs.head? ≠ some '-') :
    signed cs = (false, cs) := by
  unfold signed
  split
  · exact absurd rfl other
  · rfl

/-- No word starts with a digit. -/
theorem wordOrNumber_of_digit (digit : isAsciiDigit c = true) (rest : List Char) :
    wordOrNumber (c :: rest) = number (c :: rest) := by
  have other : ∀ (word : String) (d : Char) (later : List Char), word.toList = d :: later →
      isAsciiDigit d = false → word? word (c :: rest) = none := by
    intro word d later is no
    have apart : d ≠ c := by
      rintro rfl
      rw [digit] at no
      cases no
    rw [word?, is, if_neg]
    simp [apart]
  unfold wordOrNumber
  simp only [List.findSome?_cons, List.findSome?_nil, other "null" 'n' _ rfl rfl,
    other "true" 't' _ rfl rfl, other "false" 'f' _ rfl rfl, other "NaN" 'N' _ rfl rfl,
    other "Infinity" 'I' _ rfl rfl, other "-Infinity" '-' _ rfl rfl, Option.map_none]

/-- The only word with a minus goes on with a letter. -/
theorem wordOrNumber_of_minus (digit : isAsciiDigit c = true) (rest : List Char) :
    wordOrNumber ('-' :: c :: rest) = number ('-' :: c :: rest) := by
  have other : ∀ (word : String) (d : Char) (later : List Char), word.toList = d :: later →
      d ≠ '-' → word? word ('-' :: c :: rest) = none := by
    intro word d later is apart
    rw [word?, is, if_neg]
    simp [apart]
  have infinite : word? "-Infinity" ('-' :: c :: rest) = none := by
    have apart : 'I' ≠ c := by
      rintro rfl
      cases digit
    rw [word?, show "-Infinity".toList = '-' :: 'I' :: "nfinity".toList from rfl, if_neg]
    simp [apart]
  unfold wordOrNumber
  simp only [List.findSome?_cons, List.findSome?_nil, other "null" 'n' _ rfl (by decide),
    other "true" 't' _ rfl (by decide), other "false" 'f' _ rfl (by decide),
    other "NaN" 'N' _ rfl (by decide), other "Infinity" 'I' _ rfl (by decide), infinite,
    Option.map_none]

theorem toList_ofNat (n : Nat) : (scalar (.int (.ofNat n))).toList = Nat.toDigits 10 n :=
  Nat.toList_repr

theorem toList_negSucc (n : Nat) :
    (scalar (.int (.negSucc n))).toList = '-' :: Nat.toDigits 10 (n + 1) := by
  change ("-" ++ Nat.repr (n + 1)).toList = _
  simp

theorem exists_digit_cons (n : Nat) :
    ∃ d later, Nat.toDigits 10 n = d :: later ∧ isAsciiDigit d = true := by
  obtain ⟨d, later, is⟩ := List.exists_cons_of_ne_nil (Nat.toDigits_ne_nil (n := n) (b := 10))
  exact ⟨d, later, is, isAsciiDigit_of_mem_toDigits (n := n) (by simp [is])⟩

/-- An integer that is not too long is read as itself. -/
theorem wordOrNumber_int {i : Int} (few : i.natAbs < 10 ^ digitLimit) {rest : List Char}
    (ends : Ends rest) : wordOrNumber ((scalar (.int i)).toList ++ rest) = .ok (.int i, rest) := by
  cases i with
  | ofNat n =>
    obtain ⟨d, later, is, digit⟩ := exists_digit_cons n
    have sign : signed (Nat.toDigits 10 n ++ rest) = (false, Nat.toDigits 10 n ++ rest) := by
      refine signed_of_head?_ne ?_
      rw [is]
      rintro ⟨⟩
      cases digit
    have read := number_of_signed ends few sign
    rw [toList_ofNat]
    rw [is, List.cons_append] at read ⊢
    rw [wordOrNumber_of_digit digit, read]
    rfl
  | negSucc n =>
    obtain ⟨d, later, is, digit⟩ := exists_digit_cons (n + 1)
    have sign : signed ('-' :: (Nat.toDigits 10 (n + 1) ++ rest)) =
        (true, Nat.toDigits 10 (n + 1) ++ rest) := rfl
    have read := number_of_signed ends few sign
    rw [toList_negSucc, List.cons_append]
    rw [is, List.cons_append] at read ⊢
    rw [wordOrNumber_of_minus digit, read]
    rfl

end Json

end AccountAudit
