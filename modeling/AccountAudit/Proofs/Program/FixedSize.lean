import AccountAudit.Proofs.Expr.Token
import AccountAudit.Proofs.Program.Layout
import AccountAudit.Proofs.Text.Trim
import Mathlib.Algebra.GroupWithZero.Nat

/-!
# Types of fixed size

The types whose values all take the same number of bytes are those of a small grammar (`HasSize`): the
primitive types, arrays of a counted number of elements, and options, with blanks between the tokens and
around. A size is found for the types of this grammar, it is the one that the grammar gives, and for no
other text.
-/

namespace AccountAudit
namespace TypeTag

/-! ## The grammar -/

/-- A space between tokens, which stays on its line. -/
def IsGap (gap : List Char) : Prop :=
  ∀ c ∈ gap, Text.isBlank c = true ∧ c ≠ '\n'

/-- The count of an array: a number that is not too long to be read. -/
structure IsCount (count : List Char) : Prop where
  ne_nil : count ≠ []
  digits : ∀ c ∈ count, Text.isDigit c = true
  few : count.length ≤ digitLimit

/-- The text is a type all of whose values take this number of bytes. -/
inductive HasSize : List Char → Nat → Prop where
  /-- A primitive type. -/
  | primitive {name : List Char} {size : Nat} (listed : (name, size) ∈ primitiveSizes) :
      HasSize name size
  /-- An array `[T; n]`. -/
  | array {element count front back : List Char} {size : Nat} (sized : HasSize element size)
      (counted : IsCount count) (gapFront : IsGap front) (gapBack : IsGap back) :
      HasSize ('[' :: (element ++ ';' :: (front ++ count ++ back) ++ [']']))
        (size * Text.digitsValue count)
  /-- An option `Option<T>`. -/
  | optional {content gap : List Char} {size : Nat} (sized : HasSize content size)
      (between : IsGap gap) :
      HasSize (['O', 'p', 't', 'i', 'o', 'n'] ++ (gap ++ '<' :: (content ++ ['>']))) (size + 1)
  /-- A type with blanks around it. -/
  | padded {cs front back : List Char} {size : Nat} (sized : HasSize cs size)
      (gapFront : IsGap front) (gapBack : IsGap back) : HasSize (front ++ cs ++ back) size

/-- No run of digits is too long to be read. -/
def HasShortRuns (cs : List Char) : Prop :=
  ∀ run, run <:+: cs → (∀ c ∈ run, Text.isDigit c = true) → run.length ≤ digitLimit

theorem IsGap.all_isBlank {gap : List Char} (h : IsGap gap) : gap.all Text.isBlank = true :=
  List.all_eq_true.2 fun c inside => (h c inside).1

theorem isGap_of_all_isBlank {gap : List Char} (blank : gap.all Text.isBlank = true)
    (line : '\n' ∉ gap) : IsGap gap := fun c inside =>
  ⟨List.all_eq_true.1 blank c inside, fun same => line (same ▸ inside)⟩

/-! ## The parts of a type -/

/-- The element of an array stands in front of the last semicolon, the count behind it. -/
theorem arrayParts?_of_not_mem {front back : List Char} (absent : ';' ∉ back) :
    arrayParts? ('[' :: (front ++ ';' :: back ++ [']'])) =
      if isPart (Text.trim front) && !(Text.trim back).isEmpty &&
          (Text.trim back).all Text.isDigit then
        some (Text.trim front, Text.trim back)
      else none := by
  have mirrored : (front ++ ';' :: back).reverse = back.reverse ++ ';' :: front.reverse := by simp
  have count : (back.reverse ++ ';' :: front.reverse).takeWhile (· != ';') = back.reverse := by
    rw [List.takeWhile_append_of_pos, List.takeWhile_cons_of_neg (by simp), List.append_nil]
    intro c inside
    rw [List.mem_reverse] at inside
    simpa using fun same : c = ';' => absent (same ▸ inside)
  have element : (back.reverse ++ ';' :: front.reverse).drop back.reverse.length.succ =
      front.reverse := by
    rw [Nat.succ_eq_add_one, List.drop_length_add_append, List.drop_succ_cons, List.drop_zero]
  simp only [arrayParts?, List.getLast?_concat, List.dropLast_concat, mirrored, count, element,
    List.reverse_reverse]
  simp

theorem arrayParts?_eq_some_iff {cs element count : List Char} :
    arrayParts? cs = some (element, count) ↔
      ∃ front back, cs = '[' :: (front ++ ';' :: back ++ [']']) ∧ ';' ∉ back ∧
        Text.trim front = element ∧ Text.trim back = count ∧ isPart element = true ∧ count ≠ [] ∧
        ∀ c ∈ count, Text.isDigit c = true := by
  constructor
  · intro parts
    have form : ∃ front back, cs = '[' :: (front ++ ';' :: back ++ [']']) ∧ ';' ∉ back := by
      unfold arrayParts? at parts
      split at parts
      · rename_i rest
        split at parts
        · rename_i closed
          rcases List.getLast?_eq_some_iff.1 closed with ⟨inner, rfl⟩
          have separated : ';' ∈ inner := by
            by_contra none
            rw [List.dropLast_concat] at parts
            simp [none] at parts
          rcases List.eq_append_cons_of_mem (List.mem_reverse.2 separated) with
            ⟨back, front, mirrored, absent⟩
          refine ⟨front.reverse, back.reverse, ?_, by simpa using absent⟩
          rw [← List.reverse_reverse inner, mirrored]
          simp
        · cases parts
      · cases parts
    rcases form with ⟨front, back, rfl, absent⟩
    rw [arrayParts?_of_not_mem absent] at parts
    split at parts
    · rename_i valid
      obtain ⟨rfl, rfl⟩ := Prod.ext_iff.1 (Option.some.inj parts)
      simp only [Bool.and_eq_true, Bool.not_eq_true', List.isEmpty_eq_false_iff,
        List.all_eq_true] at valid
      exact ⟨front, back, rfl, absent, rfl, rfl, valid.1.1, valid.1.2, valid.2⟩
    · cases parts
  · rintro ⟨front, back, rfl, absent, rfl, rfl, part, some, digits⟩
    rw [arrayParts?_of_not_mem absent, if_pos]
    simpa [part, some] using digits

/-- The content of an option stands between its angle brackets. -/
theorem optionPart?_written {gap inner : List Char} (blank : gap.all Text.isBlank = true) :
    optionPart? (['O', 'p', 't', 'i', 'o', 'n'] ++ (gap ++ '<' :: (inner ++ ['>']))) =
      if isPart (Text.trim inner) then some (Text.trim inner) else none := by
  have opening : Text.trimStart (gap ++ '<' :: (inner ++ ['>'])) = '<' :: (inner ++ ['>']) := by
    rw [Text.trimStart_blank_append _ blank]
    rfl
  have named : ['O', 'p', 't', 'i', 'o', 'n'].isPrefixOf
      (['O', 'p', 't', 'i', 'o', 'n'] ++ (gap ++ '<' :: (inner ++ ['>']))) = true :=
    List.isPrefixOf_iff_prefix.2 (List.prefix_append _ _)
  simp only [optionPart?, named, List.drop_left, opening, List.getLast?_concat, List.dropLast_concat]
  simp

theorem optionPart?_eq_some_iff {cs content : List Char} :
    optionPart? cs = some content ↔
      ∃ gap inner, cs = ['O', 'p', 't', 'i', 'o', 'n'] ++ (gap ++ '<' :: (inner ++ ['>'])) ∧
        gap.all Text.isBlank = true ∧ Text.trim inner = content ∧ isPart content = true := by
  constructor
  · intro parts
    have form : ∃ gap inner, cs = ['O', 'p', 't', 'i', 'o', 'n'] ++ (gap ++ '<' :: (inner ++ ['>'])) ∧
        gap.all Text.isBlank = true := by
      unfold optionPart? at parts
      dsimp only at parts
      split at parts
      · rename_i named
        rcases List.isPrefixOf_iff_prefix.1 named with ⟨behind, rfl⟩
        rw [List.drop_left] at parts
        split at parts
        · rename_i rest opening
          by_cases closed : rest.getLast? = some '>'
          · rcases List.getLast?_eq_some_iff.1 closed with ⟨inner, rfl⟩
            refine ⟨behind.takeWhile Text.isBlank, inner, ?_, List.all_takeWhile⟩
            rw [← opening, Text.trimStart, List.takeWhile_append_dropWhile]
          · simp [closed] at parts
        · cases parts
      · cases parts
    rcases form with ⟨gap, inner, rfl, blank⟩
    rw [optionPart?_written blank] at parts
    split at parts
    · rename_i part
      obtain rfl := Option.some.inj parts
      exact ⟨gap, inner, rfl, blank, rfl, part⟩
    · cases parts
  · rintro ⟨gap, inner, rfl, blank, rfl, part⟩
    rw [optionPart?_written blank, if_pos part]

theorem isPart_iff {cs : List Char} : isPart cs = true ↔ cs ≠ [] ∧ '\n' ∉ cs := by
  simp [isPart]

/-! ## Types of the grammar -/

theorem lineFeed_not_mem_primitive : ∀ entry ∈ primitiveSizes, '\n' ∉ entry.1 := by
  decide

theorem visible_primitive : ∀ entry ∈ primitiveSizes, entry.1.all Text.isBlank = false := by
  decide +kernel

/-- A primitive type is found under its name, and blanks around the name do not matter. -/
theorem find?_primitive : ∀ entry ∈ primitiveSizes,
    primitiveSizes.find? (·.1 == Text.trim entry.1) = some entry := by
  decide +kernel

theorem IsGap.lineFeed_not_mem {gap : List Char} (h : IsGap gap) : '\n' ∉ gap :=
  fun inside => (h _ inside).2 rfl

theorem IsCount.not_mem {count : List Char} (h : IsCount count) {c : Char}
    (other : Text.isDigit c = false) : c ∉ count := fun inside => by
  simp [h.digits c inside] at other

theorem HasSize.lineFeed_not_mem {cs : List Char} {size : Nat} (sized : HasSize cs size) :
    '\n' ∉ cs := by
  induction sized with
  | primitive listed => exact lineFeed_not_mem_primitive _ listed
  | array _ counted gapFront gapBack ih =>
    simp [ih, counted.not_mem (c := '\n') (by decide), gapFront.lineFeed_not_mem,
      gapBack.lineFeed_not_mem]
  | optional _ between ih => simp [ih, between.lineFeed_not_mem]
  | padded _ gapFront gapBack ih =>
    simp [ih, gapFront.lineFeed_not_mem, gapBack.lineFeed_not_mem]

theorem HasSize.visible {cs : List Char} {size : Nat} (sized : HasSize cs size) :
    cs.all Text.isBlank = false := by
  induction sized with
  | primitive listed => exact visible_primitive _ listed
  | array => rfl
  | optional => rfl
  | padded _ _ _ ih => simp [List.all_append, ih]

/-- A type of the grammar can be a part of another one. -/
theorem HasSize.isPart_trim {cs : List Char} {size : Nat} (sized : HasSize cs size) :
    isPart (Text.trim cs) = true := by
  have visible : (Text.trim cs).all Text.isBlank = false := by
    rw [Text.trim, Text.all_isBlank_trimEnd, Text.all_isBlank_trimStart, sized.visible]
  refine isPart_iff.2 ⟨fun empty => ?_, fun inside => sized.lineFeed_not_mem ?_⟩
  · rw [empty] at visible
    cases visible
  · rcases Text.exists_around_trim cs with ⟨front, back, -, -, whole⟩
    rw [whole]
    simp [inside]

/-! ## Layouts of the types of the grammar -/

/-- Blanks around a type do not matter for its layout. -/
theorem layoutWithin_congr {cs ds : List Char} (same : Text.trim cs = Text.trim ds) (depth : Nat) :
    layoutWithin depth cs = layoutWithin depth ds := by
  cases depth with
  | zero => rfl
  | succ depth => rw [layoutWithin, layoutWithin, same]

theorem find?_eq_none_of_head {c : Char} {cs : List Char}
    (other : ∀ entry ∈ primitiveSizes, entry.1.head? ≠ some c) :
    primitiveSizes.find? (·.1 == c :: cs) = none := by
  refine List.find?_eq_none.2 fun entry inside same => other entry inside ?_
  rw [eq_of_beq same]
  rfl

theorem tight_of_ends {first last : Char} {cs : List Char} (start : Text.isBlank first = false)
    (stop : Text.isBlank last = false) : Text.Tight (first :: (cs ++ [last])) where
  head := by simpa using start
  last := by simpa [List.getLast?_cons, List.getLast?_append] using stop

theorem IsCount.trim_around {count front back : List Char} (h : IsCount count)
    (gapFront : IsGap front) (gapBack : IsGap back) :
    Text.trim (front ++ count ++ back) = count := by
  have visible : ∀ c ∈ count, Text.isBlank c = false :=
    fun c inside => Expr.isBlank_of_isDigit (h.digits c inside)
  refine Text.trim_pad gapFront.all_isBlank gapBack.all_isBlank ⟨?_, ?_⟩ h.ne_nil
  · exact fun c found => visible c (List.mem_of_head? found)
  · exact fun c found => visible c (List.mem_of_getLast? found)

theorem semicolon_not_mem {count front back : List Char} (counted : IsCount count)
    (gapFront : IsGap front) (gapBack : IsGap back) : ';' ∉ front ++ count ++ back := by
  have absent : ∀ {gap}, IsGap gap → ';' ∉ gap := by
    intro gap isGap inside
    have blank := (isGap _ inside).1
    revert blank
    decide
  simp [absent gapFront, absent gapBack, counted.not_mem (c := ';') (by decide)]

/-- The text of an array. -/
theorem layoutWithin_array {element count front back : List Char} (depth : Nat)
    (part : isPart (Text.trim element) = true) (counted : IsCount count) (gapFront : IsGap front)
    (gapBack : IsGap back) :
    layoutWithin (depth + 1) ('[' :: (element ++ ';' :: (front ++ count ++ back) ++ [']'])) =
      (layoutWithin depth element).map (.array · count) := by
  have whole : Text.trim ('[' :: (element ++ ';' :: (front ++ count ++ back) ++ [']'])) =
      '[' :: (element ++ ';' :: (front ++ count ++ back) ++ [']']) :=
    Text.trim_of_tight (tight_of_ends rfl rfl) (by simp)
  have parts : arrayParts? ('[' :: (element ++ ';' :: (front ++ count ++ back) ++ [']'])) =
      some (Text.trim element, count) :=
    arrayParts?_eq_some_iff.2 ⟨element, front ++ count ++ back, rfl,
      semicolon_not_mem counted gapFront gapBack, rfl, counted.trim_around gapFront gapBack,
      part, counted.ne_nil, counted.digits⟩
  rw [layoutWithin, whole, find?_eq_none_of_head (by decide)]
  dsimp only
  rw [parts]
  dsimp only
  rw [layoutWithin_congr (Text.trim_trim element)]

/-- The text of an option. -/
theorem layoutWithin_optional {content gap : List Char} (depth : Nat)
    (part : isPart (Text.trim content) = true) (between : IsGap gap) :
    layoutWithin (depth + 1) (['O', 'p', 't', 'i', 'o', 'n'] ++ (gap ++ '<' :: (content ++ ['>']))) =
      (layoutWithin depth content).map .optional := by
  have ends : Text.Tight ('O' :: (['p', 't', 'i', 'o', 'n'] ++ (gap ++ '<' :: content) ++ ['>'])) :=
    tight_of_ends rfl rfl
  have whole : Text.trim (['O', 'p', 't', 'i', 'o', 'n'] ++ (gap ++ '<' :: (content ++ ['>']))) =
      ['O', 'p', 't', 'i', 'o', 'n'] ++ (gap ++ '<' :: (content ++ ['>'])) :=
    Text.trim_of_tight (by simpa using ends) (by simp)
  have noArray : arrayParts? (['O', 'p', 't', 'i', 'o', 'n'] ++ (gap ++ '<' :: (content ++ ['>']))) =
      none := rfl
  have parts : optionPart? (['O', 'p', 't', 'i', 'o', 'n'] ++ (gap ++ '<' :: (content ++ ['>']))) =
      some (Text.trim content) :=
    optionPart?_eq_some_iff.2 ⟨gap, content, rfl, between.all_isBlank, rfl, part⟩
  rw [layoutWithin, whole, noArray, parts, List.cons_append, find?_eq_none_of_head (by decide)]
  dsimp only
  rw [Option.bind_some, layoutWithin_congr (Text.trim_trim content)]

/-- A type of the grammar has a layout, whose size is that of the type. -/
theorem exists_layoutWithin {cs : List Char} {size : Nat} (sized : HasSize cs size) {depth : Nat}
    (deep : cs.length < depth) :
    ∃ layout, layoutWithin depth cs = some layout ∧ layout.size = .ok size := by
  induction sized generalizing depth with
  | @primitive name size listed =>
    rcases Nat.exists_eq_succ_of_ne_zero (Nat.ne_zero_of_lt deep) with ⟨depth, rfl⟩
    refine ⟨.primitive size, ?_, rfl⟩
    rw [layoutWithin, find?_primitive _ listed]
  | @array element count front back size sized counted gapFront gapBack ih =>
    rcases Nat.exists_eq_succ_of_ne_zero (Nat.ne_zero_of_lt deep) with ⟨depth, rfl⟩
    have shorter : element.length < depth := by
      simp only [List.length_cons, List.length_append] at deep
      omega
    rcases ih shorter with ⟨layout, found, measured⟩
    refine ⟨.array layout count, ?_, ?_⟩
    · rw [layoutWithin_array depth sized.isPart_trim counted gapFront gapBack, found]
      rfl
    · rw [FixedLayout.size, measured, readDigits_of_length_le counted.few]
      rfl
  | @optional content gap size sized between ih =>
    rcases Nat.exists_eq_succ_of_ne_zero (Nat.ne_zero_of_lt deep) with ⟨depth, rfl⟩
    have shorter : content.length < depth := by
      simp only [List.length_cons, List.length_append] at deep
      omega
    rcases ih shorter with ⟨layout, found, measured⟩
    refine ⟨.optional layout, ?_, ?_⟩
    · rw [layoutWithin_optional depth sized.isPart_trim between, found]
      rfl
    · rw [FixedLayout.size, measured]
      rfl
  | @padded cs front back size sized gapFront gapBack ih =>
    rw [layoutWithin_congr (Text.trim_around cs gapFront.all_isBlank gapBack.all_isBlank)]
    simp only [List.length_append] at deep
    exact ih (by omega)

/-! ## Layouts that are found -/

theorem HasShortRuns.of_infix {cs part : List Char} (short : HasShortRuns cs) (inside : part <:+: cs) :
    HasShortRuns part :=
  fun run within => short run (within.trans inside)

/-- A text that is a type without the blanks around it is one. -/
theorem HasSize.of_trim {cs : List Char} {size : Nat} (sized : HasSize (Text.trim cs) size)
    (line : '\n' ∉ cs) : HasSize cs size := by
  rcases Text.exists_around_trim cs with ⟨front, back, blankFront, blankBack, whole⟩
  rw [whole] at line ⊢
  simp only [List.mem_append, not_or] at line
  exact .padded sized (isGap_of_all_isBlank blankFront line.1.1)
    (isGap_of_all_isBlank blankBack line.2)

/-- The text of which an array was read is an array. -/
theorem HasSize.of_arrayParts? {cs element count : List Char}
    (parts : arrayParts? cs = some (element, count)) (line : '\n' ∉ cs) (short : HasShortRuns cs) :
    element <:+: cs ∧ IsCount count ∧
      ∀ size, HasSize element size → HasSize cs (size * Text.digitsValue count) := by
  rcases arrayParts?_eq_some_iff.1 parts with ⟨front, back, rfl, -, rfl, rfl, -, some, digits⟩
  rcases Text.exists_around_trim front with ⟨frontGap, backGap, -, -, aroundElement⟩
  rcases Text.exists_around_trim back with ⟨gapFront, gapBack, blankFront, blankBack, aroundCount⟩
  have counted : IsCount (Text.trim back) :=
    ⟨some, digits, short _ ⟨'[' :: (front ++ ';' :: gapFront), gapBack ++ [']'], by
      conv_rhs => rw [aroundCount]
      simp⟩ digits⟩
  simp only [List.mem_cons, List.mem_append, not_or] at line
  have lineBack := line.2.1.2.2
  rw [aroundCount, List.mem_append, List.mem_append, not_or, not_or] at lineBack
  refine ⟨⟨'[' :: frontGap, backGap ++ ';' :: back ++ [']'], ?_⟩, counted, fun size sized => ?_⟩
  · conv_rhs => rw [aroundElement]
    simp
  · have array := HasSize.array (sized.of_trim line.2.1.1) counted
      (isGap_of_all_isBlank blankFront lineBack.1.1) (isGap_of_all_isBlank blankBack lineBack.2)
    rwa [← aroundCount] at array

/-- The text of which an option was read is an option. -/
theorem HasSize.of_optionPart? {cs content : List Char} (part : optionPart? cs = some content)
    (line : '\n' ∉ cs) :
    content <:+: cs ∧ ∀ size, HasSize content size → HasSize cs (size + 1) := by
  rcases optionPart?_eq_some_iff.1 part with ⟨gap, inner, rfl, blank, rfl, -⟩
  rcases Text.exists_around_trim inner with ⟨front, back, -, -, around⟩
  simp only [List.mem_cons, List.mem_append, not_or] at line
  refine ⟨⟨['O', 'p', 't', 'i', 'o', 'n'] ++ gap ++ '<' :: front, back ++ ['>'], ?_⟩,
    fun size sized => ?_⟩
  · conv_rhs => rw [around]
    simp
  · exact .optional (sized.of_trim line.2.2.2.1) (isGap_of_all_isBlank blank line.2.1)

/-- A layout that is found is that of a type of the grammar. -/
theorem exists_hasSize {depth : Nat} {cs : List Char} {layout : FixedLayout}
    (found : layoutWithin depth cs = some layout) (line : '\n' ∉ cs) (short : HasShortRuns cs) :
    ∃ size, layout.size = .ok size ∧ HasSize cs size := by
  induction depth generalizing cs layout with
  | zero => cases found
  | succ depth ih =>
    have trimmed : Text.trim cs <:+: cs := by
      rcases Text.exists_around_trim cs with ⟨front, back, -, -, whole⟩
      exact ⟨front, back, whole.symm⟩
    have shortTrimmed := short.of_infix trimmed
    have lineTrimmed : '\n' ∉ Text.trim cs := fun inside => line (trimmed.subset inside)
    suffices ∃ size, layout.size = .ok size ∧ HasSize (Text.trim cs) size by
      rcases this with ⟨size, measured, sized⟩
      exact ⟨size, measured, sized.of_trim line⟩
    rw [layoutWithin] at found
    cases listed : primitiveSizes.find? (·.1 == Text.trim cs) with
    | some entry =>
      rcases entry with ⟨name, size⟩
      rw [listed] at found
      obtain rfl := Option.some.inj found
      have named : name = Text.trim cs := by simpa using List.find?_some listed
      exact ⟨size, rfl, .primitive (named ▸ List.mem_of_find?_eq_some listed)⟩
    | none =>
      simp only [listed] at found
      cases parts : arrayParts? (Text.trim cs) with
      | some pair =>
        rcases pair with ⟨element, count⟩
        simp only [parts] at found
        rcases Option.map_eq_some_iff.1 found with ⟨inner, foundInner, rfl⟩
        rcases HasSize.of_arrayParts? parts lineTrimmed shortTrimmed with ⟨inside, counted, array⟩
        rcases ih foundInner (fun c => lineTrimmed (inside.subset c)) (shortTrimmed.of_infix inside)
          with ⟨size, measured, sized⟩
        refine ⟨size * Text.digitsValue count, ?_, array size sized⟩
        rw [FixedLayout.size, measured, readDigits_of_length_le counted.few]
        rfl
      | none =>
        simp only [parts] at found
        rcases Option.bind_eq_some_iff.1 found with ⟨content, part, wrapped⟩
        rcases Option.map_eq_some_iff.1 wrapped with ⟨inner, foundInner, rfl⟩
        rcases HasSize.of_optionPart? part lineTrimmed with ⟨inside, optional⟩
        rcases ih foundInner (fun c => lineTrimmed (inside.subset c)) (shortTrimmed.of_infix inside)
          with ⟨size, measured, sized⟩
        refine ⟨size + 1, ?_, optional size sized⟩
        rw [FixedLayout.size, measured]
        rfl

/-- A size is found for the types of the grammar, and it is theirs. -/
theorem serializedSize?_eq_some_iff {tag : String} (line : '\n' ∉ tag.toList)
    (short : HasShortRuns tag.toList) {size : Nat} :
    serializedSize? tag = .ok (some size) ↔ HasSize tag.toList size := by
  have deep : tag.toList.length < tag.length + 1 := Nat.lt_succ_self _
  rw [serializedSize?, layout?]
  constructor
  · intro measured
    cases found : layoutWithin (tag.length + 1) tag.toList with
    | none => simp [found] at measured
    | some layout =>
      rcases exists_hasSize found line short with ⟨size', measured', sized⟩
      simp only [found, measured'] at measured
      obtain rfl : size' = size := Option.some.inj (Except.ok.inj measured)
      exact sized
  · intro sized
    rcases exists_layoutWithin sized deep with ⟨layout, found, measured⟩
    simp only [found, measured]
    rfl

/-- For every other text it is said that there is no size. -/
theorem serializedSize?_eq_none_iff {tag : String} (line : '\n' ∉ tag.toList)
    (short : HasShortRuns tag.toList) :
    serializedSize? tag = .ok none ↔ ∀ size, ¬ HasSize tag.toList size := by
  constructor
  · intro unsized size sized
    rw [(serializedSize?_eq_some_iff line short).2 sized] at unsized
    cases unsized
  · intro none
    rw [serializedSize?, layout?]
    cases found : layoutWithin (tag.length + 1) tag.toList with
    | none => rfl
    | some layout =>
      rcases exists_hasSize found line short with ⟨size, -, sized⟩
      exact absurd sized (none size)

end TypeTag

/-! ## Layouts -/

namespace StructDecl

/-- The size of a layout that declares none is that of its fields and its discriminator. Fields behind
one without a size do not matter, nor do those behind one whose size cannot be read. -/
structure SumsFields (decl : StructDecl) : Prop where
  sum : ∀ sizes : List Nat,
    decl.fields.map (fun field => TypeTag.serializedSize? field.typeTag) =
        sizes.map (fun size => .ok (some size)) →
      decl.serializedSize? = .ok (some ((if decl.discriminator then 8 else 0) + (sizes.sum : Nat)))
  unsized : ∀ front field back, decl.fields = front ++ field :: back →
    (∀ f ∈ front, ∃ size?, TypeTag.serializedSize? f.typeTag = .ok size?) →
    TypeTag.serializedSize? field.typeTag = .ok none → decl.serializedSize? = .ok none
  unreadable : ∀ front field back excess, decl.fields = front ++ field :: back →
    (∀ f ∈ front, ∃ size, TypeTag.serializedSize? f.typeTag = .ok (some size)) →
    TypeTag.serializedSize? field.typeTag = .error excess → decl.serializedSize? = .error excess

theorem fieldSizes_eq_sum {fields : List FieldDecl} {sizes : List Nat}
    (sized : fields.map (fun field => TypeTag.serializedSize? field.typeTag) =
      sizes.map fun size => .ok (some size)) : fieldSizes fields = .ok (some sizes.sum) := by
  induction fields generalizing sizes with
  | nil =>
    obtain rfl : sizes = [] := by simpa using sized.symm
    rfl
  | cons field rest ih =>
    cases sizes with
    | nil => simp at sized
    | cons size sizes =>
      rw [List.map_cons, List.map_cons, List.cons.injEq] at sized
      rw [fieldSizes_of_sized sized.1, ih sized.2, List.sum_cons]
      rfl

theorem fieldSizes_of_unsized {front : List FieldDecl} {field : FieldDecl} (back : List FieldDecl)
    (readable : ∀ f ∈ front, ∃ size?, TypeTag.serializedSize? f.typeTag = .ok size?)
    (unsized : TypeTag.serializedSize? field.typeTag = .ok none) :
    fieldSizes (front ++ field :: back) = .ok none := by
  induction front with
  | nil =>
    rw [List.nil_append, fieldSizes, unsized]
    rfl
  | cons first front ih =>
    rw [List.forall_mem_cons] at readable
    rcases readable.1 with ⟨size?, read⟩
    rw [List.cons_append]
    cases size? with
    | none =>
      rw [fieldSizes, read]
      rfl
    | some size =>
      rw [fieldSizes_of_sized read, ih readable.2]
      rfl

theorem fieldSizes_of_unreadable {front : List FieldDecl} {field : FieldDecl} (back : List FieldDecl)
    {excess : DigitExcess}
    (sized : ∀ f ∈ front, ∃ size, TypeTag.serializedSize? f.typeTag = .ok (some size))
    (unreadable : TypeTag.serializedSize? field.typeTag = .error excess) :
    fieldSizes (front ++ field :: back) = .error excess := by
  induction front with
  | nil =>
    rw [List.nil_append, fieldSizes, unreadable]
    rfl
  | cons first front ih =>
    rw [List.forall_mem_cons] at sized
    rcases sized.1 with ⟨size, read⟩
    rw [List.cons_append, fieldSizes_of_sized read, ih sized.2]
    rfl

theorem sumsFields {decl : StructDecl} (undeclared : decl.size = none) : decl.SumsFields where
  sum := by
    intro sizes sized
    rw [serializedSize?, undeclared]
    dsimp only
    rw [fieldSizes_eq_sum sized]
    cases decl.discriminator <;> rfl
  unsized := by
    intro front field back whole readable unsized
    rw [serializedSize?, undeclared]
    dsimp only
    rw [whole, fieldSizes_of_unsized back readable unsized]
    rfl
  unreadable := by
    intro front field back excess whole sized unreadable
    rw [serializedSize?, undeclared]
    dsimp only
    rw [whole, fieldSizes_of_unreadable back sized unreadable]
    rfl

end StructDecl

namespace TypeTag

/-- **Types of fixed size.** For a text on one line without overlong numbers, the size that is found is
that of the type of the grammar which the text is, and none is found if the text is no such type. The
size of a layout that declares none is the sum of those of its fields and its discriminator. -/
theorem sizes_follow_grammar :
    (∀ tag : String, '\n' ∉ tag.toList → HasShortRuns tag.toList →
      (∀ size, serializedSize? tag = .ok (some size) ↔ HasSize tag.toList size) ∧
      (serializedSize? tag = .ok none ↔ ∀ size, ¬ HasSize tag.toList size)) ∧
    (∀ decl : StructDecl, decl.size = none → decl.SumsFields) :=
  ⟨fun _ line short => ⟨fun _ => serializedSize?_eq_some_iff line short,
    serializedSize?_eq_none_iff line short⟩, fun _ => StructDecl.sumsFields⟩

/-! ### A nested type -/

def nested : String := "[ Option<[u16;2]> ; 03 ]"

def nestedFields : StructDecl :=
  { name := "Nested", fields := [⟨"rows", nested⟩, ⟨"owner", "Pubkey"⟩], discriminator := true }

/-- Three options of two numbers each, and a layout that has them behind its discriminator. -/
theorem sizes_follow_grammar_nested :
    '\n' ∉ nested.toList ∧ HasShortRuns nested.toList ∧ HasSize nested.toList 15 ∧
      nestedFields.size = none ∧ nestedFields.serializedSize? = .ok (some 55) := by
  have line : '\n' ∉ nested.toList := by decide
  have short : HasShortRuns nested.toList := fun run inside _ =>
    inside.length_le.trans (by decide)
  have sized : HasSize nested.toList 15 :=
    ((sizes_follow_grammar.1 nested line short).1 15).1 (by decide +kernel)
  have sums := sizes_follow_grammar.2 nestedFields rfl
  exact ⟨line, short, sized, rfl, sums.sum [15, 32] (by decide +kernel)⟩

end TypeTag
end AccountAudit
