import AccountAudit.Proofs.Value.Literal

/-!
# JSON that is written can be read

Reading a text that was written gives the value that it was written from (`Json.parse_indented`), for
all values made of texts, words, integers, lists and tables (`Json.Plain`). Integers must not have more
digits than can be read, and the names of a table have to be texts and to be distinct.

The proof is for a value in front of any text that cannot be taken for a part of it, so that the items
of a list and the entries of a table can be read one after the other.
-/

namespace AccountAudit

/-! ## Tables with distinct names -/

namespace Value

theorem put_of_not_mem {key : Scalar} {v : Value} {entries : List (Scalar × Value)}
    (absent : key ∉ entries.map Prod.fst) : put key v entries = entries ++ [(key, v)] := by
  induction entries with
  | nil => rfl
  | cons entry rest ih =>
    rw [List.map_cons, List.mem_cons, not_or] at absent
    rw [put, if_neg (Ne.symm absent.1), ih absent.2, List.cons_append]

theorem putAll_of_nodup {base top : List (Scalar × Value)}
    (distinct : ((base ++ top).map Prod.fst).Nodup) : putAll base top = base ++ top := by
  induction top generalizing base with
  | nil => rw [List.append_nil]; rfl
  | cons entry top ih =>
    have absent : entry.1 ∉ base.map Prod.fst := by
      rw [List.map_append, List.nodup_append] at distinct
      exact fun inside => distinct.2.2 _ inside entry.1 (by simp) rfl
    have later : putAll base (entry :: top) = putAll (put entry.1 entry.2 base) top := rfl
    rw [List.append_cons] at distinct
    rw [later, put_of_not_mem absent, ih distinct, ← List.append_cons]

theorem nodup_text {fields : List (String × Value)} (names : (fields.map Prod.fst).Nodup) :
    ((fields.map fun (k, v) => (Scalar.text k, v)).map Prod.fst).Nodup := by
  have keys : (fields.map fun (k, v) => (Scalar.text k, v)).map Prod.fst =
      (fields.map Prod.fst).map Scalar.text := by
    rw [List.map_map, List.map_map]
    rfl
  rw [keys]
  exact List.Pairwise.map Scalar.text (fun _ _ apart same => apart (Scalar.text.inj same)) names

/-- Names that are distinct stay in the order that they are given in. -/
theorem ofFields_of_nodup {fields : List (String × Value)}
    (names : (fields.map Prod.fst).Nodup) :
    ofFields fields = .table (fields.map fun (k, v) => (.text k, v)) := by
  rw [ofFields, ofEntries, putAll_of_nodup, List.nil_append]
  exact nodup_text names

end Value

namespace Json

variable {c : Char}

/-! ## Values in front of a rest -/

/-- The text starts a value, neither with a blank or a byte order mark nor with the end of a list or
a table. -/
def Starts (text : List Char) : Prop :=
  ∃ c later, text = c :: later ∧ isBlank c = false ∧ c ≠ '\ufeff' ∧ c ≠ ']' ∧ c ≠ '\x7d'

/-- The text is read as the value, whatever follows that cannot be taken for a part of it. Two steps
for each of its characters are enough. -/
structure Reads (text : List Char) (v : Value) : Prop where
  starts : Starts text
  value : ∀ {fuel : Nat} {rest : List Char}, Ends rest → 2 * text.length + 1 ≤ fuel →
    Json.value fuel (text ++ rest) = .ok (v, rest)

theorem skipBlanks_of_starts {text : List Char} (starts : Starts text) (rest : List Char) :
    skipBlanks (text ++ rest) = text ++ rest := by
  obtain ⟨c, later, rfl, noBlank, -⟩ := starts
  simp [skipBlanks, noBlank]

/-- A blank in front of a value is skipped. -/
theorem skipBlanks_space {text : List Char} (starts : Starts text) (rest : List Char) :
    skipBlanks (' ' :: (text ++ rest)) = text ++ rest :=
  skipBlanks_of_starts starts rest

/-- Line ends and indentations, which are all the blanks that are written around parts. -/
def Space (cs : List Char) : Prop :=
  ∀ c ∈ cs, c = ' ' ∨ c = '\n'

theorem skipBlanks_append {blanks : List Char} (space : Space blanks) (rest : List Char) :
    skipBlanks (blanks ++ rest) = skipBlanks rest := by
  have all : ∀ c ∈ blanks, isBlank c = true := by
    intro c inside
    rcases space c inside with rfl | rfl <;> rfl
  rw [skipBlanks, List.dropWhile_append_of_pos all, skipBlanks]

/-- The parts between two brackets, each on a line of its own. -/
def joined (line : List Char) : List (List Char) → List Char
  | [] => []
  | [text] => text
  | text :: next :: texts => text ++ ',' :: (line ++ joined line (next :: texts))

theorem ends_cons {later : List Char}
    (other : isAsciiDigit c = false ∧ c ≠ '.' ∧ c ≠ 'e' ∧ c ≠ 'E') : Ends (c :: later) := by
  rintro d same
  obtain rfl := Option.some.inj same
  exact other

theorem value_word {cs rest : List Char} {v : Value} {fuel : Nat}
    (read : wordOrNumber cs = .ok (v, rest)) (quote : cs.head? ≠ some '"')
    (list : cs.head? ≠ some '[') (table : cs.head? ≠ some '\x7b') (enough : 0 < fuel) :
    value fuel cs = .ok (v, rest) := by
  obtain ⟨fuel, rfl⟩ := Nat.exists_eq_add_one.2 (Nat.zero_lt_of_lt enough)
  unfold value
  split
  · exact absurd rfl quote
  · exact absurd rfl list
  · exact absurd rfl table
  · exact read

/-- The space behind the last part and the bracket that closes the parts are no part of a number. -/
theorem ends_space {last : List Char} (space : Space last) {close : Char}
    (closing : close = ']' ∨ close = '\x7d') (rest : List Char) : Ends (last ++ close :: rest) := by
  cases last with
  | nil => rcases closing with rfl | rfl <;> exact ends_cons (by decide)
  | cons c later => rcases space c (by simp) with rfl | rfl <;> exact ends_cons (by decide)

theorem starts_append {text : List Char} (starts : Starts text) (rest : List Char) :
    Starts (text ++ rest) := by
  obtain ⟨c, later, rfl, other⟩ := starts
  exact ⟨c, later ++ rest, rfl, other⟩

theorem starts_joined (line : List Char) {text : List Char} (starts : Starts text)
    (texts : List (List Char)) :
    Starts (joined line (text :: texts)) := by
  cases texts with
  | nil => exact starts
  | cons next texts => exact starts_append starts _

theorem length_pos_of_starts {text : List Char} (starts : Starts text) : 0 < text.length := by
  obtain ⟨c, later, rfl, -⟩ := starts
  simp

theorem skipBlanks_comma (rest : List Char) : skipBlanks (',' :: rest) = ',' :: rest := rfl

theorem skipBlanks_close {close : Char} (closing : close = ']' ∨ close = '\x7d')
    (rest : List Char) : skipBlanks (close :: rest) = close :: rest := by
  rcases closing with rfl | rfl <;> rfl

theorem skipBlanks_space_close {last : List Char} (space : Space last) {close : Char}
    (closing : close = ']' ∨ close = '\x7d') (rest : List Char) :
    skipBlanks (last ++ close :: rest) = close :: rest := by
  rw [skipBlanks_append space, skipBlanks_close closing]

theorem skipBlanks_colon (rest : List Char) : skipBlanks (':' :: rest) = ':' :: rest := rfl

/-! ### Lists -/

section Parts

variable {line last : List Char} {texts : List (List Char)}

section Item

variable {text rest later : List Char} {v : Value} {fuel : Nat} (part : Reads text v)
  (enough : 2 * text.length + 1 ≤ fuel) (ends : Ends rest) (before : List Value)
include part enough ends

theorem items_last (follows : skipBlanks rest = ']' :: later) :
    items (fuel + 1) before (text ++ rest) = .ok (.list (v :: before).reverse, later) := by
  rw [items, part.value ends enough]
  simp only [follows]

theorem items_next (follows : skipBlanks rest = ',' :: later) :
    items (fuel + 1) before (text ++ rest) = items fuel (v :: before) (skipBlanks later) := by
  rw [items, part.value ends enough]
  simp only [follows]

end Item

/-- Items on lines of their own are read one after the other. -/
theorem items_joined {values : List Value} (lineSpace : Space line) (lastSpace : Space last)
    (parts : List.Forall₂ Reads texts values) (some : texts ≠ []) (rest : List Char)
    (before : List Value) {fuel : Nat} (enough : 2 * (joined line texts).length + 2 ≤ fuel) :
    items fuel before (joined line texts ++ (last ++ ']' :: rest)) =
      .ok (.list (before.reverse ++ values), rest) := by
  induction parts generalizing before fuel with
  | nil => exact absurd rfl some
  | @cons text v texts values part parts ih =>
    obtain ⟨fuel, rfl⟩ := Nat.exists_eq_add_one.2 (Nat.zero_lt_of_lt enough)
    cases parts with
    | nil =>
      rw [joined] at enough ⊢
      rw [items_last part (by omega) (ends_space lastSpace (.inl rfl) rest) before
        (skipBlanks_space_close lastSpace (.inl rfl) rest), List.reverse_cons]
    | @cons next w texts values second parts =>
      -- The step that the item takes is paid for by its first character.
      have first := length_pos_of_starts part.starts
      have starts := starts_joined line second.starts texts
      rw [joined, List.length_append, List.length_cons, List.length_append] at enough
      rw [joined, List.append_assoc, List.cons_append, List.append_assoc,
        items_next part (by omega) (ends_cons (by decide)) before (skipBlanks_comma _),
        skipBlanks_append lineSpace, skipBlanks_of_starts starts,
        ih (List.cons_ne_nil _ _) (v :: before) (by omega), List.reverse_cons, List.append_assoc]
      rfl

/-- A list with items on lines of their own is read. -/
theorem value_list {values : List Value} (lineSpace : Space line) (lastSpace : Space last)
    (parts : List.Forall₂ Reads texts values) (some : texts ≠ []) (rest : List Char) {fuel : Nat}
    (enough : 2 * (joined line texts).length + 3 ≤ fuel) :
    value fuel ('[' :: (line ++ (joined line texts ++ (last ++ ']' :: rest)))) =
      .ok (.list values, rest) := by
  obtain ⟨fuel, rfl⟩ := Nat.exists_eq_add_one.2 (Nat.zero_lt_of_lt enough)
  have starts : Starts (joined line texts) := by
    cases parts with
    | nil => exact absurd rfl some
    | cons part _ => exact starts_joined line part.starts _
  rw [value]
  simp only [skipBlanks_append lineSpace, skipBlanks_of_starts starts]
  split
  · rename_i later same
    obtain ⟨c, _, is, -, -, open', -⟩ := starts
    rw [is] at same
    exact absurd (List.head_eq_of_cons_eq same) open'
  · exact items_joined lineSpace lastSpace parts some rest [] (by omega)

/-! ### Tables -/

/-- How an entry is written: its name and then its value. -/
def entryText (field : String × List Char) : List Char :=
  (quoted field.1).toList ++ ':' :: ' ' :: field.2

theorem entryText_append (field : String × List Char) (rest : List Char) :
    entryText field ++ rest =
      '"' :: (field.1.toList.flatMap escape ++ '"' :: ':' :: ' ' :: (field.2 ++ rest)) := by
  simp [entryText, quoted]

theorem starts_entryText (field : String × List Char) : Starts (entryText field) :=
  ⟨'"', _, by rw [← List.append_nil (entryText field), entryText_append], by decide⟩

theorem length_entryText (field : String × List Char) :
    field.2.length < (entryText field).length := by
  rw [entryText, List.length_append, List.length_cons, List.length_cons]
  omega

section Entry

variable {text rest later : List Char} {v : Value} {fuel : Nat} (part : Reads text v)
  (enough : 2 * text.length + 1 ≤ fuel) (ends : Ends rest) (key : String)
  (before : List (Scalar × Value))
include part enough ends

theorem members_last (follows : skipBlanks rest = '\x7d' :: later) :
    members (fuel + 1) before (entryText (key, text) ++ rest) =
      .ok (.ofEntries ((.text key, v) :: before).reverse, later) := by
  rw [entryText_append, members]
  simp only [string_quoted, skipBlanks_colon, skipBlanks_space part.starts, part.value ends enough,
    follows]

theorem members_next (follows : skipBlanks rest = ',' :: later) :
    members (fuel + 1) before (entryText (key, text) ++ rest) =
      members fuel ((.text key, v) :: before) (skipBlanks later) := by
  rw [entryText_append, members]
  simp only [string_quoted, skipBlanks_colon, skipBlanks_space part.starts, part.value ends enough,
    follows]

end Entry

/-- Entries on lines of their own are read one after the other. -/
theorem members_joined {fields : List (String × List Char)} {entries : List (String × Value)}
    (lineSpace : Space line) (lastSpace : Space last)
    (parts : List.Forall₂ (fun field entry => field.1 = entry.1 ∧ Reads field.2 entry.2) fields
      entries)
    (some : fields ≠ []) (rest : List Char) (before : List (Scalar × Value)) {fuel : Nat}
    (enough : 2 * (joined line (fields.map entryText)).length + 2 ≤ fuel) :
    members fuel before (joined line (fields.map entryText) ++ (last ++ '\x7d' :: rest)) =
      .ok (.ofEntries (before.reverse ++ entries.map fun (k, v) => (.text k, v)), rest) := by
  induction parts generalizing before fuel with
  | nil => exact absurd rfl some
  | @cons field entry fields entries part parts ih =>
    obtain ⟨fuel, rfl⟩ := Nat.exists_eq_add_one.2 (Nat.zero_lt_of_lt enough)
    rcases field with ⟨key, text⟩
    rcases entry with ⟨_, v⟩
    obtain ⟨rfl, part⟩ := part
    have longer := length_entryText (key, text)
    dsimp only at part longer
    cases parts with
    | nil =>
      rw [List.map_cons, List.map_nil, joined] at enough ⊢
      rw [members_last part (by omega) (ends_space lastSpace (.inr rfl) rest) key before
        (skipBlanks_space_close lastSpace (.inr rfl) rest), List.reverse_cons]
      rfl
    | @cons next entry fields entries second parts =>
      have starts := starts_joined line (starts_entryText next) (fields.map entryText)
      rw [List.map_cons, List.map_cons, joined, List.length_append, List.length_cons,
        List.length_append] at enough
      rw [List.map_cons, List.map_cons, joined, List.append_assoc, List.cons_append,
        List.append_assoc,
        members_next part (by omega) (ends_cons (by decide)) key before (skipBlanks_comma _),
        skipBlanks_append lineSpace, skipBlanks_of_starts starts, ← List.map_cons,
        ih (List.cons_ne_nil _ _) ((.text key, v) :: before) (by rw [List.map_cons]; omega),
        List.reverse_cons, List.append_assoc]
      rfl

/-- A table with entries on lines of their own is read. -/
theorem value_table {fields : List (String × List Char)} {entries : List (String × Value)}
    (lineSpace : Space line) (lastSpace : Space last)
    (parts : List.Forall₂ (fun field entry => field.1 = entry.1 ∧ Reads field.2 entry.2) fields
      entries)
    (some : fields ≠ []) (rest : List Char) {fuel : Nat}
    (enough : 2 * (joined line (fields.map entryText)).length + 3 ≤ fuel) :
    value fuel
        ('\x7b' :: (line ++ (joined line (fields.map entryText) ++ (last ++ '\x7d' :: rest)))) =
      .ok (.ofFields entries, rest) := by
  obtain ⟨fuel, rfl⟩ := Nat.exists_eq_add_one.2 (Nat.zero_lt_of_lt enough)
  have starts : Starts (joined line (fields.map entryText)) := by
    cases fields with
    | nil => exact absurd rfl some
    | cons field _ => exact starts_joined line (starts_entryText field) _
  rw [value]
  simp only [skipBlanks_append lineSpace, skipBlanks_of_starts starts]
  split
  · rename_i later same
    obtain ⟨c, _, is, -, -, -, open'⟩ := starts
    rw [is] at same
    exact absurd (List.head_eq_of_cons_eq same) open'
  · exact members_joined lineSpace lastSpace parts some rest [] (by omega)

end Parts

/-! ## Written values -/

/-- A value made of texts, words, integers, lists and tables. No integer has more digits than can be
read, and the names of a table are texts and distinct. -/
inductive Plain : Value → Prop where
  | null : Plain .null
  | bool (b : Bool) : Plain (.bool b)
  | int {i : Int} (few : i.natAbs < 10 ^ digitLimit) : Plain (.int i)
  | text (s : String) : Plain (.text s)
  | list {items : List Value} (parts : ∀ v ∈ items, Plain v) : Plain (.list items)
  | table {fields : List (String × Value)} (names : (fields.map Prod.fst).Nodup)
      (parts : ∀ field ∈ fields, Plain field.2) :
      Plain (.table (fields.map fun (k, v) => (.text k, v)))

theorem indentedItems_eq (level : Nat) (items : List Value) :
    indentedItems level items = items.map (indented level) := by
  induction items with
  | nil => rfl
  | cons v rest ih => rw [indentedItems, ih, List.map_cons]

theorem indentedEntries_eq (level : Nat) (fields : List (String × Value)) :
    indentedEntries level (fields.map fun (k, v) => (.text k, v)) =
      fields.map fun (k, v) => quoted k ++ ": " ++ indented level v := by
  induction fields with
  | nil => rfl
  | cons field rest ih => rw [List.map_cons, indentedEntries, ih, List.map_cons, name]

theorem space_newLine (level : Nat) : Space (newLine level).toList := by
  intro c inside
  rw [newLine, String.toList_ofList, List.mem_cons] at inside
  rcases inside with rfl | blank
  · exact .inr rfl
  · exact .inl (List.eq_of_mem_replicate blank)

theorem joined_eq (line : List Char) (texts : List (List Char)) :
    joined line texts = (',' :: line).intercalate texts := by
  induction texts with
  | nil => rfl
  | cons text rest ih =>
    cases rest with
    | nil => simp [joined]
    | cons next rest =>
      rw [joined, ih, List.intercalate_cons_cons, List.append_assoc, List.cons_append]

theorem toList_block (level : Nat) (opening : String) {parts : List String} (some : parts ≠ [])
    (closing : String) :
    (block level opening parts closing).toList = opening.toList ++ (newLine (level + 1)).toList ++
      (joined (newLine (level + 1)).toList (parts.map String.toList) ++
        ((newLine level).toList ++ closing.toList)) := by
  rw [block, if_neg (by simpa using some)]
  simp [joined_eq, String.toList_intercalate]

/-- The characters that a word or a number cannot start with. -/
def marks : List Char :=
  [' ', '\t', '\n', '\r', '\ufeff', '"', '[', ']', '\x7b', '\x7d']

theorem reads_of_wordOrNumber {text later : List Char} {v : Value} (is : text = c :: later)
    (bare : c ∉ marks)
    (read : ∀ rest, Ends rest → wordOrNumber (text ++ rest) = .ok (v, rest)) : Reads text v := by
  subst is
  simp only [marks, List.mem_cons, List.not_mem_nil, or_false, not_or] at bare
  obtain ⟨space, tab, line, feed, order, quote, opening, closing, brace, unbrace⟩ := bare
  constructor
  · exact ⟨c, later, rfl, by simp [isBlank, space, tab, line, feed], order, closing, unbrace⟩
  · intro fuel rest ends enough
    exact value_word (read rest ends) (by simp [quote]) (by simp [opening]) (by simp [brace])
      (by omega)

theorem reads_int {i : Int} (few : i.natAbs < 10 ^ digitLimit) :
    Reads (scalar (.int i)).toList (.int i) := by
  have start : ∃ c later, (scalar (.int i)).toList = c :: later ∧ c ∉ marks := by
    cases i with
    | ofNat n =>
      obtain ⟨d, later, is, digit⟩ := exists_digit_cons n
      have apart : ∀ mark ∈ marks, isAsciiDigit mark = false := by simp [marks, isAsciiDigit]
      refine ⟨d, later, by rw [toList_ofNat, is], fun inside => ?_⟩
      rw [apart d inside] at digit
      cases digit
    | negSucc n => exact ⟨'-', _, toList_negSucc n, by decide⟩
  obtain ⟨c, later, is, bare⟩ := start
  exact reads_of_wordOrNumber is bare fun rest ends => wordOrNumber_int few ends

theorem reads_text (s : String) : Reads (quoted s).toList (.text s) := by
  have written : ∀ rest, (quoted s).toList ++ rest =
      '"' :: (s.toList.flatMap escape ++ '"' :: rest) := by
    intro rest
    simp [quoted]
  constructor
  · exact ⟨'"', _, by rw [← List.append_nil (quoted s).toList, written], by decide⟩
  · intro fuel rest ends enough
    obtain ⟨fuel, rfl⟩ := Nat.exists_eq_add_one.2 (Nat.zero_lt_of_lt enough)
    rw [written, value]
    simp only [string_quoted]

/-- Nothing stands between the brackets of a list or a table without parts. -/
theorem toList_block_nil (level : Nat) (opening closing : String) :
    (block level opening [] closing).toList = opening.toList ++ closing.toList := by
  simp [block]

theorem reads_list {items : List Value} (level : Nat)
    (parts : ∀ v ∈ items, Reads (indented (level + 1) v).toList v) :
    Reads (indented level (.list items)).toList (.list items) := by
  rw [indented, indentedItems_eq]
  cases items with
  | nil =>
    rw [List.map_nil, toList_block_nil]
    refine ⟨⟨'[', _, rfl, by decide⟩, fun {fuel rest} _ enough => ?_⟩
    obtain ⟨fuel, rfl⟩ := Nat.exists_eq_add_one.2 (Nat.zero_lt_of_lt enough)
    rfl
  | cons v items =>
    have read : List.Forall₂ Reads (((v :: items).map (indented (level + 1))).map String.toList)
        (v :: items) := by
      rw [List.map_map, List.forall₂_map_left_iff, List.forall₂_same]
      exact parts
    rw [toList_block level "[" (by simp)]
    refine ⟨⟨'[', _, rfl, by decide⟩, fun {fuel rest} _ enough => ?_⟩
    simp only [List.length_append] at enough
    rw [List.append_assoc, List.append_assoc, List.append_assoc, List.append_assoc]
    refine value_list (space_newLine (level + 1)) (space_newLine level) read (List.cons_ne_nil _ _)
      rest ?_
    have opening : "[".toList.length = 1 := rfl
    have closing : "]".toList.length = 1 := rfl
    omega

theorem reads_table {fields : List (String × Value)} (names : (fields.map Prod.fst).Nodup)
    (level : Nat) (parts : ∀ field ∈ fields, Reads (indented (level + 1) field.2).toList field.2) :
    Reads (indented level (.table (fields.map fun (k, v) => (.text k, v)))).toList
      (.table (fields.map fun (k, v) => (.text k, v))) := by
  rw [indented, indentedEntries_eq, ← Value.ofFields_of_nodup names]
  cases fields with
  | nil =>
    rw [List.map_nil, toList_block_nil]
    refine ⟨⟨'\x7b', _, rfl, by decide⟩, fun {fuel rest} _ enough => ?_⟩
    obtain ⟨fuel, rfl⟩ := Nat.exists_eq_add_one.2 (Nat.zero_lt_of_lt enough)
    rfl
  | cons first fields =>
    -- The entries as they are written, with their names apart.
    let texts := (first :: fields).map fun (k, v) => (k, (indented (level + 1) v).toList)
    have read : List.Forall₂ (fun field entry => field.1 = entry.1 ∧ Reads field.2 entry.2) texts
        (first :: fields) := by
      rw [List.forall₂_map_left_iff, List.forall₂_same]
      exact fun field inside => ⟨rfl, parts field inside⟩
    have written : ((first :: fields).map fun (k, v) =>
        quoted k ++ ": " ++ indented (level + 1) v).map String.toList = texts.map entryText := by
      simp [texts, entryText]
    rw [toList_block level "\x7b" (by simp), written]
    refine ⟨⟨'\x7b', _, rfl, by decide⟩, fun {fuel rest} _ enough => ?_⟩
    simp only [List.length_append] at enough
    rw [List.append_assoc, List.append_assoc, List.append_assoc, List.append_assoc]
    refine value_table (space_newLine (level + 1)) (space_newLine level) read (List.cons_ne_nil _ _)
      rest ?_
    have opening : "\x7b".toList.length = 1 := rfl
    have closing : "\x7d".toList.length = 1 := rfl
    omega

theorem reads_indented {v : Value} (plain : Plain v) (level : Nat) :
    Reads (indented level v).toList v := by
  induction plain generalizing level with
  | null =>
    have word : Reads "null".toList .null :=
      reads_of_wordOrNumber rfl (by decide) fun rest _ => rfl
    rwa [indented]
  | bool b =>
    cases b with
    | false =>
      have word : Reads "false".toList (.bool false) :=
        reads_of_wordOrNumber rfl (by decide) fun rest _ => rfl
      rwa [indented]
    | true =>
      have word : Reads "true".toList (.bool true) :=
        reads_of_wordOrNumber rfl (by decide) fun rest _ => rfl
      rwa [indented]
  | int few =>
    rw [indented]
    exact reads_int few
  | text s =>
    rw [indented]
    exact reads_text s
  | list parts ih => exact reads_list level fun v inside => ih v inside (level + 1)
  | table names parts ih =>
    exact reads_table names level fun field inside => ih field inside (level + 1)

/-- Reading a text that was written gives the value that it was written from, also if blanks
follow. -/
theorem parse_indented {v : Value} (plain : Plain v) (level : Nat) {blanks : List Char}
    (space : Space blanks) : parse ((indented level v).toList ++ blanks) = .ok v := by
  have reads := reads_indented plain level
  have ends : Ends blanks := by
    cases blanks with
    | nil => exact ends_nil
    | cons c later => rcases space c (by simp) with rfl | rfl <;> exact ends_cons (by decide)
  have rest : skipBlanks blanks = [] := by
    have skipped := skipBlanks_append space []
    rwa [List.append_nil] at skipped
  have mark : ((indented level v).toList ++ blanks).head? ≠ some '\ufeff' := by
    obtain ⟨c, later, is, -, order, -⟩ := reads.starts
    simp [is, order]
  unfold parse
  dsimp only
  rw [if_neg mark, skipBlanks_of_starts reads.starts, reads.value ends (by
    rw [List.length_append]; omega)]
  simp only [rest]

end Json

end AccountAudit
