import AccountAudit.Expr.Printer
import AccountAudit.Proofs.Expr.Accounting
import AccountAudit.Proofs.Expr.Excess
import AccountAudit.Proofs.Text.Name
import AccountAudit.Proofs.Value.Literal

/-!
# Names are conserved

An expression that is printed names what the text that it was read from names, in the same order
(`render_conserves_names`). Reading drops the word of a mutable borrow, and truth values are printed with a
capital; these words are left out on both sides (`lostWords`).

Two things meet here. Taking a text apart leaves its parts in their order with gaps between them, and
gaps hold no names (`Laid.keptNames`). The printer puts its own signs between the texts of the parts, and
those hold no names either (`keptNames_assemble`).
-/

namespace AccountAudit
namespace Expr

/-! ## Names that are kept -/

/-- The word of a mutable borrow, and the truth values as they are written and as they are printed. -/
def lostWords : List (List Char) :=
  ["mut", "true", "false", "True", "False"].map String.toList

/-- The names of a text but for the words that reading does not keep. -/
def keptNames (cs : List Char) : List (List Char) :=
  (Text.names cs).filter (!lostWords.contains ·)

@[simp]
theorem keptNames_nil : keptNames [] = [] :=
  rfl

theorem keptNames_append_cons {c : Char} (separates : Text.isWord c = false) (cs ds : List Char) :
    keptNames (cs ++ c :: ds) = keptNames cs ++ keptNames ds := by
  rw [keptNames, Text.names_append_cons separates, List.filter_append, keptNames, keptNames]

theorem keptNames_cons {c : Char} (separates : Text.isWord c = false) (cs : List Char) :
    keptNames (c :: cs) = keptNames cs :=
  keptNames_append_cons separates [] cs

/-- Names do not reach over the end of a piece. -/
theorem keptNames_append {cs ds : List Char} (apart : Breaks ds) :
    keptNames (cs ++ ds) = keptNames cs ++ keptNames ds := by
  rcases apart with rfl | ⟨c, rest, rfl, mark⟩ | ⟨rest, rfl⟩
  · simp
  · have separates := isWord_of_isMark mark
    rw [keptNames_append_cons separates, keptNames_cons separates]
  · have separates : Text.isWord '.' = false := by decide
    simp only [keptNames_append_cons separates, keptNames_cons separates]

/-- No names are kept of a gap, and none starts in one. -/
theorem Gap.keptNames_append {lead : List Char} (gap : Gap lead) (cs : List Char) :
    keptNames (lead ++ cs) = keptNames cs := by
  induction gap with
  | nil => rfl
  | mark mark _ ih =>
    rw [List.cons_append, keptNames_cons (isWord_of_isMark mark)]
    exact ih
  | range _ ih =>
    have separates : Text.isWord '.' = false := by decide
    rw [List.cons_append, List.cons_append, keptNames_cons separates, keptNames_cons separates]
    exact ih
  | @borrow lead _ ih =>
    have word : keptNames ['&', 'm', 'u', 't'] = [] := by decide
    have whole : mutSign ++ lead ++ cs = ['&', 'm', 'u', 't'] ++ ' ' :: (lead ++ cs) := by
      simp [mutSign]
    rw [whole, keptNames_append_cons (by decide), word]
    exact ih

/-- The names of a text are those of the pieces that lie in it. -/
theorem Laid.keptNames {pieces : List (List Char)} {cs : List Char} (h : Laid pieces cs) :
    Expr.keptNames cs = pieces.flatMap Expr.keptNames := by
  induction h with
  | @gap cs gap =>
    have none := gap.keptNames_append []
    rwa [List.append_nil] at none
  | piece front apart _ ih =>
    rw [front.keptNames_append, Expr.keptNames_append apart, ih, List.flatMap_cons]

theorem keptNames_of_laid_single {cs ds : List Char} (h : Laid [cs] ds) :
    keptNames ds = keptNames cs := by
  simpa using h.keptNames

/-! ## Names of constructs -/

/-- The names that a construct has in itself and in the texts of its parts, as far as they are printed:
of an index that is the text between its brackets. -/
def Shape.keptNames : Shape → List (List Char)
  | .unknown => []
  | .literal value => Expr.keptNames value.plain.toList
  | .path text => Expr.keptNames text
  | .binary left _ right => Expr.keptNames left ++ Expr.keptNames right
  | .negation operand => Expr.keptNames operand
  | .call func args => Expr.keptNames func ++ args.flatMap Expr.keptNames
  | .array items => items.flatMap Expr.keptNames
  | .index base _ inner => Expr.keptNames base ++ Expr.keptNames inner

theorem keptNames_bracketShape {cs : List Char} (known : bracketShape cs ≠ .unknown) :
    (bracketShape cs).keptNames = keptNames cs := by
  unfold bracketShape at known ⊢
  split
  · rename_i none
    simp [none] at known
  · rename_i opener
    exact (laid_array opener).keptNames.symm
  · rename_i place _ opener
    obtain ⟨whole, -⟩ := eq_of_openerOfLast? opener
    have base := take_dropLast_of_openerOfLast? opener
    have inner := keptNames_of_laid_single (laid_trim (cs.drop (place + 1)).dropLast)
    have last : keptNames ((cs.drop (place + 1)).dropLast ++ [']']) =
        keptNames (cs.drop (place + 1)).dropLast := by
      rw [keptNames_append_cons (by decide), keptNames_nil, List.append_nil]
    calc keptNames (cs.dropLast.take place) ++ keptNames (Text.trim (cs.drop (place + 1)).dropLast)
      _ = keptNames (cs.take place) ++ keptNames ((cs.drop (place + 1)).dropLast ++ [']']) := by
        rw [base, last, inner]
      _ = keptNames (cs.take place ++ '[' :: ((cs.drop (place + 1)).dropLast ++ [']'])) :=
        (keptNames_append_cons (by decide) ..).symm
      _ = keptNames cs := by rw [← whole]

theorem keptNames_call {cs func brackets : List Char} (parts : callParts? cs = some (func, brackets))
    (closes : closesAtEnd brackets = true) :
    (Shape.call func (splitArgs (inside brackets))).keptNames = keptNames cs := by
  have whole := (eq_of_callParts? parts closes).1
  rw [whole, keptNames_append (breaks_of_mark rfl), (laid_arguments _).keptNames]
  rfl

theorem keptNames_closedShape {cs : List Char} (known : closedShape cs ≠ .unknown) :
    (closedShape cs).keptNames = keptNames cs := by
  unfold closedShape at known ⊢
  split
  · rw [keptNames_cons (by decide)]
    rfl
  · rename_i negates
    split
    · rename_i func brackets parts
      split
      · rename_i closes
        exact keptNames_call parts closes
      · rename_i open'
        exact keptNames_bracketShape (by simpa [parts, open'] using known)
    · rename_i parts
      exact keptNames_bracketShape (by simpa [parts] using known)

theorem keptNames_openShape {cs : List Char} (known : openShape cs ≠ .unknown) :
    (openShape cs).keptNames = keptNames cs := by
  unfold openShape at known ⊢
  split_ifs at known ⊢
  · simp [Shape.keptNames, Value.plain]
  · rfl
  · split
    · rename_i s found
      simpa [Shape.keptNames] using (laid_operands found).1.keptNames.symm
    · rename_i unsplit
      exact keptNames_closedShape (by simpa [unsplit] using known)

/-! ## Names of atoms -/

theorem keptNames_of_digit {c : Char} {cs : List Char} (digit : Text.isDigit c = true)
    (words : ∀ d ∈ c :: cs, Text.isWord d = true) : keptNames (c :: cs) = [] := by
  rw [keptNames, Text.names_of_digit digit words]
  rfl

/-- No names are kept of the text of an integer. -/
theorem keptNames_integer {cs : List Char} {t : IntegerText} (h : integerText? cs = some t) :
    keptNames cs = [] := by
  obtain ⟨sign, body, rfl, signed, some, named⟩ := isNamed_of_integerText? h
  obtain ⟨c, rest, rfl⟩ := List.exists_cons_of_ne_nil some
  have other : c ≠ '-' := ne_of_holds (named c List.mem_cons_self) (by decide)
  have words : ∀ d ∈ c :: rest, Text.isWord d = true := fun d inside =>
    (Bool.or_eq_true_iff.1 (named d inside)).elim id Text.isWord_of_isDigit
  have body := keptNames_of_digit (isDigit_of_integerText? signed h other) words
  rcases signed with rfl | rfl
  · exact body
  · rw [List.cons_append, keptNames_cons (by decide)]
    exact body

/-- Nor of an integer that is printed. -/
theorem keptNames_int (i : Int) : keptNames (Value.int i).plain.toList = [] := by
  have digits : ∀ n, keptNames (Nat.toDigits 10 n) = [] := by
    intro n
    have digit : ∀ d ∈ Nat.toDigits 10 n, Text.isDigit d = true := fun d inside =>
      Text.isDigit_of_isDigit (Nat.isDigit_of_mem_toDigits (by decide) (by decide) inside)
    obtain ⟨d, later, written⟩ := List.exists_cons_of_ne_nil (Nat.toDigits_ne_nil (n := n) (b := 10))
    rw [written] at digit ⊢
    exact keptNames_of_digit (digit d List.mem_cons_self) fun e inside =>
      Text.isWord_of_isDigit (digit e inside)
  cases i with
  | ofNat n =>
    have written : (Value.int (.ofNat n)).plain.toList = Nat.toDigits 10 n := Json.toList_ofNat n
    rw [written, digits]
  | negSucc n =>
    have written : (Value.int (.negSucc n)).plain.toList = '-' :: Nat.toDigits 10 (n + 1) :=
      Json.toList_negSucc n
    rw [written, keptNames_cons (by decide), digits]

theorem keptNames_bool (b : Bool) : keptNames (Value.bool b).plain.toList = [] := by
  cases b <;> decide +kernel

/-- A construct has the names of the text that it is the outermost construct of. -/
theorem keptNames_shapeOf {raw : List Char} {shape : Shape} (apart : shapeOf raw = .ok shape)
    (known : shape ≠ .unknown) : shape.keptNames = keptNames raw := by
  rw [keptNames_of_laid_single (laid_bare raw)]
  unfold shapeOf at apart
  dsimp only at apart
  split_ifs at apart with none isTrue isFalse
  · exact absurd (Except.ok.inj apart).symm known
  · obtain rfl := Except.ok.inj apart
    rw [isTrue]
    exact keptNames_bool true
  · obtain rfl := Except.ok.inj apart
    rw [isFalse]
    exact keptNames_bool false
  · split at apart
    · rename_i t integer
      rcases map_eq_ok_iff.1 apart with ⟨n, -, rfl⟩
      rw [keptNames_integer integer]
      exact keptNames_int n
    · obtain rfl := Except.ok.inj apart
      exact keptNames_openShape known

/-! ## Names that are printed -/

theorem keptNames_intercalate (ss : List String) :
    keptNames (", ".intercalate ss).toList = ss.flatMap fun s => keptNames s.toList := by
  rw [String.toList_intercalate]
  induction ss with
  | nil => rfl
  | cons s rest ih =>
    cases rest with
    | nil => simp
    | cons t more =>
      have joined : [',', ' '].intercalate ((s :: t :: more).map String.toList) =
          s.toList ++ ',' :: ' ' :: [',', ' '].intercalate ((t :: more).map String.toList) := by
        simp [List.intercalate_cons_cons]
      rw [show ", ".toList = [',', ' '] from rfl] at ih ⊢
      rw [joined, keptNames_append_cons (by decide), keptNames_cons (by decide), ih]
      simp only [List.flatMap_cons]

theorem renderAll_eq_map (es : List Expr) : renderAll es = es.map render := by
  induction es with
  | nil => rfl
  | cons e rest ih => rw [renderAll, ih, List.map_cons]

/-- What is printed of a construct has its names, if that holds of its parts. -/
theorem keptNames_assemble {raw : List Char} {shape : Shape} {es : List Expr}
    (known : shape ≠ .unknown)
    (parts : List.Forall₂ (fun part e => keptNames (render e).toList = keptNames part) shape.parts es) :
    keptNames (shape.assemble raw es).render.toList = shape.keptNames := by
  have listed : ∀ {texts : List (List Char)} {es : List Expr},
      List.Forall₂ (fun part e => keptNames (render e).toList = keptNames part) texts es →
      keptNames (", ".intercalate (renderAll es)).toList = texts.flatMap keptNames := by
    intro texts es related
    rw [keptNames_intercalate, renderAll_eq_map, List.flatMap_map]
    induction related with
    | nil => rfl
    | cons same _ ih => rw [List.flatMap_cons, List.flatMap_cons, same, ih]
  match shape, es, parts with
  | .unknown, _, _ => exact absurd rfl known
  | .literal value, [], _ => rfl
  | .path text, [], _ => simp [Shape.assemble, ofPath, render, Shape.keptNames]
  | .binary left op right, [l, r], .cons hl (.cons hr .nil) =>
    -- The operator and the blanks around it are a gap.
    have written : ((Shape.binary left op right).assemble raw [l, r]).render.toList =
        l.render.toList ++ ' ' :: (op.chars ++ ' ' :: r.render.toList) := by
      simp [Shape.assemble, ofBinary, render, renderOption, BinaryOp.symbol]
    rw [written, keptNames_append_cons (by decide), (Gap.op op).keptNames_append,
      keptNames_cons (by decide), hl, hr]
    rfl
  | .negation operand, [e], .cons he .nil =>
    have written : ((Shape.negation operand).assemble raw [e]).render.toList =
        '!' :: e.render.toList := by
      simp [Shape.assemble, ofUnary, render, renderOption]
    rw [written, keptNames_cons (by decide), he]
    rfl
  | .call func args, es, parts =>
    have written : ((Shape.call func args).assemble raw es).render.toList =
        func ++ '(' :: ((", ".intercalate (renderAll es)).toList ++ ')' :: []) := by
      simp [Shape.assemble, ofCall, render]
    rw [written, keptNames_append_cons (by decide), keptNames_append_cons (by decide), listed parts]
    simp [Shape.keptNames, Shape.parts]
  | .array items, es, parts =>
    have written : ((Shape.array items).assemble raw es).render.toList =
        '[' :: ((", ".intercalate (renderAll es)).toList ++ ']' :: []) := by
      simp [Shape.assemble, ofArray, render]
    rw [written, keptNames_cons (by decide), keptNames_append_cons (by decide), listed parts]
    simp [Shape.keptNames, Shape.parts]
  | .index base bounds inner, b :: es, .cons hb _ =>
    have written : ((Shape.index base bounds inner).assemble raw (b :: es)).render.toList =
        b.render.toList ++ '[' :: (inner ++ ']' :: []) := by
      simp [Shape.assemble, ofIndex, render, renderOption]
    rw [written, keptNames_append_cons (by decide), keptNames_append_cons (by decide), hb]
    simp [Shape.keptNames]

/-! ## Expressions that can be printed -/

theorem digitsValue_lt (cs : List Char) : Text.digitsValue cs < 10 ^ cs.length := by
  have digit : ∀ c, Text.digitValue c < 10 := by
    intro c
    unfold Text.digitValue
    split <;> omega
  -- From the right: each further digit is worth less than one of those in front of it.
  induction cs using List.reverseRecOn with
  | nil => decide
  | append_singleton front c ih =>
    have last := digit c
    have step : Text.digitsValue (front ++ [c]) = 10 * Text.digitsValue front + Text.digitValue c := by
      simp [Text.digitsValue]
    rw [step, List.length_append, List.length_singleton, Nat.pow_succ]
    omega

/-- An integer that is read has no more digits than are written. -/
theorem hasFewDigits_of_value {t : IntegerText} {n : Int} (read : t.value = .ok n) :
    hasFewDigits n = true := by
  have few : t.digits.length ≤ digitLimit := exists_value_iff.1 ⟨n, read⟩
  rw [IntegerText.value, readDigits_of_length_le few] at read
  have size : n.natAbs = Text.digitsValue t.digits := by
    rw [← Except.ok.inj read]
    split <;> simp
  -- The limit is kept a variable, since its power is a number of thousands of digits.
  have bound : ∀ limit, t.digits.length ≤ limit → Text.digitsValue t.digits < Nat.pow 10 limit :=
    fun limit short => Nat.lt_of_lt_of_le (digitsValue_lt _) (Nat.pow_le_pow_right (by decide) short)
  rw [hasFewDigits, size, decide_eq_true_eq]
  exact bound digitLimit few

theorem all_shownAll (es : List Expr) : (shownAll es).all Value.isWritable = es.all isWritable := by
  induction es with
  | nil => rfl
  | cons e rest ih => rw [shownAll, List.all_append, ih, List.all_cons, isWritable]

/-- A construct other than an integer is written as it stands if it is a literal. -/
theorem isWritable_of_openShape {cs : List Char} {value : Value}
    (literal : openShape cs = .literal value) : value.isWritable = true := by
  have bracket : bracketShape cs ≠ .literal value := by
    unfold bracketShape
    split <;> simp
  have closed : closedShape cs ≠ .literal value := by
    unfold closedShape
    split
    · simp
    · split
      · split
        · simp
        · exact bracket
      · exact bracket
  unfold openShape at literal
  split_ifs at literal
  · obtain rfl := Shape.literal.inj literal
    rfl
  · split at literal
    · cases literal
    · exact absurd literal closed

theorem isWritable_of_shapeOf {raw : List Char} {value : Value}
    (apart : shapeOf raw = .ok (.literal value)) : value.isWritable = true := by
  unfold shapeOf at apart
  dsimp only at apart
  split_ifs at apart
  · cases apart
  · obtain rfl := Shape.literal.inj (Except.ok.inj apart)
    rfl
  · obtain rfl := Shape.literal.inj (Except.ok.inj apart)
    rfl
  · split at apart
    · rcases map_eq_ok_iff.1 apart with ⟨n, read, literal⟩
      obtain rfl := Shape.literal.inj literal
      simpa [Value.isWritable, Value.scalars] using hasFewDigits_of_value read
    · exact isWritable_of_openShape (Except.ok.inj apart)

theorem isWritable_assemble {raw : List Char} {shape : Shape} {es : List Expr}
    (apart : shapeOf raw = .ok shape) (size : shape.parts.length = es.length)
    (parts : ∀ e ∈ es, e.isWritable = true) : (shape.assemble raw es).isWritable = true := by
  have each : es.all isWritable = true := List.all_eq_true.2 parts
  match shape, es, size with
  | .unknown, [], _ => rfl
  | .literal value, [], _ => simp [Shape.assemble, ofValue, isWritable, shown, isWritable_of_shapeOf apart]
  | .path text, [], _ => rfl
  | .binary left op right, [l, r], _ =>
    simp only [List.all_cons, List.all_nil, Bool.and_true, isWritable] at each
    simpa [Shape.assemble, ofBinary, isWritable, shown, shownOption] using each
  | .negation operand, [e], _ =>
    simp only [List.all_cons, List.all_nil, Bool.and_true, isWritable] at each
    simpa [Shape.assemble, ofUnary, isWritable, shown, shownOption] using each
  | .call func args, es, _ =>
    rwa [← all_shownAll] at each
  | .array items, es, _ =>
    rwa [← all_shownAll] at each
  | .index base bounds inner, b :: es, _ =>
    rw [List.all_cons, Bool.and_eq_true] at each
    exact each.1

/-! ## Reading and printing -/

/-- What is read of a text can be printed, and names what the text names, in the same order. -/
theorem render_conserves_names {text : String} {e : Expr} (parsed : parse text = .ok e) :
    e.isWritable = true ∧ keptNames e.render.toList = keptNames text.toList := by
  rw [parse] at parsed
  generalize text.toList = raw at parsed
  -- By induction on the length: the parts of a construct are shorter.
  induction size : raw.length using Nat.strongRecOn generalizing raw e with
  | ind n ih =>
    rcases parseChars_eq_ok parsed with ⟨shape, es, apart, parts, rfl⟩
    have each : ∀ part ∈ shape.parts, ∀ e, parseChars part = .ok e →
        e.isWritable = true ∧ keptNames e.render.toList = keptNames part := fun part inside e read =>
      ih part.length (size ▸ length_lt_of_mem_parts apart inside) part read rfl
    constructor
    · refine isWritable_assemble apart parts.length_eq fun e inside => ?_
      rcases exists_left_of_forall₂ parts inside with ⟨part, member, read⟩
      exact (each part member e read).1
    · by_cases known : shape = .unknown
      · subst known
        simp [Shape.assemble, ofRaw, render]
      · rw [← keptNames_shapeOf apart known]
        refine keptNames_assemble known (List.forall₂_iff_zip.2 ⟨parts.length_eq, fun {part e} pair => ?_⟩)
        have read := (List.forall₂_iff_zip.1 parts).2 pair
        exact (each part (List.of_mem_zip pair).1 e read).2

/-- What is read of `&mut (vault.keys[mut..owner]) != f( b"pay to", true, 1_0u8 - rest)`. -/
def guardedTransfer : Expr :=
  ofBinary "!=" (ofIndex (ofPath "vault.keys") [ofPath "mut", ofPath "owner"] "mut..owner")
    (ofCall "f" [ofValue (.text "b\"pay to\""), ofValue (.bool true),
      ofBinary "-" (ofValue (.int 10)) (ofPath "rest")])

theorem render_conserves_names_guardedTransfer :
    parse "&mut (vault.keys[mut..owner]) != f( b\"pay to\", true, 1_0u8 - rest)" =
        .ok guardedTransfer ∧
      guardedTransfer.render = "vault.keys[mut..owner] != f(b\"pay to\", True, 10 - rest)" ∧
      guardedTransfer.isWritable = true ∧
      keptNames guardedTransfer.render.toList =
        keptNames "&mut (vault.keys[mut..owner]) != f( b\"pay to\", true, 1_0u8 - rest)".toList := by
  have read : parse "&mut (vault.keys[mut..owner]) != f( b\"pay to\", true, 1_0u8 - rest)" =
      .ok guardedTransfer := by decide +kernel
  exact ⟨read, by decide +kernel, render_conserves_names read⟩

end Expr
end AccountAudit
