import AccountAudit.Proofs.Expr.Bare

/-!
# Taking chains apart

The outermost construct of a chain, with its parts (`takenApart`). The parts of a construct that a
chain stands for are again texts of chains, and the trees of these make up the tree of the chain.
-/

namespace AccountAudit
namespace Expr

/-! ## Brackets at the end -/

theorem getLast?_of_foldl {depth : Nat} {cs : List Char} (inside : 0 < depth)
    (open' : closesEarly depth cs = false) (closed : cs.foldl roundDepth depth = 0) :
    cs.getLast? = some ')' := by
  induction cs generalizing depth with
  | nil =>
    obtain rfl : depth = 0 := closed
    cases inside
  | cons c rest ih =>
    rw [List.foldl_cons] at closed
    simp only [closesEarly, Bool.or_eq_false_iff] at open'
    cases rest with
    | nil =>
      -- The depth falls to zero at the last character, so it is a closing bracket.
      have last : c = ')' := by
        by_contra other
        have grows : depth ≤ roundDepth depth c := by
          unfold roundDepth
          split
          · omega
          · simp
        have none : roundDepth depth c = 0 := closed
        omega
      rw [last]
      rfl
    | cons d more =>
      have deeper : 0 < roundDepth depth c := by
        rw [Nat.pos_iff_ne_zero]
        simpa using open'.1
      rw [List.getLast?_cons_cons]
      exact ih deeper open'.2 closed

/-- What does not end with a round bracket is no pair of round brackets. -/
theorem closesAtEnd_eq_false {cs : List Char} (last : cs.getLast? ≠ some ')') :
    closesAtEnd cs = false := by
  cases h : closesAtEnd cs with
  | false => rfl
  | true =>
    simp only [closesAtEnd, Bool.and_eq_true, Bool.not_eq_true', beq_iff_eq] at h
    rcases h with ⟨⟨head, open'⟩, closed⟩
    obtain ⟨rest, rfl⟩ : ∃ rest, cs = '(' :: rest := by
      cases cs with
      | nil => cases head
      | cons c rest => exact ⟨rest, by simpa using head⟩
    cases rest with
    | nil => cases closed
    | cons d more =>
      have later : (d :: more).getLast? = some ')' := by
        apply getLast?_of_foldl Nat.one_pos
        · simpa [closesEarly, roundDepth] using open'
        · simpa [roundDepth] using closed
      exact absurd (by simpa [List.getLast?_cons_cons] using later) last

/-- The text of a pair of round brackets starts and ends with them. -/
theorem ends_of_closesAtEnd {cs : List Char} (closes : closesAtEnd cs = true) :
    cs.head? = some '(' ∧ cs.getLast? = some ')' := by
  constructor
  · simp only [closesAtEnd, Bool.and_eq_true, beq_iff_eq] at closes
    exact closes.1.1
  · by_contra other
    rw [closesAtEnd_eq_false other] at closes
    cases closes

theorem closesAtEnd_of_nested {inner : List Char} (nested : Nested (fun _ => true) inner) :
    closesAtEnd ('(' :: inner ++ [')']) = true := by
  have closed : ('(' :: inner ++ [')']).foldl roundDepth 0 = 0 := by
    rw [List.cons_append, List.foldl_cons, List.foldl_append, foldl_roundDepth_nested nested]
    rfl
  rw [closesAtEnd, closesEarly_of_nested nested, closed]
  rfl

theorem openerOfLast?_of_nested {p q : Char → Bool} {front inner : List Char}
    (before : Nested p front) (nested : Nested q inner) :
    openerOfLast? (front ++ '[' :: inner ++ [']']) = some front.length := by
  have opens : ∀ index, openerOfLastFrom [] false ' ' index ('[' :: (inner ++ [']'])) =
      openerOfLastFrom [(']', index)] false ' ' (index + 1) (inner ++ [']']) := by
    intro index
    have quote : ('[' == '"') = false := rfl
    have closes : closerOf? '[' = some ']' := rfl
    simp only [openerOfLastFrom, quotedAfter, quote, closes]
    exact openerOfLastFrom_previous ..
  have nests : ∀ entry ∈ [(']', front.length)], isPlain entry.1 = false := by simp [isPlain]
  rw [openerOfLast?, List.append_assoc, List.cons_append,
    openerOfLastFrom_nested before (by simp) ' ' 0 (by simp), Nat.zero_add, opens,
    openerOfLastFrom_nested nested nests ' ' _ (by simp)]
  simp [openerOfLastFrom, closerOf?]

/-! ## Commas and ranges -/

theorem splitArgs_gap {gap : List Char} (blank : isGap gap = true) : splitArgs gap = [] := by
  have passed : splitArgsFrom 0 false ' ' [] (gap ++ []) =
      splitArgsFrom 0 false ' ' (gap.reverse ++ []) [] :=
    splitArgsFrom_nested (nested_gap blank) (by omega)
      (fun _ c quiet => ne_of_holds quiet (by decide)) ' ' [] []
  rw [List.append_nil] at passed
  rw [splitArgs, passed]
  simpa [splitArgsFrom, isGap] using blank

theorem ChainText.visible {text : List Char} (h : ChainText text) :
    text.all Text.isBlank = false := by
  rcases h.some with ⟨d, inside, visible⟩
  rw [List.all_eq_false]
  exact ⟨d, inside, by simp [visible]⟩

/-- The pieces of chains with commas between them are the chains. -/
theorem splitArgs_listed {cs : List Chain} (some : cs ≠ []) (scanned : ∀ c ∈ cs, c.IsScanned) :
    splitArgs (Chain.listed cs) = cs.map Chain.text := by
  have texts : ∀ text ∈ cs.map Chain.text, ChainText text := by
    intro text member
    rcases List.mem_map.1 member with ⟨c, inside, rfl⟩
    exact chainText (scanned c inside)
  have inline : ∀ c, isInline c = true → c ≠ ',' := fun _ inline => ne_of_holds inline (by decide)
  apply splitArgs_intercalate inline
  · simpa using some
  · exact fun text member => (texts text member).nested
  · exact fun text member => (texts text member).visible

/-- Text without `..` has one piece. -/
theorem splitOnFrom_of_undotted {cs : List Char} (h : Undotted cs) (piece : List Char) :
    Text.splitOnFrom ['.', '.'] 0 piece cs = [piece.reverse ++ cs] := by
  induction cs generalizing piece with
  | nil => simp [Text.splitOnFrom]
  | cons c rest ih =>
    have other : ['.', '.'].isPrefixOf (c :: rest) = false := by
      cases rest with
      | nil => simp [List.isPrefixOf]
      | cons d more =>
        have apart : c ≠ '.' ∨ d ≠ '.' := (List.isChain_cons_cons.1 h).1
        rcases apart with first | second
        · simp [List.isPrefixOf, Ne.symm first]
        · simp [List.isPrefixOf, Ne.symm second]
    rw [Text.splitOnFrom, if_neg (by simp [other]), ih h.tail]
    simp

/-- The bound of an index that is a chain is this chain. -/
theorem boundsOf_of_chainText {cs : List Char} (chain : ChainText cs) : boundsOf cs = [cs] := by
  rw [boundsOf, Text.splitOn, splitOnFrom_of_undotted chain.unranged.undotted]
  simp [chain.visible]

/-! ## Constructs of one operand -/

theorem closedShape_negation {operand : List Char} (some : operand ≠ []) :
    closedShape ('!' :: operand) = .negation operand := by
  rcases List.exists_cons_of_ne_nil some with ⟨c, rest, rfl⟩
  rfl

theorem closedShape_of_head {c : Char} {rest : List Char} (other : c ≠ '!') :
    closedShape (c :: rest) =
      match callParts? (c :: rest) with
      | some (func, brackets) =>
        if closesAtEnd brackets then .call func (splitArgs (inside brackets))
        else bracketShape (c :: rest)
      | none => bracketShape (c :: rest) := by
  unfold closedShape
  split
  · rename_i same
    exact absurd (List.cons.inj same).1 other
  · rfl

/-- A text that a function can be called by. -/
structure IsFunctionName (name : List Char) : Prop where
  head : ∃ c rest, name = c :: rest ∧ Text.startsWord c = true
  parts : ∀ c ∈ name, isNamePart c = true

theorem isFunctionName_of_isPath {name : List Char} (isName : isPath name = true)
    (bare : '(' ∉ name) : IsFunctionName name where
  head := exists_head_of_isPath isName
  parts := by
    intro c member
    rcases (pathRest isName).named bare c member with word | rfl | rfl
    · simp [isNamePart, word]
    · rfl
    · rfl

/-- A called function's name is read up to its bracket. -/
theorem callParts?_written {name : List Char} (isName : IsFunctionName name) (rest : List Char) :
    callParts? (name ++ '(' :: rest) = some (name, '(' :: rest) := by
  have stop : isNamePart '(' = false := by decide
  have parts := isName.parts
  rcases isName.head with ⟨c, more, rfl, starts⟩
  have first : (c :: more ++ '(' :: rest).head?.any Text.startsWord = true := by simp [starts]
  rw [callParts?, if_pos first, List.takeWhile_append_of_pos parts,
    List.dropWhile_append_of_pos parts]
  simp [stop]

theorem closedShape_call {name inner : List Char} (isName : IsFunctionName name)
    (nested : Nested (fun _ => true) inner) :
    closedShape (name ++ '(' :: inner ++ [')']) = .call name (splitArgs inner) := by
  have parts := callParts?_written isName (inner ++ [')'])
  rcases isName.head with ⟨c, more, rfl, starts⟩
  have other : c ≠ '!' := ne_of_holds starts (by decide)
  have shape : c :: more ++ '(' :: inner ++ [')'] = c :: (more ++ '(' :: (inner ++ [')'])) := by simp
  rw [List.cons_append] at parts
  rw [shape, closedShape_of_head other, parts]
  have closes := closesAtEnd_of_nested nested
  rw [List.cons_append] at closes
  simp [closes, inside]

/-- A text that ends with a square bracket calls no function. -/
theorem closedShape_bracket {c : Char} {rest : List Char} (other : c ≠ '!')
    (last : (c :: rest).getLast? = some ']') : closedShape (c :: rest) = bracketShape (c :: rest) := by
  rw [closedShape_of_head other]
  cases parts : callParts? (c :: rest) with
  | none => rfl
  | some call =>
    rcases call with ⟨func, brackets⟩
    have whole : func ++ brackets = c :: rest := by
      unfold callParts? at parts
      split at parts
      · rcases Prod.mk.inj (Option.some.inj parts) with ⟨rfl, rfl⟩
        exact List.takeWhile_append_dropWhile
      · cases parts
    -- What follows the name ends with the square bracket, so it is no pair of round brackets.
    have notCall : closesAtEnd brackets = false := by
      apply closesAtEnd_eq_false
      intro round
      have some : brackets ≠ [] := by
        rintro rfl
        cases round
      rw [← whole, List.getLast?_append_of_ne_nil _ some, round] at last
      exact absurd last (by decide)
    simp [notCall]

theorem bracketShape_array {inner : List Char} (nested : Nested (fun _ => true) inner) :
    bracketShape ('[' :: inner ++ [']']) = .array (splitArgs inner) := by
  have opener := openerOfLast?_of_nested (.nil (fun _ => true)) nested
  rw [List.nil_append, List.length_nil] at opener
  have inner' : inside ('[' :: inner ++ [']']) = inner := by simp [inside]
  rw [bracketShape, opener]
  exact congrArg (Shape.array ∘ splitArgs) inner'

theorem bracketShape_of_opener {cs : List Char} {place : Nat}
    (opener : openerOfLast? cs = some (place + 1)) :
    bracketShape cs = .index (cs.dropLast.take (place + 1))
      (boundsOf (Text.trim (cs.drop (place + 1 + 1)).dropLast))
      (Text.trim (cs.drop (place + 1 + 1)).dropLast) := by
  rw [bracketShape, opener]
  rfl

theorem bracketShape_index {front inner : List Char} (some : front ≠ [])
    (before : Nested (fun _ => true) front) (nested : Nested (fun _ => true) inner) :
    bracketShape (front ++ '[' :: inner ++ [']']) =
      .index front (boundsOf (Text.trim inner)) (Text.trim inner) := by
  have opener := openerOfLast?_of_nested before nested
  obtain ⟨place, size⟩ : ∃ place, front.length = place + 1 :=
    ⟨front.length - 1, by have := List.length_pos_iff.2 some; omega⟩
  have behind : ((front ++ '[' :: inner ++ [']']).drop (place + 1 + 1)).dropLast = inner := by
    rw [← size, List.append_assoc, List.drop_append]
    simp
  have ahead : (front ++ '[' :: inner ++ [']']).dropLast.take (place + 1) = front := by
    rw [← size, List.dropLast_concat]
    simp
  rw [size] at opener
  rw [bracketShape_of_opener opener, behind, ahead]

/-! ## Operands -/

/-- The text is taken apart into texts of chains, whose trees make up the tree. -/
def TakenApart (raw : List Char) (tree : Expr) : Prop :=
  ∃ (shape : Shape) (parts : List Chain), shapeOf raw = .ok shape ∧
    shape.parts = parts.map Chain.text ∧ (∀ c ∈ parts, c.IsWritten) ∧
    shape.assemble raw (parts.map Chain.tree) = tree

theorem split?_of_operandText {form : Form} {text : List Char} (h : OperandText form text) :
    split? text = none := by
  rw [split?_eq, List.findSome?_eq_none_iff]
  intro level _
  have passed := h.isSealed level [] [] .nil
  have none : splits level text = [] := by
    rw [List.append_nil] at passed
    rw [splits, passed]
    rfl
  rw [splitOf?, none]
  cases level.groupsLeft <;> rfl

theorem shapeOf_open {raw cs : List Char} (left : bare raw = cs) (some : cs ≠ [])
    (notTrue : cs ≠ ['t', 'r', 'u', 'e']) (notFalse : cs ≠ ['f', 'a', 'l', 's', 'e'])
    (notInteger : integerText? cs = none) : shapeOf raw = .ok (openShape cs) := by
  subst left
  simp [shapeOf, some, notTrue, notFalse, notInteger]

/-- Text that stands for no path, no number and no string literal is a bracket or a negation. -/
theorem shapeOf_closed {raw : List Char} {c : Char} {rest : List Char} (left : bare raw = c :: rest)
    (notDigit : Text.isDigit c = false) (notSign : c ≠ '-') (notPath : isPath (c :: rest) = false)
    (notLiteral : isStringLiteral (c :: rest) = false) (unsplit : split? (c :: rest) = none) :
    shapeOf raw = .ok (closedShape (c :: rest)) := by
  have notTrue : c :: rest ≠ ['t', 'r', 'u', 'e'] := by
    intro same
    rw [same] at notPath
    exact absurd notPath (by decide)
  have notFalse : c :: rest ≠ ['f', 'a', 'l', 's', 'e'] := by
    intro same
    rw [same] at notPath
    exact absurd notPath (by decide)
  rw [shapeOf_open left (List.cons_ne_nil c rest) notTrue notFalse
    (integerText?_eq_none notDigit notSign)]
  simp [openShape, notLiteral, notPath, unsplit]

theorem isWritten_single {t : Term} (operand : IsOperand t.form t.text t.tree)
    (before : isGap t.before = true) (after : isGap t.after = true) :
    (Chain.mk t []).IsWritten := by
  refine ⟨?_, ⟨?_, ?_⟩, ?_, .nil⟩
  · simpa [Chain.terms] using operand
  · simpa [Chain.terms] using before
  · simpa [Chain.terms] using after
  · simp

section Operand

variable {raw text : List Char} {form : Form} {tree : Expr}

theorem takenApart_path (left : bare raw = text) (isPath : Expr.isPath text = true)
    (notTrue : text ≠ "true".toList) (notFalse : text ≠ "false".toList) :
    TakenApart raw (ofPath (String.ofList text)) := by
  rcases exists_head_of_isPath isPath with ⟨c, rest, rfl, starts⟩
  have notSign : c ≠ '-' := ne_of_holds starts (by decide)
  have notLiteral : isStringLiteral (c :: rest) = false := by
    apply isStringLiteral_eq_false
    right
    intro quote
    have foreign := isPath_eq_false_of_mem (List.mem_of_getLast? quote) (by decide)
    rw [isPath] at foreign
    cases foreign
  have shape : shapeOf raw = .ok (.path (c :: rest)) := by
    rw [shapeOf_open left (List.cons_ne_nil c rest) notTrue notFalse
      (integerText?_eq_none (isDigit_of_startsWord starts) notSign)]
    simp [openShape, notLiteral, isPath]
  exact ⟨_, [], shape, rfl, by simp, rfl⟩

theorem takenApart_bool (b : Bool)
    (left : bare raw = (if b then "true" else "false").toList) :
    TakenApart raw (ofValue (.bool b)) := by
  have shape : shapeOf raw = .ok (.literal (.bool b)) := by
    cases b <;> simp [shapeOf, left]
  exact ⟨_, [], shape, rfl, by simp, rfl⟩

theorem takenApart_integer (negative : Bool) {first : Char} {digits type : List Char}
    (digit : Text.isDigit first = true)
    (others : ∀ c ∈ digits, Text.isDigit c = true ∨ c = '_')
    (typed : type = [] ∨ type ∈ integerTypes)
    (few : ((first :: digits).filter (· != '_')).length ≤ digitLimit)
    (left : bare raw = (if negative then ['-'] else []) ++ first :: digits ++ type) :
    TakenApart raw (ofValue (.int
      (let n : Int := Text.digitsValue ((first :: digits).filter (· != '_'))
      if negative then -n else n))) := by
  have written := integerText?_written negative digit others typed
  rw [← left] at written
  have some : bare raw ≠ [] := by
    intro none
    rw [none] at written
    exact absurd written (by simp [integerText?])
  have notTrue : bare raw ≠ ['t', 'r', 'u', 'e'] := by
    intro same
    rw [same, integerText?_eq_none (by decide) (by decide)] at written
    cases written
  have notFalse : bare raw ≠ ['f', 'a', 'l', 's', 'e'] := by
    intro same
    rw [same, integerText?_eq_none (by decide) (by decide)] at written
    cases written
  have shape : shapeOf raw = .ok (.literal (.int
      (let n : Int := Text.digitsValue ((first :: digits).filter (· != '_'))
      if negative then -n else n))) := by
    simp only [shapeOf, some, notTrue, notFalse, written, if_false, IntegerText.value,
      readDigits_of_length_le few]
    rfl
  exact ⟨_, [], shape, rfl, by simp, rfl⟩

theorem takenApart_string (bytes : Bool) {content : List Char} (isContent : IsContent content)
    (left : bare raw = quotedText bytes content) :
    TakenApart raw (ofValue (.text (String.ofList (quotedText bytes content)))) := by
  have literal := isStringLiteral_quotedText bytes isContent
  have some : quotedText bytes content ≠ [] := by simp [quotedText]
  have notTrue : quotedText bytes content ≠ ['t', 'r', 'u', 'e'] := by
    intro same
    rw [same] at literal
    cases literal
  have notFalse : quotedText bytes content ≠ ['f', 'a', 'l', 's', 'e'] := by
    intro same
    rw [same] at literal
    cases literal
  have notInteger : integerText? (quotedText bytes content) = none := by
    cases bytes
    · exact integerText?_eq_none (by decide) (by decide)
    · exact integerText?_eq_none (by decide) (by decide)
  have shape : shapeOf raw = .ok (.literal (.text (String.ofList (quotedText bytes content)))) := by
    rw [shapeOf_open left some notTrue notFalse notInteger]
    simp [openShape, literal]
  exact ⟨_, [], shape, rfl, by simp, rfl⟩

theorem takenApart_negation {gap : List Char} (blank : isGap gap = true)
    (operand : IsOperand form text tree) (left : bare raw = '!' :: (gap ++ text)) :
    TakenApart raw (ofUnary "!" tree) := by
  have facts := operandText operand
  have some : gap ++ text ≠ [] := by simp [facts.ne_nil]
  have unsplit := split?_of_operandText (facts.negation blank)
  have notPath : isPath ('!' :: (gap ++ text)) = false :=
    isPath_eq_false_of_mem List.mem_cons_self (by decide)
  have notLiteral : isStringLiteral ('!' :: (gap ++ text)) = false :=
    isStringLiteral_eq_false (.inl (by simp))
  have shape : shapeOf raw = .ok (.negation (gap ++ text)) := by
    rw [shapeOf_closed left (by decide) (by decide) notPath notLiteral unsplit,
      closedShape_negation some]
  refine ⟨_, [⟨⟨form, text, tree, gap, []⟩, []⟩], shape, ?_, ?_, rfl⟩
  · simp [Shape.parts, Chain.text, Chain.written, Term.written]
  · rw [List.forall_mem_singleton]
    exact isWritten_single operand blank rfl

theorem takenApart_call {name : List Char} {args : List Chain} (isName : isPath name = true)
    (bare' : '(' ∉ name) (some : args ≠ []) (written : ∀ c ∈ args, c.IsWritten)
    (left : bare raw = name ++ '(' :: Chain.listed args ++ [')'])
    (unsplit : split? (name ++ '(' :: Chain.listed args ++ [')']) = none) :
    TakenApart raw (ofCall (String.ofList name) (args.map Chain.tree)) := by
  have scanned : ∀ c ∈ args, c.IsScanned := fun c member => isScanned (written c member)
  rcases listed_facts some scanned with ⟨nested, -, c, rest, listed, start⟩
  have closedShape := closedShape_call (isFunctionName_of_isPath isName bare') nested
  rcases exists_head_of_isPath isName with ⟨d, more, rfl, starts⟩
  have notPath : isPath (d :: more ++ '(' :: Chain.listed args ++ [')']) = false := by
    have other : c ≠ ')' := ne_of_aheadOperand start (by decide)
    rw [listed, List.append_assoc]
    exact isPath_eq_false_of_open other
  have notLiteral : isStringLiteral (d :: more ++ '(' :: Chain.listed args ++ [')']) = false := by
    apply isStringLiteral_eq_false
    right
    rw [List.getLast?_concat]
    decide
  have shape : shapeOf raw = .ok (.call (d :: more) (args.map Chain.text)) := by
    rw [shapeOf_closed left (isDigit_of_startsWord starts) (ne_of_holds starts (by decide)) notPath
      notLiteral unsplit, ← splitArgs_listed some scanned]
    exact congrArg Except.ok closedShape
  exact ⟨_, args, shape, rfl, written, rfl⟩

/-- A text of brackets that no path, number, string literal or call is. -/
theorem shapeOf_bracket {cs : List Char} (left : bare raw = cs ++ [']'])
    (first : ∃ c rest, cs = c :: rest ∧ Text.isDigit c = false ∧ c ≠ '-' ∧ c ≠ '!')
    (unsplit : split? (cs ++ [']']) = none) : shapeOf raw = .ok (bracketShape (cs ++ [']'])) := by
  rcases first with ⟨c, rest, rfl, notDigit, notSign, notBang⟩
  have last : (c :: (rest ++ [']'])).getLast? = some ']' := by
    rw [← List.cons_append, List.getLast?_concat]
  have notPath : isPath (c :: (rest ++ [']'])) = false :=
    isPath_eq_false_of_mem (c := ']') (by simp) (by decide)
  have notLiteral : isStringLiteral (c :: (rest ++ [']'])) = false := by
    apply isStringLiteral_eq_false
    right
    rw [last]
    decide
  rw [List.cons_append] at left unsplit ⊢
  rw [shapeOf_closed left notDigit notSign notPath notLiteral unsplit,
    closedShape_bracket notBang last]

theorem takenApart_array {inner : List Char} {items : List Chain}
    (nested : Nested (fun _ => true) inner) (pieces : splitArgs inner = items.map Chain.text)
    (written : ∀ c ∈ items, c.IsWritten) (left : bare raw = '[' :: inner ++ [']'])
    (unsplit : split? ('[' :: inner ++ [']']) = none) :
    TakenApart raw (ofArray (items.map Chain.tree)) := by
  have shape : shapeOf raw = .ok (.array (items.map Chain.text)) := by
    rw [shapeOf_bracket left ⟨'[', inner, rfl, by decide, by decide, by decide⟩ unsplit,
      bracketShape_array nested, pieces]
  exact ⟨_, items, shape, rfl, written, rfl⟩

theorem takenApart_index {base gap : List Char} {c : Chain} (isBase : form.isBase = true)
    (blank : isGap gap = true) (operand : IsOperand form base tree) (written : c.IsWritten)
    (left : bare raw = base ++ gap ++ '[' :: c.text ++ [']'])
    (unsplit : split? (base ++ gap ++ '[' :: c.text ++ [']']) = none) :
    TakenApart raw (ofIndex tree [c.tree] (String.ofList (Text.trim c.text))) := by
  have facts := operandText operand
  have chain := chainText (isScanned written)
  have front : Nested (fun _ => true) (base ++ gap) :=
    (facts.nested.imp fun _ _ => rfl).append ((nested_gap blank).imp fun _ _ => rfl)
  have first : ∃ d rest, base ++ gap ++ '[' :: c.text = d :: rest ∧ Text.isDigit d = false ∧
      d ≠ '-' ∧ d ≠ '!' := by
    rcases facts.base isBase with ⟨d, rest, rfl, start⟩
    refine ⟨d, rest ++ gap ++ '[' :: c.text, rfl, ?_⟩
    rcases start with word | rfl | rfl
    · exact ⟨isDigit_of_startsWord word, ne_of_holds word (by decide), ne_of_holds word (by decide)⟩
    · exact ⟨by decide, by decide, by decide⟩
    · exact ⟨by decide, by decide, by decide⟩
  -- The bound is read from the trimmed text, which is again the text of a chain.
  rcases written.exists_trim with ⟨d, written', -, trimmed, tree'⟩
  have bounds : boundsOf d.text = [d.text] := boundsOf_of_chainText (chainText (isScanned written'))
  have shape : shapeOf raw = .ok (.index (base ++ gap) [d.text] d.text) := by
    rw [shapeOf_bracket left first unsplit, bracketShape_index (by simp [facts.ne_nil]) front
      (chain.nested.imp fun _ _ => rfl), trimmed, bounds]
  refine ⟨_, [⟨⟨form, base, tree, [], gap⟩, []⟩, d], shape, ?_, ?_, ?_⟩
  · simp [Shape.parts, Chain.text, Chain.written, Term.written]
  · rw [List.forall_mem_cons, List.forall_mem_singleton]
    exact ⟨isWritten_single operand rfl blank, written'⟩
  · rw [trimmed, ← tree']
    rfl

theorem takenApart_operand (h : IsOperand form text tree) (left : bare raw = text)
    (notParen : form ≠ .paren) (notBorrow : form ≠ .borrow) : TakenApart raw tree := by
  have unsplit := split?_of_operandText (operandText h)
  cases h with
  | path isPath notTrue notFalse => exact takenApart_path left isPath notTrue notFalse
  | bool b => exact takenApart_bool b left
  | integer negative digit others typed few =>
    exact takenApart_integer negative digit others typed few left
  | string bytes plain undotted => exact takenApart_string bytes plain left
  | negation blank operand => exact takenApart_negation blank operand left
  | paren => exact absurd rfl notParen
  | call isName bare some operands spaced =>
    exact takenApart_call isName bare some
      (fun c member => ⟨operands c member, spaced c member⟩) left unsplit
  | @emptyArray gap blank =>
    have pieces : splitArgs gap = ([] : List Chain).map Chain.text := splitArgs_gap blank
    exact takenApart_array ((nested_gap blank).imp fun _ _ => rfl) pieces (by simp) left unsplit
  | array some operands spaced =>
    have written : ∀ c ∈ _, Chain.IsWritten c := fun c member =>
      ⟨operands c member, spaced c member⟩
    have scanned : ∀ c ∈ _, Chain.IsScanned c := fun c member => isScanned (written c member)
    exact takenApart_array (listed_facts some scanned).1 (splitArgs_listed some scanned) written
      left unsplit
  | index isBase blank operand operands spaced =>
    exact takenApart_index isBase blank operand ⟨operands, spaced⟩ left unsplit
  | borrow => exact absurd rfl notBorrow

end Operand

/-! ## Chains -/

/-- A text that is split is no path, number or string literal. -/
theorem shapeOf_split {raw cs : List Char} {s : Split} (left : bare raw = cs)
    (found : split? cs = some s) : shapeOf raw = .ok (.binary s.left s.op s.right) := by
  -- Atoms have no operators, but this text is split at one.
  have splits : ∃ level, splits level cs ≠ [] := by
    by_contra noLevel
    have unsplit : split? cs = none := by
      rw [split?_eq, List.findSome?_eq_none_iff]
      intro level _
      have nothing : splits level cs = [] := by
        by_contra some
        exact noLevel ⟨level, some⟩
      rw [splitOf?, nothing]
      cases level.groupsLeft <;> rfl
    rw [unsplit] at found
    cases found
  rcases splits with ⟨level, some⟩
  have notPath : isPath cs = false := by
    by_contra isPath
    exact some (splits_of_isPath (by simpa using isPath) level)
  have notLiteral : isStringLiteral cs = false := by
    by_contra literal
    exact some (splits_of_isStringLiteral (by simpa using literal) level)
  have notInteger : integerText? cs = none := by
    cases integer : integerText? cs with
    | none => rfl
    | some t => exact absurd (splits_of_integerText? integer level) some
  have ne_nil : cs ≠ [] := by
    rintro rfl
    exact some rfl
  have notTrue : cs ≠ ['t', 'r', 'u', 'e'] := by
    rintro rfl
    exact absurd notPath (by decide)
  have notFalse : cs ≠ ['f', 'a', 'l', 's', 'e'] := by
    rintro rfl
    exact absurd notPath (by decide)
  rw [shapeOf_open left ne_nil notTrue notFalse notInteger]
  simp [openShape, notLiteral, notPath, found]

/-- A chain is taken apart into chains, whose trees make up its tree. -/
theorem takenApart {c : Chain} (h : c.IsWritten) : TakenApart c.text c.tree := by
  rcases exists_bare h with ⟨d, written, tight, left, tree, notParen, notBorrow⟩
  rw [← tree]
  -- One operand is an atom or a bracket; several are split at an operator between them.
  by_cases single : d.rest = []
  · have operand := written.operands d.first List.mem_cons_self
    have tree' : d.tree = d.first.tree := by
      rw [Chain.tree, single]
      rfl
    rw [(tight.text_of_single written single).2] at left
    rw [tree']
    exact takenApart_operand operand left (fun form => notParen ⟨single, form⟩) notBorrow
  · rcases exists_split? (isScanned written) single with
      ⟨before, op, after, rfl, found, earlier, joined⟩
    refine ⟨_, [before, after], shapeOf_split left found, ?_, ?_, joined.symm⟩
    · simp [Shape.parts, Split.left]
    · rw [List.forall_mem_cons, List.forall_mem_singleton]
      exact ⟨written.of_join_left, written.of_join_right earlier⟩

end Expr
end AccountAudit
