import AccountAudit.Proofs.Expr.Content

/-!
# Opaque string literals

Two texts that differ in the content of one string literal (`Alike`) are taken apart in the same way, if
both contents are inert, and their parts differ in the same way again (`matches_shapeOf`). So they are
read as trees that differ in the value of the literal and in raw texts only (`Varies`).

Contents that are not inert are told apart: by the brackets of a call around the literal, or by the
range in an index. So nothing less than inertness makes a content opaque (`parseChars_opaque_iff`).
-/

namespace AccountAudit
namespace Expr

/-! ## Two contents -/

section Contents

variable (content content' : List Char)

/-- One text, or two texts around a string literal that differ in its content. -/
inductive Alike : List Char → List Char → Prop where
  | same (cs : List Char) : Alike cs cs
  | held {front : List Char} (clear : Clear front) (back : List Char) :
    Alike (held front content back) (held front content' back)

/-- One construct of texts that differ in the content of one literal. -/
inductive Shape.Matches : Shape → Shape → Prop where
  | unknown : Matches .unknown .unknown
  | literal {mark : List Char} (known : mark = [] ∨ mark = ['b']) :
    Matches (.literal (.text (String.ofList (held mark content []))))
      (.literal (.text (String.ofList (held mark content' []))))
  | binary {left left' right right' : List Char} (op : BinaryOp)
      (before : Alike content content' left left') (behind : Alike content content' right right') :
    Matches (.binary left op right) (.binary left' op right')
  | negation {operand operand' : List Char} (inner : Alike content content' operand operand') :
    Matches (.negation operand) (.negation operand')
  | call {args args' : List (List Char)} (func : List Char)
      (pieces : List.Forall₂ (Alike content content') args args') :
    Matches (.call func args) (.call func args')
  | array {items items' : List (List Char)}
      (pieces : List.Forall₂ (Alike content content') items items') :
    Matches (.array items) (.array items')
  | index {base base' inner inner' : List Char} {bounds bounds' : List (List Char)}
      (front : Alike content content' base base')
      (pieces : List.Forall₂ (Alike content content') bounds bounds')
      (whole : Alike content content' inner inner') :
    Matches (.index base bounds inner) (.index base' bounds' inner')

/-- The heads of two nodes differ in the value of a string literal at most, or in a raw text around the
literal. -/
inductive Head.Varies : Head → Head → Prop where
  | same (head : Head) : Varies head head
  | value (head : Head) (literal : head.kind = .literal) {mark : List Char}
      (known : mark = [] ∨ mark = ['b']) :
    Varies { head with value := .text (String.ofList (held mark content [])) }
      { head with value := .text (String.ofList (held mark content' [])) }
  | raw (head : Head) (front back : List Char) :
    Varies { head with raw := String.ofList (held front content back) }
      { head with raw := String.ofList (held front content' back) }

/-- Trees of one shape, whose heads differ in the values of string literals and in raw texts at most. -/
inductive Varies : Expr → Expr → Prop where
  | same (e : Expr) : Varies e e
  | node {head head' : Head} {lhs lhs' rhs rhs' : Option Expr} {args args' : List Expr}
      (texts : head.Varies content content' head') (left : Option.Rel Varies lhs lhs')
      (right : Option.Rel Varies rhs rhs') (arguments : List.Forall₂ Varies args args') :
    Varies (.node head lhs rhs args) (.node head' lhs' rhs' args')

end Contents

variable {content content' front back : List Char}

theorem forall₂_alike_same (pieces : List (List Char)) :
    List.Forall₂ (Alike content content') pieces pieces :=
  List.forall₂_same.2 fun piece _ => .same piece

/-- All pieces are the same but one, which holds the literal. -/
theorem forall₂_alike (pieces : List (List Char)) (clear : Clear front) (back : List Char)
    (others : List (List Char)) : List.Forall₂ (Alike content content')
      (pieces ++ held front content back :: others)
      (pieces ++ held front content' back :: others) :=
  List.rel_append (forall₂_alike_same pieces) (.cons (.held clear back) (forall₂_alike_same others))

theorem Shape.Matches.parts {shape shape' : Shape} (h : shape.Matches content content' shape') :
    List.Forall₂ (Alike content content') shape.parts shape'.parts := by
  cases h with
  | unknown => exact .nil
  | literal => exact .nil
  | binary op before behind => exact .cons before (.cons behind .nil)
  | negation inner => exact .cons inner .nil
  | call func pieces => exact pieces
  | array pieces => exact pieces
  | index front pieces => exact .cons front pieces

/-! ## Atoms -/

theorem isStringLiteral_held_iff (quoteless : '"' ∉ content) :
    isStringLiteral (held front content back) = true ↔ (front = [] ∨ front = ['b']) ∧ back = [] := by
  constructor
  · intro literal
    rcases exists_of_isStringLiteral literal with ⟨mark, inner, whole, known, closed⟩
    have unmarked : '"' ∉ mark := by
      rcases known with rfl | rfl <;> decide
    -- A literal has two quotes, so none stands in front of the held one or behind it.
    have count := congrArg (List.count '"') whole
    simp only [held, List.count_append, List.count_cons_self, List.count_eq_zero_of_not_mem quoteless,
      List.count_eq_zero_of_not_mem closed, List.count_eq_zero_of_not_mem unmarked,
      List.count_nil] at count
    have before : '"' ∉ front := List.count_eq_zero.1 (by omega)
    obtain ⟨rfl, rest⟩ := eq_of_append_cons before unmarked whole
    obtain ⟨-, rfl⟩ := eq_of_append_cons quoteless closed rest
    exact ⟨known, rfl⟩
  · rintro ⟨rfl | rfl, rfl⟩ <;> simp [held, isStringLiteral, quoteless]

theorem mem_held (front content back : List Char) : '"' ∈ held front content back :=
  List.mem_append_right front List.mem_cons_self

theorem isPath_held (front content back : List Char) : isPath (held front content back) = false :=
  isPath_eq_false_of_mem (mem_held front content back) (by decide)

theorem integerText?_held (front content back : List Char) :
    integerText? (held front content back) = none := by
  cases h : integerText? (held front content back) with
  | none => rfl
  | some t =>
    rcases isNamed_of_integerText? h with ⟨sign, body, whole, known, -, named⟩
    have inside := whole ▸ mem_held front content back
    rcases List.mem_append.1 inside with early | late
    · rcases known with rfl | rfl <;> simp at early
    · exact absurd (named _ late) (by decide)

/-- The name of a called function lies in front of the literal. -/
theorem callParts?_held (front content back : List Char) :
    callParts? (held front content back) =
      (callParts? front).map fun parts => (parts.1, held parts.2 content back) := by
  cases front with
  | nil => simp [callParts?, held, Text.startsWord]
  | cons c front =>
    have stops : isNamePart '"' = false := by decide
    rw [callParts?, callParts?, held, takeWhile_append_stop stops, dropWhile_append_stop stops]
    cases starts : Text.startsWord c <;> simp [starts, held]

/-! ## Brackets at the end -/

theorem dropLast_held (front content back : List Char) (last : Char) :
    (held front content (back ++ [last])).dropLast = held front content back := by
  have whole : held front content (back ++ [last]) = held front content back ++ [last] := by
    simp [held]
  rw [whole, List.dropLast_concat]

theorem take_held {place : Nat} (before : place ≤ front.length) :
    (held front content back).take place = front.take place :=
  List.take_append_of_le_length before

theorem drop_held {place : Nat} (before : place ≤ front.length) :
    (held front content back).drop place = held (front.drop place) content back :=
  List.drop_append_of_le_length before

theorem take_held_behind (place : Nat) :
    (held front content back).take (front.length + (content.length + 2) + place) =
      held front content (back.take place) := by
  have whole : ∀ back, held front content back = held front content [] ++ back := by simp [held]
  have size : front.length + (content.length + 2) = (held front content []).length := by
    simp [held]
  rw [whole, size, List.take_length_add_append, ← whole]

theorem drop_held_behind (place : Nat) :
    (held front content back).drop (front.length + (content.length + 2) + place) =
      back.drop place := by
  have whole : held front content back = held front content [] ++ back := by simp [held]
  have size : front.length + (content.length + 2) = (held front content []).length := by
    simp [held]
  rw [whole, size, List.drop_length_add_append]

theorem exists_of_getLast?_held {c : Char} (other : c ≠ '"')
    (ends : (held front content back).getLast? = some c) : ∃ back', back = back' ++ [c] := by
  rw [getLast?_held] at ends
  cases back using List.reverseRecOn with
  | nil => exact absurd (Option.some.inj ends).symm other
  | append_singleton back' d =>
    rw [← List.cons_append, List.getLast?_concat] at ends
    obtain rfl := Option.some.inj ends
    exact ⟨back', rfl⟩

/-- What stands between the bracket and the literal is clear. -/
theorem Clear.behindOpener (clear : Clear front) {place : Nat} (before : place < front.length)
    (opener : openerOfLast? (held front content back) = some place) :
    Clear (front.drop (place + 1)) := by
  obtain ⟨whole, -, outside, -⟩ := eq_of_openerOfLast? opener
  rw [take_held (Nat.le_of_lt before)] at whole outside
  have closed : IsClosed (front.take place) :=
    (clear.agrees _ (List.take_prefix place front)).1 outside
  have bracket : front[place]? = some '[' := by
    have here := congrArg (·[place]?) whole
    simpa [held, List.getElem?_append_left before, Nat.le_of_lt before] using here
  obtain ⟨_, here⟩ := List.getElem?_eq_some_iff.1 bracket
  have parts : front = front.take place ++ '[' :: front.drop (place + 1) := by
    rw [← here, ← List.drop_eq_getElem_cons before, List.take_append_drop]
  rw [parts] at clear
  exact (clear.right closed).tail (by decide)

theorem matches_bracketShape (clear : Clear front) (inert : Inert content) (inert' : Inert content')
    (back : List Char) : (bracketShape (held front content back)).Matches content content'
      (bracketShape (held front content' back)) := by
  rcases openerOfLast?_held clear back with ⟨place, known, opens⟩
  have opener := opens content inert.unquoted
  have opener' := opens content' inert'.unquoted
  cases place with
  | none =>
    rw [bracketShape, bracketShape, opener, opener']
    exact .unknown
  | some place =>
    obtain ⟨back, rfl⟩ := exists_of_getLast?_held (by decide) (getLast?_of_openerOfLast? opener)
    rcases place with place | place
    · have before := known place rfl
      change _ = some place at opener opener'
      have tail := clear.behindOpener before opener
      cases place with
      | zero =>
        -- The bracket at the end is closed by the first one, so the text is an array.
        obtain ⟨c, front, rfl⟩ := List.exists_cons_of_length_pos before
        rcases splitArgs_held tail back with ⟨pieces, last, first, others, clear', cut⟩
        rw [List.drop_one, List.tail_cons] at cut
        rw [bracketShape, opener, bracketShape, opener']
        dsimp only
        rw [inside_held, inside_held, cut content inert.unquoted, cut content' inert'.unquoted]
        exact .array (forall₂_alike pieces clear' first others)
      | succ place =>
        rw [bracketShape_of_opener opener, bracketShape_of_opener opener', dropLast_held, dropLast_held,
          take_held (by omega), take_held (by omega), drop_held before, drop_held before,
          dropLast_held, dropLast_held, trim_held, trim_held]
        rcases boundsOf_held tail.trimStart (Text.trimEnd back) with
          ⟨bounds, last, first, others, clear', pieces⟩
        rw [pieces content inert, pieces content' inert']
        exact .index (.same _) (forall₂_alike bounds clear' first others) (.held tail.trimStart _)
    · -- The literal lies in the base, and all texts behind it are the same.
      have shape : ∀ content, Unquoted content →
          bracketShape (held front content (back ++ [']'])) =
            .index (held front content (back.take place))
              (boundsOf (Text.trim ((back ++ [']']).drop (place + 1)).dropLast))
              (Text.trim ((back ++ [']']).drop (place + 1)).dropLast) := by
        intro content unquoted
        obtain ⟨behind, size⟩ : ∃ behind, front.length + (content.length + 2) + place = behind + 1 :=
          ⟨front.length + content.length + 1 + place, by omega⟩
        have opener : openerOfLast? (held front content (back ++ [']'])) = some (behind + 1) := by
          rw [← size]
          exact opens content unquoted
        rw [bracketShape_of_opener opener, ← size, dropLast_held, take_held_behind,
          Nat.add_assoc _ place 1, drop_held_behind]
      rw [shape content inert.unquoted, shape content' inert'.unquoted]
      exact .index (.held clear _) (forall₂_alike_same _) (.same _)

/-! ## Constructs -/

theorem closedShape_held (other : front.head? ≠ some '!') (content back : List Char) :
    closedShape (held front content back) =
      match callParts? front with
      | some (func, brackets) =>
        if closesAtEnd (held brackets content back) then
          .call func (splitArgs (inside (held brackets content back)))
        else bracketShape (held front content back)
      | none => bracketShape (held front content back) := by
  have parts := callParts?_held front content back
  cases front with
  | nil =>
    rw [held, List.nil_append] at parts ⊢
    rw [closedShape_of_head (by decide), parts]
    rfl
  | cons c front =>
    have first : c ≠ '!' := by simpa using other
    rw [held_cons] at parts ⊢
    rw [closedShape_of_head first, parts]
    cases callParts? (c :: front) <;> rfl

theorem matches_closedShape (clear : Clear front) (inert : Inert content) (inert' : Inert content')
    (back : List Char) : (closedShape (held front content back)).Matches content content'
      (closedShape (held front content' back)) := by
  by_cases negated : front.head? = some '!'
  · obtain ⟨operand, rfl⟩ := List.head?_eq_some_iff.1 negated
    rw [held_cons, held_cons, closedShape_negation (held_ne_nil _ _ _),
      closedShape_negation (held_ne_nil _ _ _)]
    exact .negation (.held (clear.tail (by decide)) back)
  rw [closedShape_held negated, closedShape_held negated]
  cases parts : callParts? front with
  | none => exact matches_bracketShape clear inert inert' back
  | some call =>
    rcases call with ⟨func, brackets⟩
    obtain ⟨rfl, named⟩ := append_of_callParts? parts
    dsimp only
    rw [closesAtEnd_held inert, closesAtEnd_held inert']
    by_cases closes : closesAtEnd (held brackets [] back) = true
    · rw [if_pos closes, if_pos closes]
      have quoteless : '"' ∉ func := fun inside => absurd (named _ inside) (by decide)
      -- The brackets of the call stand around the literal.
      obtain ⟨head, last⟩ := ends_of_closesAtEnd closes
      obtain ⟨before, behind, rfl, rfl⟩ := ends_of_enclosed (by decide) (by decide) head last
      have inner : Clear before := (Clear.of_quoteless quoteless clear).tail (by decide)
      rcases splitArgs_held inner behind with ⟨pieces, last, first, others, clear', cut⟩
      rw [inside_held, inside_held, cut content inert.unquoted, cut content' inert'.unquoted]
      exact .call func (forall₂_alike pieces clear' first others)
    · rw [if_neg closes, if_neg closes]
      exact matches_bracketShape clear inert inert' back

/-- What stands between an operator and the literal is clear. -/
theorem Clear.behindOperator (clear : Clear front) {s : Split}
    (found : split? (held front content back) = some (s.ahead content back)) : Clear s.right := by
  have closed := (laid_operands found).2
  have whole : held front content back =
      held (s.left ++ (s.op.chars ++ s.right)) content back := by
    have text := text_of_split? found
    simpa [Split.ahead, Split.left, held] using text
  obtain rfl := List.append_cancel_right whole
  exact Clear.of_quoteless (quoteless_op s.op) (clear.right closed)

theorem matches_openShape (clear : Clear front) (inert : Inert content) (inert' : Inert content')
    (back : List Char) : (openShape (held front content back)).Matches content content'
      (openShape (held front content' back)) := by
  have literal : ∀ {content}, Inert content → (isStringLiteral (held front content back) = true ↔
      (front = [] ∨ front = ['b']) ∧ back = []) :=
    fun inert => isStringLiteral_held_iff inert.unquoted.quote
  unfold openShape
  by_cases whole : (front = [] ∨ front = ['b']) ∧ back = []
  · rw [if_pos ((literal inert).2 whole), if_pos ((literal inert').2 whole)]
    obtain ⟨known, rfl⟩ := whole
    exact .literal known
  rw [if_neg (mt (literal inert).1 whole), if_neg (mt (literal inert').1 whole), isPath_held,
    isPath_held]
  simp only [Bool.false_eq_true, if_false]
  rcases split?_held clear.closed back with ⟨site, splits⟩
  have found := splits content inert.unquoted
  rw [found, splits content' inert'.unquoted]
  cases site with
  | none => exact matches_closedShape clear inert inert' back
  | some site =>
    cases site with
    | inl s => exact .binary s.op (.same _) (.held (clear.behindOperator found) back)
    | inr s =>
      have left : ∀ content, (s.behind front content).left = held front content s.seen.reverse := by
        simp [Split.behind, Split.left, held]
      simp only [Option.map_some, Sum.elim_inr, left]
      exact .binary s.op (.held clear _) (.same _)

/-- Whatever the content of the literal is, the text is taken apart in one way. -/
theorem matches_shapeOf (clear : Clear front) (inert : Inert content) (inert' : Inert content')
    (back : List Char) : ∃ shape shape', shapeOf (held front content back) = .ok shape ∧
      shapeOf (held front content' back) = .ok shape' ∧ shape.Matches content content' shape' := by
  rcases bare_held clear back with ⟨front', back', clear', left⟩
  have open' : ∀ content, Inert content →
      shapeOf (held front content back) = .ok (openShape (held front' content back')) := by
    intro content inert
    have notPath := isPath_held front' content back'
    refine shapeOf_open (left content inert) (held_ne_nil _ _ _) ?_ ?_ (integerText?_held ..)
    · intro same
      rw [same] at notPath
      cases notPath
    · intro same
      rw [same] at notPath
      cases notPath
  exact ⟨_, _, open' content inert, open' content' inert',
    matches_openShape clear' inert inert' back'⟩

/-! ## Trees -/

theorem varies_ofRaw (front back : List Char) : Varies content content'
    (ofRaw (String.ofList (held front content back)))
    (ofRaw (String.ofList (held front content' back))) :=
  .node (.raw { kind := .unknown } front back) .none .none .nil

/-- Parts that vary make up nodes that vary. -/
theorem Shape.Matches.assemble {shape shape' : Shape} (h : shape.Matches content content' shape')
    (front back : List Char) {parts parts' : List Expr}
    (related : List.Forall₂ (Varies content content') parts parts') :
    Varies content content' (shape.assemble (held front content back) parts)
      (shape'.assemble (held front content' back) parts') := by
  -- Too few or too many parts leave the whole text unknown.
  have raw := @varies_ofRaw content content' front back
  cases h with
  | unknown => exact raw
  | literal known => exact .node (.value { kind := .literal } rfl known) .none .none .nil
  | binary op =>
    cases related with
    | nil => exact raw
    | cons left more =>
      cases more with
      | nil => exact raw
      | cons right more =>
        cases more with
        | nil => exact .node (.same _) (.some left) (.some right) .nil
        | cons => exact raw
  | negation =>
    cases related with
    | nil => exact raw
    | cons operand more =>
      cases more with
      | nil => exact .node (.same _) (.some operand) .none .nil
      | cons => exact raw
  | call func => exact .node (.same _) .none .none related
  | array => exact .node (.same _) .none .none related
  | index _ _ whole =>
    cases related with
    | nil => exact raw
    | cons base bounds =>
      cases whole with
      | same => exact .node (.same _) (.some base) .none bounds
      | held => exact .node (.raw { kind := .index } _ _) (.some base) .none bounds

/-- Texts that differ in the inert content of one literal are read as trees that differ in the value of
the literal and in raw texts only, or cannot be read for the same reason. -/
theorem parseChars_alike (inert : Inert content) (inert' : Inert content') {cs cs' : List Char}
    (alike : Alike content content' cs cs') :
    Agree (Varies content content') (parseChars cs) (parseChars cs') := by
  -- By induction on the length: the parts of a construct are shorter and alike again.
  induction size : cs.length using Nat.strongRecOn generalizing cs cs' with
  | ind n ih =>
    subst size
    cases alike with
    | same => exact .refl .same _
    | @held front clear back =>
      rcases matches_shapeOf clear inert inert' back with ⟨shape, shape', found, found', matched⟩
      have parts : List.Forall₂ (fun part part' =>
          Agree (Varies content content') (parseChars part) (parseChars part'))
          shape.parts shape'.parts := by
        have shorter := (List.forall₂_and_left _ _).2
          ⟨fun part member => length_lt_of_mem_parts found member, matched.parts⟩
        exact shorter.imp fun part part' h => ih part.length h.1 h.2 rfl
      rw [parseChars_eq, parseChars_eq, found, found']
      exact (Agree.mapM parts).map fun _ _ related => matched.assemble front back related

/-- The text is read in one way with either content. -/
def ReadsAlike (content content' front back : List Char) : Prop :=
  Agree (Varies content content') (parseChars (held front content back))
    (parseChars (held front content' back))

theorem Head.Varies.kind_eq {head head' : Head} (h : head.Varies content content' head') :
    head.kind = head'.kind := by
  cases h <;> rfl

theorem Varies.kind_eq {e e' : Expr} (h : Varies content content' e e') : e.kind = e'.kind := by
  cases h with
  | same => rfl
  | node texts => exact texts.kind_eq

theorem Varies.length_args {e e' : Expr} (h : Varies content content' e e') :
    e.args.length = e'.args.length := by
  cases h with
  | same => rfl
  | node _ _ _ arguments => exact arguments.length_eq

/-! ## Contents that are seen -/

theorem inert_nil : Inert [] where
  unquoted := ⟨List.not_mem_nil, List.not_mem_nil⟩
  balanced := rfl
  unranged := by simp

/-- If the content makes no difference, the tree is that of the empty literal up to what varies. -/
theorem ReadsAlike.exists_ok (inert' : Inert content') (clear : Clear front)
    (alike : ReadsAlike content content' front back) {e : Expr}
    (empty : parseChars (held front [] back) = .ok e) :
    ∃ t, parseChars (held front content back) = .ok t ∧ t.kind = e.kind ∧
      t.args.length = e.args.length := by
  rcases (parseChars_alike inert' inert_nil (.held clear back)).exists_ok empty with
    ⟨t', read', varies'⟩
  rcases Agree.exists_ok alike read' with ⟨t, read, varies⟩
  exact ⟨t, read, varies.kind_eq.trans varies'.kind_eq, varies.length_args.trans varies'.length_args⟩

/-- A text that starts with a name and has no operator outside the literal is a call or a bracket. -/
theorem shapeOf_held_word (unquoted : Unquoted content) {c last : Char}
    (starts : Text.startsWord c = true) (visible : Text.isBlank last = false) (other : last ≠ '"')
    (closed : IsClosed (c :: front)) (unsplit : split? (held (c :: front) [] (back ++ [last])) = none) :
    shapeOf (held (c :: front) content (back ++ [last])) =
      .ok (closedShape (held (c :: front) content (back ++ [last]))) := by
  have whole : held front content (back ++ [last]) = held front content back ++ [last] := by
    simp [held]
  have ends : (held (c :: front) content (back ++ [last])).getLast? = some last := by
    rw [held_cons, whole, ← List.cons_append, List.getLast?_concat]
  have apart : split? (held (c :: front) content (back ++ [last])) = none := by
    rcases split?_held closed (back ++ [last]) with ⟨site, splits⟩
    have none := (splits [] inert_nil.unquoted).symm.trans unsplit
    rw [splits content unquoted, Option.map_eq_none_iff.1 none]
    rfl
  have left := bare_of_word ⟨c, _, held_cons .., starts⟩ ends visible
  have notLiteral : isStringLiteral (held (c :: front) content (back ++ [last])) = false :=
    isStringLiteral_eq_false (.inr (by rw [ends]; simpa using other))
  have notPath := isPath_held (c :: front) content (back ++ [last])
  rw [held_cons] at *
  exact shapeOf_closed left (isDigit_of_startsWord starts) (ne_of_holds starts (by decide)) notPath
    notLiteral apart

theorem roundBalanced_of_closes {depth : Nat}
    (open' : closesEarly (depth + 1) (content ++ ['"', ')']) = false)
    (closed : (content ++ ['"', ')']).foldl roundDepth (depth + 1) = 0) :
    roundBalanced depth content = true := by
  induction content generalizing depth with
  | nil => simpa [roundDepth, roundBalanced] using closed
  | cons c content ih =>
    rw [List.cons_append, closesEarly, Bool.or_eq_false_iff] at open'
    rw [List.cons_append, List.foldl_cons] at closed
    rw [roundBalanced]
    by_cases opens : c = '('
    · subst opens
      simpa using ih open'.2 closed
    by_cases closes : c = ')'
    · subst closes
      -- The bracket around the literal is still open, so the content closes one of its own.
      have deeper : depth ≠ 0 := by simpa [roundDepth] using open'.1
      obtain ⟨less, rfl⟩ : ∃ less, depth = less + 1 := ⟨depth - 1, by omega⟩
      simpa [roundDepth] using ih open'.2 closed
    · have same : roundDepth (depth + 1) c = depth + 1 := roundDepth_of_ne ⟨opens, closes⟩ _
      rw [same] at open' closed
      simpa [opens, closes] using ih open'.2 closed

theorem roundBalanced_of_closesAtEnd (closes : closesAtEnd (held ['('] content [')']) = true) :
    roundBalanced 0 content = true := by
  simp only [closesAtEnd, Bool.and_eq_true, Bool.not_eq_true', beq_iff_eq] at closes
  apply roundBalanced_of_closes
  · simpa [held, closesEarly, roundDepth] using closes.1.2
  · simpa [held, roundDepth] using closes.2

/-- In a call, the round brackets of the content are taken for brackets of the call. -/
theorem balanced_of_readsAlike (unquoted : Unquoted content) (inert' : Inert content')
    (alike : ReadsAlike content content' ['f', '('] [')']) : roundBalanced 0 content = true := by
  have clear : Clear ['f', '('] := clear_of_quoteless (by decide)
  have empty : parseChars (held ['f', '('] [] [')']) =
      .ok (ofCall "f" [ofValue (.text "\"\"")]) := by decide +kernel
  rcases alike.exists_ok inert' clear empty with ⟨t, read, kind, -⟩
  have shape := @shapeOf_held_word content ['('] [] unquoted 'f' ')' (by decide) (by decide) (by decide)
    clear.closed (by decide +kernel)
  rw [List.nil_append] at shape
  have parts : callParts? ['f', '('] = some (['f'], ['(']) := rfl
  rw [closedShape_held (by decide), parts] at shape
  by_cases closes : closesAtEnd (held ['('] content [')']) = true
  · exact roundBalanced_of_closesAtEnd closes
  · have unknown : bracketShape (held ['f', '('] content [')']) = .unknown := by
      rw [bracketShape]
      cases opener : openerOfLast? (held ['f', '('] content [')']) with
      | none => rfl
      | some place =>
        have ends := getLast?_of_openerOfLast? opener
        rw [getLast?_held] at ends
        cases ends
    simp only [closes, if_false, Bool.false_eq_true, unknown] at shape
    rw [parseChars_eq, shape] at read
    obtain rfl := Except.ok.inj read
    cases kind

/-- One bound is the whole text, if the text starts and ends with a quote. -/
theorem eq_of_boundsOf_held {bound : List Char} (one : boundsOf (held [] content []) = [bound]) :
    bound = held [] content [] := by
  have laid := (laid_boundsOf (held [] content [])).1
  have head := head?_held [] content []
  have ends := getLast?_held [] content []
  rw [one] at laid
  generalize held [] content [] = text at laid head ends
  cases laid with
  | @piece lead _ rest _ before apart behind =>
    cases behind with
    | gap after =>
      obtain rfl : lead = [] := by
        cases lead with
        | nil => rfl
        | cons c lead =>
          obtain rfl := Option.some.inj head
          exact absurd List.mem_cons_self before.quoteless
      obtain rfl : rest = [] := by
        cases rest using List.reverseRecOn with
        | nil => rfl
        | append_singleton rest c =>
          rw [List.nil_append, ← List.append_assoc, List.getLast?_concat] at ends
          obtain rfl := Option.some.inj ends
          exact absurd (List.mem_append_right rest List.mem_cons_self) after.quoteless
      simp

/-- The signs of ranges in the content cut the literal into pieces, none of which is the whole. -/
theorem unranged_of_boundsOf_held {bound : List Char}
    (one : boundsOf (held [] content []) = [bound]) : ¬ ['.', '.'] <:+: content := by
  intro ranged
  have nonempty : ['.', '.'] ≠ [] := List.cons_ne_nil _ _
  have inside : ['.', '.'] <:+: held [] content [] :=
    ranged.trans ⟨['"'], ['"'], by simp [held]⟩
  rcases Text.exists_splitOnFrom_of_occursIn nonempty [] (Text.occursIn_iff_isInfix.2 inside) with
    ⟨first, second, more, pieces⟩
  have member : held [] content [] ∈ Text.splitOn ['.', '.'] (held [] content []) := by
    have kept : held [] content [] ∈ boundsOf (held [] content []) := by
      rw [one, eq_of_boundsOf_held one]
      exact List.mem_cons_self
    exact (List.mem_filter.1 kept).1
  -- The pieces and the signs between them would be longer than the text.
  have total := Text.length_splitOnFrom nonempty 0 [] (held [] content [])
  have least := List.le_sum_of_mem (List.mem_map_of_mem (f := List.length) member)
  rw [Text.splitOn, pieces] at least
  rw [pieces] at total
  simp only [List.map_cons, List.sum_cons, List.length_cons, List.length_nil] at total least
  omega

theorem openerOfLast?_index (unquoted : Unquoted content) :
    openerOfLast? (held ['x', '['] content [']']) = some 1 := by
  have begun : openerOfLast? (held ['x', '['] content [']']) =
      openerOfLastFrom [(']', 1)] false '[' 2 ('"' :: (content ++ '"' :: [']'])) := by
    simp [openerOfLast?, held, openerOfLastFrom, closerOf?, quotedAfter]
  rw [begun, openerOfLastFrom_literal _ unquoted]
  simp [openerOfLastFrom, closerOf?]

/-- In an index, the signs of ranges in the content are taken for signs of the index. -/
theorem unranged_of_readsAlike (unquoted : Unquoted content) (inert' : Inert content')
    (alike : ReadsAlike content content' ['x', '['] [']']) : ¬ ['.', '.'] <:+: content := by
  have clear : Clear ['x', '['] := clear_of_quoteless (by decide)
  have empty : parseChars (held ['x', '['] [] [']']) =
      .ok (ofIndex (ofPath "x") [ofValue (.text "\"\"")] "\"\"") := by decide +kernel
  rcases alike.exists_ok inert' clear empty with ⟨t, read, -, size⟩
  have shape := @shapeOf_held_word content ['['] [] unquoted 'x' ']' (by decide) (by decide) (by decide)
    clear.closed (by decide +kernel)
  have last : (held ['x', '['] content [']']).getLast? = some ']' := getLast?_held _ _ _
  have whole : Text.trim (held [] content []) = held [] content [] := trim_held [] content []
  have inner : ((held ['x', '['] content [']']).drop 2).dropLast = held [] content [] :=
    dropLast_held [] content [] ']'
  have bracket : closedShape (held ['x', '['] content [']']) =
      bracketShape (held ['x', '['] content [']']) := closedShape_bracket (by decide) last
  rw [List.nil_append, bracket, bracketShape_of_opener (openerOfLast?_index unquoted), inner,
    whole] at shape
  rw [parseChars_eq, shape] at read
  obtain ⟨parts, made, rfl⟩ := map_eq_ok_iff.1 read
  cases forall₂_of_mapM made with
  | cons base bounds =>
    have one := bounds.length_eq.trans size
    obtain ⟨bound, one⟩ := List.length_eq_one_iff.1 one
    exact unranged_of_boundsOf_held one

/-- Exactly the inert contents of string literals are hidden: whatever surrounds such a literal, the text
is read as with any other inert content, but for the value of the literal and raw texts. -/
theorem parseChars_hides_content_iff (unquoted : Unquoted content) (inert' : Inert content') :
    (∀ front back, Clear front → ReadsAlike content content' front back) ↔ Inert content := by
  constructor
  · intro alike
    have call : Clear ['f', '('] := clear_of_quoteless (by decide)
    have index : Clear ['x', '['] := clear_of_quoteless (by decide)
    exact ⟨unquoted, balanced_of_readsAlike unquoted inert' (alike _ _ call),
      unranged_of_readsAlike unquoted inert' (alike _ _ index)⟩
  · intro inert front back clear
    exact parseChars_alike inert inert' (.held clear back)

theorem parseChars_hides_content_iff_separators :
    Unquoted "a, [b] == (c)".toList ∧ Inert "".toList ∧ ∀ front back, Clear front →
      ReadsAlike "a, [b] == (c)".toList "".toList front back := by
  have unquoted : Unquoted "a, [b] == (c)".toList := ⟨by decide, by decide⟩
  have inert : Inert "a, [b] == (c)".toList := ⟨unquoted, by decide, by decide⟩
  exact ⟨unquoted, inert_nil, (parseChars_hides_content_iff unquoted inert_nil).2 inert⟩

theorem not_readsAlike {e e' : Expr} (first : parseChars (held front content back) = .ok e)
    (second : parseChars (held front content' back) = .ok e')
    (differ : e.kind ≠ e'.kind ∨ e.args.length ≠ e'.args.length) :
    ¬ ReadsAlike content content' front back := by
  intro alike
  rcases Agree.exists_ok alike second with ⟨t, read, varies⟩
  obtain rfl := Except.ok.inj (first.symm.trans read)
  rcases differ with kind | size
  · exact kind varies.kind_eq
  · exact size varies.length_args

/-- A closing bracket in a call, a range in an index, and a comma behind a literal that ends with two
backslashes are seen, although all of them stand in a string literal. -/
theorem content_seen :
    (IsClosed "f(".toList ∧ Unquoted ")".toList ∧ Unquoted "a".toList ∧
      ¬ ReadsAlike ")".toList "a".toList "f(".toList ")".toList) ∧
    (IsClosed "x[".toList ∧ Unquoted "a..b".toList ∧ Unquoted "ab".toList ∧
      ¬ ReadsAlike "a..b".toList "ab".toList "x[".toList "]".toList) ∧
    (IsClosed "f(\"\\\\\", ".toList ∧ Unquoted ",".toList ∧ Unquoted "a".toList ∧
      ¬ ReadsAlike ",".toList "a".toList "f(\"\\\\\", ".toList ")".toList) := by
  have bracket : parseChars (held "f(".toList ")".toList ")".toList) =
      .ok (ofRaw "f(\")\")") := by decide +kernel
  have call : parseChars (held "f(".toList "a".toList ")".toList) =
      .ok (ofCall "f" [ofValue (.text "\"a\"")]) := by decide +kernel
  have range : parseChars (held "x[".toList "a..b".toList "]".toList) =
      .ok (ofIndex (ofPath "x") [ofRaw "\"a", ofRaw "b\""] "\"a..b\"") := by decide +kernel
  have index : parseChars (held "x[".toList "ab".toList "]".toList) =
      .ok (ofIndex (ofPath "x") [ofValue (.text "\"ab\"")] "\"ab\"") := by decide +kernel
  have comma : parseChars (held "f(\"\\\\\", ".toList ",".toList ")".toList) =
      .ok (ofCall "f" [ofRaw "\"\\\\\", \"", ofRaw "\""]) := by decide +kernel
  have single : parseChars (held "f(\"\\\\\", ".toList "a".toList ")".toList) =
      .ok (ofCall "f" [ofRaw "\"\\\\\", \"a\""]) := by decide +kernel
  refine ⟨⟨rfl, ⟨by decide, by decide⟩, ⟨by decide, by decide⟩, ?_⟩,
    ⟨rfl, ⟨by decide, by decide⟩, ⟨by decide, by decide⟩, ?_⟩,
    ⟨rfl, ⟨by decide, by decide⟩, ⟨by decide, by decide⟩, ?_⟩⟩
  · exact not_readsAlike bracket call (.inl (by decide))
  · exact not_readsAlike range index (.inr (by decide))
  · exact not_readsAlike comma single (.inr (by decide))

end Expr
end AccountAudit
