import AccountAudit.Proofs.Expr.Reading
import AccountAudit.Proofs.Text.Split

/-!
# Composition

Whether calls and ranges are read as what they are made of. The text of a call is taken apart into the
name and the arguments exactly if every angle bracket in the name stands beside another one, since a
lone one compares (`shapeOf_callText`). The text of an index with a range is taken apart into the base
and the two bounds exactly if the sign of the range occurs nowhere else in it, since brackets do not
hide it (`shapeOf_rangeText`).
-/

namespace AccountAudit
namespace Expr

/-! ## Angle brackets in names -/

def isAngle (c : Char) : Bool :=
  ['<', '>'].contains c

/-- Every angle bracket stands beside another one; `previous` is the character in front. -/
def joinsAnglesFrom (previous : Char) : List Char → Bool
  | [] => true
  | c :: rest =>
    (!isAngle c || isAngle previous || rest.head?.any isAngle) && joinsAnglesFrom c rest

/-- Every angle bracket of a text stands beside another one. -/
def joinsAngles (cs : List Char) : Bool :=
  joinsAnglesFrom ' ' cs

/-- The text of a call. -/
def callText (name : List Char) (args : List (List Char)) : List Char :=
  name ++ '(' :: [','].intercalate args ++ [')']

/-- A text with something in it, nested and without a comma outside its brackets. -/
structure IsArgument (text : List Char) : Prop where
  nested : Nested isInline text
  visible : text.all Text.isBlank = false

theorem isPlain_of_isNamePart {c : Char} (part : isNamePart c = true) : isPlain c = true := by
  rcases Bool.or_eq_true_iff.1 part with word | sign
  · exact isPlain_of_isNamed (isNamed_of_isWord word)
  · simp only [List.contains_iff_mem, List.mem_cons, List.not_mem_nil, or_false] at sign
    rcases sign with rfl | rfl | rfl | rfl <;> rfl

theorem isQuiet_of_isNamePart {c : Char} (part : isNamePart c = true) (flat : isAngle c = false) :
    isQuiet c = true := by
  rcases Bool.or_eq_true_iff.1 part with word | sign
  · exact isQuiet_of_isNamed (isNamed_of_isWord word)
  · simp only [List.contains_iff_mem, List.mem_cons, List.not_mem_nil, or_false] at sign
    rcases sign with rfl | rfl | rfl | rfl
    · rfl
    · rfl
    · cases flat
    · cases flat

theorem isBlank_of_isNamePart {c : Char} (part : isNamePart c = true) : Text.isBlank c = false := by
  rcases Bool.or_eq_true_iff.1 part with word | sign
  · exact isBlank_of_isWord word
  · simp only [List.contains_iff_mem, List.mem_cons, List.not_mem_nil, or_false] at sign
    rcases sign with rfl | rfl | rfl | rfl <;> decide

/-- An angle bracket in a name is an operator unless it stands beside another one. -/
theorem standsAt_angle {op : BinaryOp} (compares : op.isAngle = true) {b : Char}
    (behind : isNamePart b = true) (seen : List Char) {rest : List Char}
    (ahead : rest.head? ≠ some '=') (other : BinaryOp) :
    other.standsAt (b :: seen) (op.chars ++ rest) =
      (other == op && !isAngle b && !rest.head?.any isAngle) := by
  have visible : (b :: seen).dropWhile Text.isBlank = b :: seen := by
    rw [List.dropWhile_cons_of_neg (by simp [isBlank_of_isNamePart behind])]
  have minus : b ≠ '-' := ne_of_holds behind (by decide)
  have equal : b ≠ '=' := ne_of_holds behind (by decide)
  -- The character ahead decides between `<` and `<=`, and is looked at by both of them.
  cases rest with
  | nil =>
    cases op <;> cases compares <;> cases other <;>
      simp [BinaryOp.standsAt, visible, BinaryOp.chars, List.isPrefixOf, BinaryOp.neighboursAdmit,
        BinaryOp.isAngle, isAngle, minus, equal]
  | cons c more =>
    have differs : c ≠ '=' := by simpa using ahead
    have unequal : ('=' == c) = false := beq_eq_false_iff_ne.2 (Ne.symm differs)
    cases op <;> cases compares <;> cases other <;>
      simp [BinaryOp.standsAt, visible, BinaryOp.chars, List.isPrefixOf, BinaryOp.neighboursAdmit,
        BinaryOp.isAngle, isAngle, minus, equal, differs, unequal, Bool.and_comm]

theorem exists_angle {c : Char} (angle : isAngle c = true) :
    ∃ op : BinaryOp, op.isAngle = true ∧ op.chars = [c] := by
  simp only [isAngle, List.contains_iff_mem, List.mem_cons, List.not_mem_nil, or_false] at angle
  rcases angle with rfl | rfl
  · exact ⟨.lt, rfl, rfl⟩
  · exact ⟨.gt, rfl, rfl⟩

/-- A function's name and a bracket behind it. -/
theorem head?_append_bracket {name rest : List Char} (parts : ∀ c ∈ name, isNamePart c = true)
    (bracket : rest.head? = some '(') :
    (name ++ rest).head? ≠ some '=' ∧ (name ++ rest).head?.any isAngle = name.head?.any isAngle := by
  cases name with
  | nil => simp [bracket, isAngle]
  | cons c more =>
    have differs : c ≠ '=' := ne_of_holds (parts c List.mem_cons_self) (by decide)
    simpa using differs

/-- No operator stands in a name but a lone angle bracket. -/
theorem standsAt_name {level : Level} {b c : Char} {name : List Char}
    (beside : level = .comparison →
      (!isAngle c || isAngle b || name.head?.any isAngle) = true)
    (behind : isNamePart b = true) (part : isNamePart c = true)
    (parts : ∀ d ∈ name, isNamePart d = true) (seen : List Char) {rest : List Char}
    (bracket : rest.head? = some '(') :
    ∀ op ∈ level.ops, op.standsAt (b :: seen) (c :: (name ++ rest)) = false := by
  intro op member
  cases angle : isAngle c with
  | false => exact standsAt_of_isQuiet (isQuiet_of_isNamePart part angle) op _ _
  | true =>
    rcases exists_angle angle with ⟨sign, compares, chars⟩
    by_cases isComparison : level = .comparison
    · -- One of the neighbours is an angle bracket, so this one is half of a longer sign.
      rcases head?_append_bracket parts bracket with ⟨unequal, next⟩
      have stands := standsAt_angle compares behind seen unequal op
      rw [chars, List.singleton_append, next] at stands
      rw [stands]
      have neighbour := beside isComparison
      simp only [angle, Bool.not_true, Bool.false_or, Bool.or_eq_true] at neighbour
      rcases neighbour with before | after
      · simp [before]
      · simp [after]
    · have foreign : sign ∉ level.ops := by
        cases sign <;> cases compares <;> cases level <;> simp_all [Level.ops]
      exact standsAt_of_not_mem foreign member (by simp [chars]) _ _

/-- The name of a function is passed over, if it has no lone angle bracket or such brackets are not
looked for. -/
theorem splitsFrom_name {level : Level} {b : Char} {name : List Char}
    (joined : level = .comparison → joinsAnglesFrom b name = true)
    (behind : isNamePart b = true) (parts : ∀ c ∈ name, isNamePart c = true) (seen : List Char)
    {rest : List Char} (bracket : rest.head? = some '(') :
    splitsFrom level 0 [] false (b :: seen) (name ++ rest) =
      splitsFrom level 0 [] false (name.reverse ++ b :: seen) rest := by
  induction name generalizing b seen with
  | nil => rfl
  | cons c name ih =>
    rw [List.forall_mem_cons] at parts
    rcases parts with ⟨part, parts⟩
    simp only [joinsAnglesFrom, Bool.and_eq_true] at joined
    have none : ∀ op ∈ level.ops, op.standsAt (b :: seen) (c :: (name ++ rest)) = false :=
      standsAt_name (fun isComparison => (joined isComparison).1) behind part parts seen bracket
    rw [List.cons_append, splitsFrom_sign (isPlain_of_isNamePart part) none,
      ih (fun isComparison => (joined isComparison).2) part parts]
    simp

/-- At its first lone angle bracket a name is split. -/
theorem exists_splitsFrom_name {b : Char} {name : List Char}
    (lone : joinsAnglesFrom b name = false) (behind : isNamePart b = true)
    (parts : ∀ c ∈ name, isNamePart c = true) (seen : List Char) {rest : List Char}
    (bracket : rest.head? = some '(') : ∃ front op back more, op.isAngle = true ∧
      name = front ++ (op.chars ++ back) ∧
      splitsFrom .comparison 0 [] false (b :: seen) (name ++ rest) =
        ⟨front.reverse ++ b :: seen, op, back ++ rest⟩ :: more := by
  induction name generalizing b seen with
  | nil => cases lone
  | cons c name ih =>
    rw [List.forall_mem_cons] at parts
    rcases parts with ⟨part, parts⟩
    have plain := isPlain_of_isNamePart part
    by_cases beside : (!isAngle c || isAngle b || name.head?.any isAngle) = true
    · have later : joinsAnglesFrom c name = false := by
        rwa [joinsAnglesFrom, beside, Bool.true_and] at lone
      obtain ⟨front, op, back, more, compares, rfl, found⟩ := ih later part parts (b :: seen)
      refine ⟨c :: front, op, back, more, compares, rfl, ?_⟩
      have none : ∀ op ∈ Level.comparison.ops, op.standsAt (b :: seen) _ = false :=
        standsAt_name (fun _ => beside) behind part parts seen bracket
      rw [List.cons_append, splitsFrom_sign plain none, found]
      simp
    · simp only [Bool.or_eq_true, Bool.not_eq_true', not_or, Bool.not_eq_false,
        Bool.not_eq_true] at beside
      rcases beside with ⟨⟨angle, before⟩, after⟩
      rcases exists_angle angle with ⟨op, compares, chars⟩
      rcases head?_append_bracket parts bracket with ⟨unequal, next⟩
      have stands : ∀ other : BinaryOp,
          other.standsAt (b :: seen) (c :: (name ++ rest)) = (other == op) := by
        intro other
        have stands := standsAt_angle compares behind seen unequal other
        rw [chars, List.singleton_append, next, before, after] at stands
        simpa using stands
      have found : Level.comparison.ops.find? (·.standsAt (b :: seen) (c :: (name ++ rest))) =
          some op := by
        simp only [stands]
        cases op <;> cases compares <;> rfl
      have quote : c ≠ '"' := ne_of_isPlain plain rfl
      refine ⟨[], op, name, splitsFrom .comparison 0 [] false (c :: b :: seen) (name ++ rest),
        compares, by simp [chars], ?_⟩
      simp [splitsFrom, quote, closerOf?_of_isPlain plain, found, chars]

/-! ## Calls -/

section Call

variable {name : List Char} {args : List (List Char)}

theorem nested_brackets (each : ∀ arg ∈ args, IsArgument arg) :
    Nested isQuiet ('(' :: [','].intercalate args ++ [')']) := by
  have inner := Nested.intercalate fun arg member => (each arg member).nested
  exact .bracket rfl inner (.nil _)

theorem splits_callText (level : Level) {first : Char} {more : List Char}
    (plain : isPlain first = true) :
    splits level (callText (first :: more) args) =
      splitsFrom level 0 [] false [first] (more ++ ('(' :: [','].intercalate args ++ [')'])) := by
  have none : ∀ {rest}, ∀ op ∈ level.ops, op.standsAt [] (first :: rest) = false :=
    fun op _ => by simp [BinaryOp.standsAt]
  rw [splits, callText, List.append_assoc, List.cons_append, splitsFrom_sign plain none]

/-- Where a call is split: nowhere, or at the first lone angle bracket of the name. -/
theorem split?_callText (isName : IsFunctionName name) (each : ∀ arg ∈ args, IsArgument arg) :
    if joinsAngles name then split? (callText name args) = none
    else ∃ front op back, op.isAngle = true ∧ name = front ++ (op.chars ++ back) ∧
      split? (callText name args) = some ⟨front.reverse, op, callText back args⟩ := by
  have parts := isName.parts
  rcases isName.head with ⟨first, more, rfl, starts⟩
  rw [List.forall_mem_cons] at parts
  rcases parts with ⟨part, parts⟩
  have flat : isAngle first = false := by
    have other : first ≠ '<' ∧ first ≠ '>' :=
      ⟨ne_of_holds starts (by decide), ne_of_holds starts (by decide)⟩
    simp [isAngle, other.1, other.2]
  have joins : joinsAngles (first :: more) = joinsAnglesFrom first more := by
    simp [joinsAngles, joinsAnglesFrom, flat]
  have bracket : ('(' :: [','].intercalate args ++ [')']).head? = some '(' := rfl
  have none : ∀ level, (level = .comparison → joinsAnglesFrom first more = true) →
      splits level (callText (first :: more) args) = [] := by
    intro level joined
    have passed := splitsFrom_quiet (nested_brackets each) level (more.reverse ++ [first]) []
    rw [List.append_nil] at passed
    rw [splits_callText level (isPlain_of_isNamePart part),
      splitsFrom_name joined part parts [] bracket, passed]
    rfl
  rw [joins]
  split
  · rename_i joined
    rw [split?_eq, List.findSome?_eq_none_iff]
    intro level _
    rw [splitOf?, none level fun _ => joined]
    cases level.groupsLeft <;> rfl
  · rename_i lone
    obtain ⟨front, op, back, later, compares, rfl, found⟩ :=
      exists_splitsFrom_name (by simpa using lone) part parts [] bracket
    refine ⟨first :: front, op, back, compares, rfl, ?_⟩
    -- The two looser levels have no operator in the text.
    have disjunction := none .disjunction (by simp)
    have conjunction := none .conjunction (by simp)
    have comparison : splits .comparison (callText (first :: (front ++ (op.chars ++ back))) args) =
        ⟨front.reverse ++ [first], op, callText back args⟩ :: later := by
      rw [splits_callText .comparison (isPlain_of_isNamePart part), found, callText,
        List.append_assoc]
    simp [split?_eq, Level.all, splitOf?, Level.groupsLeft, disjunction, conjunction, comparison]

theorem ne_round_of_nested {p : Char → Bool} {c : Char} {rest : List Char}
    (nested : Nested p (c :: rest)) : c ≠ ')' := by
  rintro rfl
  cases nested with
  | plain isPlain => cases isPlain
  | bracket closes => cases closes

/-- A call with arguments is no path, since something stands between its brackets. -/
theorem isPath_callText (some : args ≠ []) (each : ∀ arg ∈ args, IsArgument arg) :
    isPath (callText name args) = false := by
  rcases List.exists_cons_of_ne_nil some with ⟨arg, others, rfl⟩
  have inner : Nested (fun _ => true) ([','].intercalate (arg :: others)) :=
    Nested.intercalate fun arg member => (each arg member).nested
  obtain ⟨c, rest, whole⟩ : ∃ c rest, [','].intercalate (arg :: others) = c :: rest := by
    have visible := (each arg List.mem_cons_self).visible
    cases arg with
    | nil => cases visible
    | cons c more =>
      by_cases single : others = []
      · exact ⟨c, more, by simp [single]⟩
      · exact ⟨c, more ++ ',' :: [','].intercalate others, intercalate_comma (c :: more) single⟩
  rw [whole] at inner
  rw [callText, whole, List.append_assoc]
  exact isPath_eq_false_of_open (ne_round_of_nested inner)

/-- What a call is taken apart into. -/
theorem shapeOf_callText (isName : IsFunctionName name) (some : args ≠ [])
    (each : ∀ arg ∈ args, IsArgument arg) :
    if joinsAngles name then shapeOf (callText name args) = .ok (.call name args)
    else ∃ front op back, op.isAngle = true ∧ name = front ++ (op.chars ++ back) ∧
      shapeOf (callText name args) = .ok (.binary front op (callText back args)) := by
  have left : bare (callText name args) = callText name args := by
    rcases isName.head with ⟨c, rest, rfl, starts⟩
    exact bare_of_word ⟨c, _, rfl, starts⟩ List.getLast?_concat (by decide)
  have cut := split?_callText isName each
  split at cut <;> rename_i joined
  · have inline : ∀ c, isInline c = true → c ≠ ',' := fun _ inline => ne_of_holds inline (by decide)
    have pieces : splitArgs ([','].intercalate args) = args :=
      splitArgs_intercalate inline some (fun arg member => (each arg member).nested)
        (fun arg member => (each arg member).visible)
    have inner := Nested.intercalate fun arg member => (each arg member).nested
    have closed : closedShape (callText name args) = .call name args := by
      rw [callText, closedShape_call isName inner, pieces]
    have notPath : isPath (callText name args) = false := isPath_callText some each
    have notLiteral : isStringLiteral (callText name args) = false := by
      apply isStringLiteral_eq_false
      right
      rw [callText, List.getLast?_concat]
      decide
    rw [if_pos joined]
    rcases isName.head with ⟨first, more, rfl, starts⟩
    rw [← closed]
    exact shapeOf_closed left (isDigit_of_startsWord starts) (ne_of_holds starts (by decide)) notPath
      notLiteral cut
  · rcases cut with ⟨front, op, back, compares, whole, found⟩
    rw [if_neg joined]
    refine ⟨front, op, back, compares, whole, ?_⟩
    rw [shapeOf_split left found, Split.left, List.reverse_reverse]

end Call

/-! ## Ranges -/

/-- The text of an index with a range. -/
def rangeText (base low high : List Char) : List Char :=
  base ++ '[' :: (low ++ (['.', '.'] ++ high)) ++ [']']

/-- The text of a range without the blanks around it. -/
def rangeInner (low high : List Char) : List Char :=
  Text.trimStart low ++ (['.', '.'] ++ Text.trimEnd high)

/-- The sign of a range begins neither in the one text in front of it nor in the one behind it. -/
def KeepsRange (low high : List Char) : Prop :=
  (¬ ['.', '.'] <:+: low ++ ['.']) ∧ ¬ ['.', '.'] <:+: high

section Range

variable {base low high : List Char}

/-- Blanks in front of a text write no part of the sign of a range. -/
theorem isInfix_gap_append {gap : List Char} (blank : gap.all Text.isBlank = true) (cs : List Char) :
    ['.', '.'] <:+: gap ++ cs ↔ ['.', '.'] <:+: cs := by
  induction gap with
  | nil => rfl
  | cons c rest ih =>
    rw [List.all_cons, Bool.and_eq_true] at blank
    have point : '.' ≠ c := Ne.symm (ne_of_holds blank.1 (by decide))
    rw [List.cons_append, List.infix_cons_iff, ih blank.2]
    simp [List.cons_prefix_cons, point]

theorem isInfix_trimStart (cs tail : List Char) :
    ['.', '.'] <:+: Text.trimStart cs ++ tail ↔ ['.', '.'] <:+: cs ++ tail := by
  have whole : cs.takeWhile Text.isBlank ++ Text.trimStart cs = cs :=
    List.takeWhile_append_dropWhile
  have gap := isInfix_gap_append (List.all_takeWhile (p := Text.isBlank) (l := cs))
    (Text.trimStart cs ++ tail)
  rw [← gap, ← List.append_assoc, whole]

theorem isInfix_trimEnd (cs : List Char) : ['.', '.'] <:+: Text.trimEnd cs ↔ ['.', '.'] <:+: cs := by
  have start := isInfix_trimStart cs.reverse []
  rw [List.append_nil, List.append_nil, Text.trimStart] at start
  have mirrored : ∀ ds : List Char, ['.', '.'] <:+: ds.reverse ↔ ['.', '.'] <:+: ds := fun ds =>
    @List.reverse_infix _ ['.', '.'] ds
  rw [Text.trimEnd, mirrored, start, mirrored]

theorem trim_range (first : low.all Text.isBlank = false) (second : high.all Text.isBlank = false) :
    Text.trim (low ++ (['.', '.'] ++ high)) = rangeInner low high := by
  rw [Text.trim, Text.trimStart_append first, Text.trimEnd_append (by simp [second]),
    Text.trimEnd_append second, rangeInner]

/-- The bounds of a range are the texts on the two sides of its sign, if it is the only one. -/
theorem boundsOf_rangeInner (first : low.all Text.isBlank = false)
    (second : high.all Text.isBlank = false) :
    boundsOf (rangeInner low high) = [Text.trimStart low, Text.trimEnd high] ↔
      KeepsRange low high := by
  have sign : ['.', '.'] ≠ [] := List.cons_ne_nil '.' ['.']
  have pair := Text.filter_splitOn_eq_pair_iff sign (Text.trimStart low) (Text.trimEnd high)
    (p := fun bound => !bound.all Text.isBlank)
    (by simp [Text.all_isBlank_trimStart, first]) (by simp [Text.all_isBlank_trimEnd, second])
  have dropped : ['.', '.'].dropLast = ['.'] := rfl
  rw [boundsOf, rangeInner, pair, KeepsRange, dropped, isInfix_trimStart, isInfix_trimEnd]

/-- What an index with a range is taken apart into. -/
theorem shapeOf_rangeText (isBase : isPath base = true) (lower : Nested (fun _ => true) low)
    (upper : Nested (fun _ => true) high) (first : low.all Text.isBlank = false)
    (second : high.all Text.isBlank = false) :
    shapeOf (rangeText base low high) =
      .ok (.index base (boundsOf (rangeInner low high)) (rangeInner low high)) := by
  have inner : Nested (fun _ => true) (low ++ (['.', '.'] ++ high)) :=
    lower.append (.plain rfl rfl (.plain rfl rfl upper))
  have front : Nested isQuiet base := (pathRest isBase).nested
  have unsplit : split? (rangeText base low high) = none := by
    have quiet : Nested isQuiet (rangeText base low high) := by
      rw [rangeText, List.append_assoc]
      exact front.append (.bracket rfl inner (.nil _))
    rw [split?_eq, List.findSome?_eq_none_iff]
    intro level _
    rw [splitOf?, splits_of_nested quiet]
    cases level.groupsLeft <;> rfl
  rcases exists_head_of_isPath isBase with ⟨c, rest, rfl, starts⟩
  have left : bare (rangeText (c :: rest) low high) = rangeText (c :: rest) low high :=
    bare_of_word ⟨c, _, rfl, starts⟩ List.getLast?_concat (by decide)
  have shape := bracketShape_index (List.cons_ne_nil c rest) (front.imp fun _ _ => rfl) inner
  rw [trim_range first second] at shape
  rw [← shape]
  exact shapeOf_bracket left ⟨c, _, rfl, isDigit_of_startsWord starts,
    ne_of_holds starts (by decide), ne_of_holds starts (by decide)⟩ unsplit

end Range

/-! ## Readings -/

/-- Blanks around a text do not change what it is taken apart into. -/
theorem shapeOf_of_trim {raw other : List Char} (same : Text.trim raw = Text.trim other) :
    shapeOf raw = shapeOf other := by
  have bared : bare raw = bare other := by
    unfold bare
    rw [same]
  unfold shapeOf
  rw [bared]

/-- **Composition.** A call whose arguments are nested is read as the call of what its arguments are
read as, unless an angle bracket of its name stands alone: then it is read as a comparison. An index
with a range is read as the index of what its base and its bounds are read as, and these bounds are the
two texts of the range, but for blanks, exactly if the sign of a range occurs in neither. -/
theorem parseChars_composes {name base low high : List Char} {args : List (List Char)}
    (isName : IsFunctionName name) (some : args ≠ []) (each : ∀ arg ∈ args, IsArgument arg)
    (isBase : isPath base = true) (lower : IsArgument low) (upper : IsArgument high) :
    (if joinsAngles name then
      parseChars (callText name args) = (args.mapM parseChars).map (ofCall (String.ofList name))
    else ∃ front, ∃ op : BinaryOp, ∃ back,
      op.isAngle = true ∧ name = front ++ (op.chars ++ back) ∧
      parseChars (callText name args) = (parseChars front).bind fun l =>
        (parseChars (callText back args)).map (ofBinary op.symbol l)) ∧
    parseChars (rangeText base low high) = ((parseChars base).bind fun e =>
      ((boundsOf (rangeInner low high)).mapM parseChars).map fun bounds =>
        ofIndex e bounds (String.ofList (rangeInner low high))) ∧
    (boundsOf (rangeInner low high) = [Text.trimStart low, Text.trimEnd high] ↔
      KeepsRange low high) ∧
    shapeOf (Text.trimStart low) = shapeOf low ∧ shapeOf (Text.trimEnd high) = shapeOf high := by
  refine ⟨?_, ?_, boundsOf_rangeInner lower.visible upper.visible,
    shapeOf_of_trim (Text.trim_trimStart low), shapeOf_of_trim (Text.trim_trimEnd high)⟩
  · have apart := shapeOf_callText isName some each
    split at apart <;> rename_i joined
    · rw [if_pos joined, parseChars_eq, apart]
      rfl
    · rcases apart with ⟨front, op, back, compares, whole, apart⟩
      rw [if_neg joined]
      refine ⟨front, op, back, compares, whole, ?_⟩
      rw [parseChars_eq, apart]
      simp only [Except.bind, Shape.parts, List.mapM_cons, List.mapM_nil, bind, pure, Except.pure]
      cases parseChars front with
      | error excess => rfl
      | ok l => cases parseChars (callText back args) <;> rfl
  · rw [parseChars_eq, shapeOf_rangeText isBase (lower.nested.imp fun _ _ => rfl)
      (upper.nested.imp fun _ _ => rfl) lower.visible upper.visible]
    simp only [Except.bind, Shape.parts, List.mapM_cons, bind, pure, Except.pure]
    cases parseChars base with
    | error excess => rfl
    | ok e => cases (boundsOf (rangeInner low high)).mapM parseChars <;> rfl

/-- The arguments `a` and ` g(b, c)` of a call. -/
def nestedArgs : List (List Char) :=
  [['a'], [' ', 'g', '(', 'b', ',', ' ', 'c', ')']]

theorem isArgument_nestedArgs : ∀ arg ∈ nestedArgs, IsArgument arg := by
  have inner : Nested (fun _ => true) ['b', ',', ' ', 'c'] := .of_all rfl
  have call : Nested isInline ['(', 'b', ',', ' ', 'c', ')'] := .bracket rfl inner (.nil _)
  have second : Nested isInline [' ', 'g', '(', 'b', ',', ' ', 'c', ')'] :=
    .plain rfl rfl (.plain rfl rfl call)
  rw [nestedArgs, List.forall_mem_cons, List.forall_mem_singleton]
  exact ⟨⟨.of_all rfl, by decide⟩, second, by decide⟩

theorem parseChars_composes_nestedArgs :
    IsFunctionName ['f'] ∧ nestedArgs ≠ [] ∧ (∀ arg ∈ nestedArgs, IsArgument arg) ∧
      isPath ['s'] = true ∧ IsArgument ['i'] ∧ IsArgument ['j', ' '] ∧ KeepsRange ['i'] ['j', ' '] ∧
      parseChars (callText ['f'] nestedArgs) = .ok (ofCall "f"
        [ofPath "a", ofCall "g" [ofPath "b", ofPath "c"]]) ∧
      parseChars (rangeText ['s'] ['i'] ['j', ' ']) =
        .ok (ofIndex (ofPath "s") [ofPath "i", ofPath "j"] "i..j") := by
  have isName : IsFunctionName ['f'] := ⟨⟨'f', [], rfl, by decide⟩, List.all_eq_true.1 rfl⟩
  have low : IsArgument ['i'] := ⟨.of_all rfl, by decide⟩
  have high : IsArgument ['j', ' '] := ⟨.of_all rfl, by decide⟩
  have keeps : KeepsRange ['i'] ['j', ' '] := by
    unfold KeepsRange
    decide
  have isBase : isPath ['s'] = true := by decide
  have composes := parseChars_composes isName (by decide) isArgument_nestedArgs isBase low high
  rcases composes with ⟨call, range, bounds, -⟩
  have args : nestedArgs.mapM parseChars =
      .ok [ofPath "a", ofCall "g" [ofPath "b", ofPath "c"]] := by decide +kernel
  have base : parseChars ['s'] = .ok (ofPath "s") := by decide +kernel
  have both : [Text.trimStart ['i'], Text.trimEnd ['j', ' ']].mapM parseChars =
      .ok [ofPath "i", ofPath "j"] := by decide +kernel
  rw [if_pos (by decide), args] at call
  rw [bounds.2 keeps, base] at range
  simp only [Except.bind, both] at range
  exact ⟨isName, by decide, isArgument_nestedArgs, by decide, low, high, keeps, call, range⟩

/-- A generic argument in a name and a range in a bound, and what the texts with them are read as. -/
theorem parse_generic_and_nested_range :
    IsFunctionName "Vec::<u8>::new".toList ∧ IsArgument ['a'] ∧
      parse "a" = .ok (ofPath "a") ∧
      parse "Vec::<u8>::new(a)" ≠ .ok (ofCall "Vec::<u8>::new" [ofPath "a"]) ∧
      IsArgument "q[a..b]".toList ∧ IsArgument "hi".toList ∧
      parse "q[a..b]" = .ok (ofIndex (ofPath "q") [ofPath "a", ofPath "b"] "a..b") ∧
      parse "p[q[a..b]..hi]" ≠ .ok (ofIndex (ofPath "p")
        [ofIndex (ofPath "q") [ofPath "a", ofPath "b"] "a..b", ofPath "hi"] "q[a..b]..hi") := by
  have inner : Nested (fun _ => true) ['a', '.', '.', 'b'] := .of_all rfl
  have bracket : Nested isInline ['[', 'a', '.', '.', 'b', ']'] := .bracket rfl inner (.nil _)
  have index : Nested isInline "q[a..b]".toList := .plain (c := 'q') rfl rfl bracket
  have generic : parse "Vec::<u8>::new(a)" = .ok (ofBinary "<" (ofRaw "Vec::")
      (ofBinary ">" (ofPath "u8") (ofRaw "::new(a)"))) := by decide +kernel
  have range : parse "p[q[a..b]..hi]" = .ok (ofIndex (ofPath "p")
      [ofRaw "q[a", ofRaw "b]", ofPath "hi"] "q[a..b]..hi") := by decide +kernel
  refine ⟨⟨⟨'V', "ec::<u8>::new".toList, rfl, by decide⟩, List.all_eq_true.1 rfl⟩, ⟨.of_all rfl, by decide⟩,
    by decide +kernel, ?_, ⟨index, by decide⟩, ⟨.of_all rfl, by decide⟩,
    by decide +kernel, ?_⟩
  · rw [generic]
    decide
  · rw [range]
    decide

end Expr
end AccountAudit
