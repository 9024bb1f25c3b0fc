import AccountAudit.Proofs.Expr.Layout
import AccountAudit.Proofs.Text.Split

/-!
# Texts around a string literal

A text with a string literal at one place, whose content is left open (`held`). Whatever the content
is, each search of the reader finds the same in the text in front of the literal and in the text behind
it, as long as the content has nothing that a search looks for in string literals as well (`Inert`):
round brackets that do not belong together, and the sign of a range. The text in front has to be one in
which all searches see the same literals (`Clear`).
-/

namespace AccountAudit
namespace Expr

/-- A string literal with a text in front of it, to which the mark of a byte string belongs, and a text
behind it. -/
def held (front content back : List Char) : List Char :=
  front ++ '"' :: (content ++ '"' :: back)

/-- The round brackets of a text belong together, if so many are open in front of it. -/
def roundBalanced : Nat → List Char → Bool
  | depth, [] => depth == 0
  | depth, c :: rest =>
    if c = '(' then roundBalanced (depth + 1) rest
    else if c = ')' then depth != 0 && roundBalanced (depth - 1) rest
    else roundBalanced depth rest

/-- The content of a string literal that no search looks at. -/
structure Inert (content : List Char) : Prop where
  unquoted : Unquoted content
  balanced : roundBalanced 0 content = true
  unranged : ¬ ['.', '.'] <:+: content

/-- The literals of a text end in it, are seen in the same way by all searches, and hold no sign of a
range. -/
structure Clear (front : List Char) : Prop where
  closed : IsClosed front
  agrees : ∀ part, part <+: front → ((Glance.through (false, ' ') part).1 = false ↔ IsClosed part)
  ranges : RangesOutside front

/-- A text without quotes is clear. -/
theorem clear_of_quoteless {front : List Char} (quoteless : '"' ∉ front) : Clear front where
  closed := isClosed_of_quoteless quoteless
  agrees := by
    intro part start
    have none : '"' ∉ part := fun inside => quoteless (start.subset inside)
    exact iff_of_true (Glance.fst_through none) (isClosed_of_quoteless none)
  ranges := by
    rintro left right rfl
    exact isClosed_of_quoteless fun inside => quoteless (List.mem_append_left _ inside)

/-- What follows a text whose literals end in it is clear if the whole is. -/
theorem Clear.right {front rest : List Char} (closed : IsClosed front) (h : Clear (front ++ rest)) :
    Clear rest where
  closed := closed.append_iff.1 h.closed
  agrees := by
    intro part start
    have outside : (Glance.through (false, ' ') front).1 = false :=
      (h.agrees front (List.prefix_append front rest)).2 closed
    have whole := h.agrees (front ++ part) ((List.prefix_append_right_inj front).2 start)
    rw [closed.append_iff, Glance.through_append] at whole
    generalize Glance.through (false, ' ') front = glance at outside whole
    rcases glance with ⟨quoted, previous⟩
    obtain rfl : quoted = false := outside
    rwa [Glance.through_outside_congr previous ' '] at whole
  ranges := RangesOutside.right closed h.ranges

theorem Clear.of_quoteless {front rest : List Char} (quoteless : '"' ∉ front)
    (h : Clear (front ++ rest)) : Clear rest :=
  h.right (isClosed_of_quoteless quoteless)

theorem Clear.tail {c : Char} {rest : List Char} (quote : c ≠ '"') (h : Clear (c :: rest)) :
    Clear rest := by
  have single : IsClosed [c] := isClosed_of_quoteless (by simpa using Ne.symm quote)
  exact Clear.right single h

theorem held_ne_nil (front content back : List Char) : held front content back ≠ [] := by
  simp [held]

theorem held_cons (c : Char) (front content back : List Char) :
    held (c :: front) content back = c :: held front content back :=
  rfl

theorem head?_held (front content back : List Char) :
    (held front content back).head? = (front ++ ['"']).head? := by
  cases front <;> rfl

theorem getLast?_held (front content back : List Char) :
    (held front content back).getLast? = ('"' :: back).getLast? := by
  have whole : held front content back = (front ++ '"' :: content) ++ '"' :: back := by simp [held]
  rw [whole, List.getLast?_append_of_ne_nil _ (List.cons_ne_nil '"' back)]

/-! ## Both ends -/

section Ends

variable {front back : List Char}

theorem dropWhile_append_stop {p : Char → Bool} {c : Char} (stops : p c = false)
    (cs rest : List Char) : (cs ++ c :: rest).dropWhile p = cs.dropWhile p ++ c :: rest := by
  induction cs with
  | nil => simp [stops]
  | cons d more ih =>
    cases keeps : p d with
    | true => rw [List.cons_append, List.dropWhile_cons_of_pos keeps, ih,
        List.dropWhile_cons_of_pos keeps]
    | false => simp [keeps]

theorem takeWhile_append_stop {p : Char → Bool} {c : Char} (stops : p c = false)
    (cs rest : List Char) : (cs ++ c :: rest).takeWhile p = cs.takeWhile p := by
  induction cs with
  | nil => simp [stops]
  | cons d more ih =>
    cases keeps : p d with
    | true => rw [List.cons_append, List.takeWhile_cons_of_pos keeps, ih,
        List.takeWhile_cons_of_pos keeps]
    | false => simp [keeps]

theorem trim_held (front content back : List Char) :
    Text.trim (held front content back) =
      held (Text.trimStart front) content (Text.trimEnd back) := by
  have start : Text.trimStart (held front content back) =
      held (Text.trimStart front) content back := by
    rw [Text.trimStart, held, dropWhile_append_stop (by decide)]
    rfl
  have stop : ∀ cs, Text.trimEnd (cs ++ '"' :: back) = cs ++ '"' :: Text.trimEnd back := by
    intro cs
    have reversed : (cs ++ '"' :: back).reverse = back.reverse ++ '"' :: cs.reverse := by simp
    rw [Text.trimEnd, reversed, dropWhile_append_stop (by decide), Text.trimEnd]
    simp
  have whole : ∀ front back, held front content back = (front ++ '"' :: content) ++ '"' :: back := by
    simp [held]
  rw [Text.trim, start, whole, stop, whole]

theorem Clear.dropWhile {p : Char → Bool} (stops : p '"' = false) (clear : Clear front) :
    Clear (front.dropWhile p) := by
  have quoteless : '"' ∉ front.takeWhile p := by
    intro inside
    have holds := List.all_eq_true.1 (List.all_takeWhile (p := p) (l := front)) '"' inside
    rw [stops] at holds
    cases holds
  refine Clear.of_quoteless quoteless ?_
  rwa [List.takeWhile_append_dropWhile]

theorem Clear.trimStart (clear : Clear front) : Clear (Text.trimStart front) :=
  clear.dropWhile (by decide)

/-- A text without quotes at the start of the whole does not reach into the literal. -/
theorem prefix_held_iff {mark : List Char} (quoteless : '"' ∉ mark) (front content back : List Char) :
    mark <+: held front content back ↔ mark <+: front :=
  Text.prefix_append_cons_iff quoteless front _

theorem withoutStart_held {mark : List Char} (quoteless : '"' ∉ mark) (front content back : List Char) :
    Text.withoutStart mark (held front content back) =
      held (Text.withoutStart mark front) content back := by
  have begins : mark.isPrefixOf (held front content back) = mark.isPrefixOf front := by
    rw [Bool.eq_iff_iff, List.isPrefixOf_iff_prefix, List.isPrefixOf_iff_prefix]
    exact prefix_held_iff quoteless front content back
  unfold Text.withoutStart
  rw [begins]
  split
  · rename_i start
    obtain ⟨rest, rfl⟩ := List.isPrefixOf_iff_prefix.1 start
    simp [held]
  · rfl

theorem Clear.withoutStart {mark : List Char} (quoteless : '"' ∉ mark) (clear : Clear front) :
    Clear (Text.withoutStart mark front) := by
  unfold Text.withoutStart
  split
  · rename_i start
    obtain ⟨rest, rfl⟩ := List.isPrefixOf_iff_prefix.1 start
    rw [List.drop_left]
    exact Clear.of_quoteless quoteless clear
  · exact clear

theorem unmarked_held {mark : List Char} (quoteless : '"' ∉ mark) (front content back : List Char) :
    unmarked mark (held front content back) =
      held (Text.trimStart (Text.withoutStart mark front)) content (Text.trimEnd back) := by
  rw [unmarked, withoutStart_held quoteless, trim_held]

/-! ## Round brackets -/

theorem closesEarly_balanced {content : List Char} {extra : Nat}
    (balanced : roundBalanced extra content = true) (depth : Nat) (rest : List Char) :
    closesEarly (depth + 1 + extra) (content ++ rest) = closesEarly (depth + 1) rest := by
  induction content generalizing extra with
  | nil =>
    obtain rfl : extra = 0 := by simpa [roundBalanced] using balanced
    rfl
  | cons c content ih =>
    have deep : ∀ more, (depth + 1 + more == 0) = false := by
      intro more
      rw [beq_eq_false_iff_ne]
      omega
    rw [roundBalanced] at balanced
    rw [List.cons_append, closesEarly]
    split at balanced
    · rename_i opens
      have deeper := deep (extra + 1)
      simpa [roundDepth, opens, ← Nat.add_assoc, deeper] using ih balanced
    · split at balanced
      · rename_i closes
        rw [Bool.and_eq_true, bne_iff_ne] at balanced
        obtain ⟨less, rfl⟩ : ∃ less, extra = less + 1 := ⟨extra - 1, by omega⟩
        simpa [roundDepth, closes, ← Nat.add_assoc, deep less] using ih balanced.2
      · rename_i opens closes
        simpa [roundDepth, opens, closes, deep extra] using ih balanced

theorem foldl_roundDepth_balanced {content : List Char} {extra : Nat}
    (balanced : roundBalanced extra content = true) (depth : Nat) :
    content.foldl roundDepth (depth + extra) = depth := by
  induction content generalizing extra with
  | nil =>
    obtain rfl : extra = 0 := by simpa [roundBalanced] using balanced
    rfl
  | cons c content ih =>
    rw [roundBalanced] at balanced
    rw [List.foldl_cons]
    split at balanced
    · rename_i opens
      simpa [roundDepth, opens, Nat.add_assoc] using ih balanced
    · split at balanced
      · rename_i closes
        rw [Bool.and_eq_true, bne_iff_ne] at balanced
        obtain ⟨less, rfl⟩ : ∃ less, extra = less + 1 := ⟨extra - 1, by omega⟩
        simpa [roundDepth, closes, ← Nat.add_assoc] using ih balanced.2
      · rename_i opens closes
        simpa [roundDepth, opens, closes] using ih balanced

variable {content : List Char}

/-- A literal of inert content closes what an empty one closes: nothing, or all that is not open. -/
theorem closesEarly_held (inert : Inert content) (depth : Nat) (front back : List Char) :
    closesEarly depth (held front content back) = closesEarly depth (held front [] back) := by
  induction front generalizing depth with
  | nil =>
    cases depth with
    | zero => simp [held, closesEarly, roundDepth]
    | succ depth =>
      have inner := closesEarly_balanced inert.balanced depth ('"' :: back)
      have other : '"' ≠ '(' ∧ '"' ≠ ')' := by decide
      rw [Nat.add_zero] at inner
      rw [held, held, List.nil_append, List.nil_append, List.nil_append,
        closesEarly_cons_of_ne other (by omega), inner,
        closesEarly_cons_of_ne other (by omega) ('"' :: back)]
  | cons c front ih =>
    have some : ∀ content, (held front content back).isEmpty = false := by
      intro content
      simp [held_ne_nil]
    rw [held_cons, held_cons, closesEarly, closesEarly, ih, some, some]

theorem foldl_roundDepth_held (inert : Inert content) (depth : Nat) (front back : List Char) :
    (held front content back).foldl roundDepth depth =
      (held front [] back).foldl roundDepth depth := by
  have inner := foldl_roundDepth_balanced inert.balanced
  have other : ∀ depth, roundDepth depth '"' = depth := roundDepth_of_ne (by decide)
  simp only [Nat.add_zero] at inner
  simp [held, other, inner]

theorem closesAtEnd_held (inert : Inert content) (front back : List Char) :
    closesAtEnd (held front content back) = closesAtEnd (held front [] back) := by
  rw [closesAtEnd, closesAtEnd, head?_held, head?_held, closesEarly_held inert,
    foldl_roundDepth_held inert]

theorem isEnclosed_held (inert : Inert content) (front back : List Char) :
    isEnclosed (held front content back) = isEnclosed (held front [] back) := by
  rw [isEnclosed, isEnclosed, head?_held, head?_held, getLast?_held, getLast?_held,
    closesEarly_held inert]

theorem inside_held (c d : Char) (front content back : List Char) :
    inside (held (c :: front) content (back ++ [d])) = held front content back := by
  have whole : held front content (back ++ [d]) = held front content back ++ [d] := by simp [held]
  rw [inside, held_cons, List.tail_cons, whole, List.dropLast_concat]

/-- Brackets around the whole stand in the text in front of the literal and in the text behind it. -/
theorem ends_of_enclosed {opener closer : Char} (first : opener ≠ '"') (last : closer ≠ '"')
    (head : (held front content back).head? = some opener)
    (ends : (held front content back).getLast? = some closer) :
    ∃ front' back', front = opener :: front' ∧ back = back' ++ [closer] := by
  rw [head?_held] at head
  rw [getLast?_held] at ends
  cases front with
  | nil => exact absurd (Option.some.inj head).symm first
  | cons c front' =>
    obtain rfl : c = opener := Option.some.inj head
    cases back using List.reverseRecOn with
    | nil => exact absurd (Option.some.inj ends).symm last
    | append_singleton back' d =>
      rw [← List.cons_append, List.getLast?_concat] at ends
      obtain rfl := Option.some.inj ends
      exact ⟨front', back', rfl, rfl⟩

theorem stripRound_held (clear : Clear front) (back : List Char) : ∃ front' back', Clear front' ∧
    ∀ content, Inert content → stripRound (held front content back) = held front' content back' := by
  -- Each pair of brackets that is taken away leaves a shorter text in front of the literal.
  induction size : front.length using Nat.strongRecOn generalizing front back with
  | ind n ih =>
    by_cases enclosed : isEnclosed (held front [] back) = true
    · have ends := enclosed
      simp only [isEnclosed, Bool.and_eq_true, beq_iff_eq] at ends
      obtain ⟨front', back', rfl, rfl⟩ :=
        ends_of_enclosed (by decide) (by decide) ends.1.1 ends.1.2
      have clear' : Clear (Text.trimStart front') := (clear.tail (by decide)).trimStart
      have shorter : (Text.trimStart front').length < n := by
        have le := Text.length_trimStart_le front'
        simp only [← size, List.length_cons]
        omega
      obtain ⟨front'', back'', clear'', stripped⟩ :=
        ih _ shorter clear' (Text.trimEnd back') rfl
      refine ⟨front'', back'', clear'', fun content inert => ?_⟩
      rw [stripRound_eq, isEnclosed_held inert, if_pos enclosed, inside_held, trim_held,
        stripped content inert]
    · refine ⟨front, back, clear, fun content inert => ?_⟩
      rw [stripRound_eq, isEnclosed_held inert, if_neg enclosed]

/-- Whatever the content of the literal is, the same is taken away around and in front of the text. -/
theorem bare_held (clear : Clear front) (back : List Char) : ∃ front' back', Clear front' ∧
    ∀ content, Inert content → bare (held front content back) = held front' content back' := by
  have mutably : '"' ∉ ['&', 'm', 'u', 't', ' '] := by decide
  have borrowed : '"' ∉ ['&'] := by decide
  obtain ⟨f, b, clear', stripped⟩ := stripRound_held clear.trimStart (Text.trimEnd back)
  have unmarked := ((clear'.withoutStart mutably).trimStart.withoutStart borrowed).trimStart
  obtain ⟨f', b', clear'', stripped'⟩ :=
    stripRound_held unmarked (Text.trimEnd (Text.trimEnd b))
  refine ⟨f', b', clear'', fun content inert => ?_⟩
  unfold bare
  rw [trim_held, stripped content inert, unmarked_held mutably, unmarked_held borrowed,
    stripped' content inert]

end Ends

/-! ## Operators -/

theorem quoteless_op (op : BinaryOp) : '"' ∉ op.chars :=
  (Gap.op op).quoteless

/-- The text in front of the literal tells what stands in it. -/
theorem standsAt_held (op : BinaryOp) (seen front content back : List Char) :
    op.standsAt seen (held front content back) = op.standsAt seen (held front [] []) := by
  have begins : ∀ content back, op.chars.isPrefixOf (held front content back) =
      op.chars.isPrefixOf front := by
    intro content back
    rw [Bool.eq_iff_iff, List.isPrefixOf_iff_prefix, List.isPrefixOf_iff_prefix]
    exact prefix_held_iff (quoteless_op op) front content back
  rw [BinaryOp.standsAt, BinaryOp.standsAt, begins, begins]
  cases start : op.chars.isPrefixOf front with
  | false => rfl
  | true =>
    obtain ⟨rest, rfl⟩ := List.isPrefixOf_iff_prefix.1 start
    have behind : ∀ content back,
        ((held (op.chars ++ rest) content back).drop op.chars.length).head? =
          (rest ++ ['"']).head? := by
      intro content back
      have whole : held (op.chars ++ rest) content back = op.chars ++ held rest content back := by
        simp [held]
      rw [whole, List.drop_left, head?_held]
    rw [behind, behind]

/-- The literal lies in the right operand of the operator. -/
def Split.ahead (content back : List Char) (s : Split) : Split :=
  ⟨s.seen, s.op, held s.right content back⟩

/-- The literal lies in the left operand of the operator. -/
def Split.behind (front content : List Char) (s : Split) : Split :=
  ⟨s.seen ++ (held front content []).reverse, s.op, s.right⟩

/-- Whatever the content of the literal is, the search for operators comes to the literal in one state,
and has found the same until then. -/
def ComesTo (level : Level) (skip : Nat) (closers : List Char) (quoted : Bool)
    (seen front : List Char) : Prop :=
  ∃ (found : List Split) (closers' : List Char), ∀ content back,
    splitsFrom level skip closers quoted seen (held front content back) =
      found.map (Split.ahead content back) ++
        splitsFrom level 0 closers' false (front.reverse ++ seen) (held [] content back)

section Step

variable {level : Level} {c : Char} {seen front : List Char}

/-- A step of the search that finds nothing. -/
theorem ComesTo.step {skip skip' : Nat} {quoted quoted' : Bool} {closers closers' : List Char}
    (step : ∀ rest, splitsFrom level skip closers quoted seen (c :: rest) =
      splitsFrom level skip' closers' quoted' (c :: seen) rest)
    (h : ComesTo level skip' closers' quoted' (c :: seen) front) :
    ComesTo level skip closers quoted seen (c :: front) := by
  rcases h with ⟨found, closers'', later⟩
  refine ⟨found, closers'', fun content back => ?_⟩
  rw [held_cons, step, later]
  simp

/-- A step of the search outside brackets and string literals. -/
theorem ComesTo.stepOutside (quote : c ≠ '"') (flat : closerOf? c = none)
    (next : ∀ skip, '"' ∉ front.take skip → skip ≤ front.length →
      ComesTo level skip [] false (c :: seen) front) :
    ComesTo level 0 [] false seen (c :: front) := by
  have same : ∀ content back, level.ops.find? (·.standsAt seen (c :: held front content back)) =
      level.ops.find? (·.standsAt seen (held (c :: front) [] [])) := by
    intro content back
    congr 1
    funext op
    exact standsAt_held op seen (c :: front) content back
  cases found : level.ops.find? (·.standsAt seen (held (c :: front) [] [])) with
  | none =>
    rcases next 0 (by simp) (Nat.zero_le _) with ⟨others, closers, later⟩
    refine ⟨others, closers, fun content back => ?_⟩
    have none := (same content back).trans found
    have step : splitsFrom level 0 [] false seen (c :: held front content back) =
        splitsFrom level 0 [] false (c :: seen) (held front content back) := by
      simp [splitsFrom, quote, flat, none]
    rw [held_cons, step, later]
    simp
  | some op =>
    have begins : op.chars <+: c :: front :=
      (prefix_held_iff (quoteless_op op) _ _ _).1 (prefix_of_find? found)
    obtain ⟨right, whole⟩ := begins
    have size := congrArg List.length whole
    have some := List.length_pos_iff.2 op.chars_ne_nil
    have quoteless : '"' ∉ front.take (op.chars.length - 1) := by
      intro inside
      have later : '"' ∉ (held front [] []).take (op.chars.length - 1) := quoteless_of_find? found
      rw [held, List.take_append] at later
      exact later (List.mem_append_left _ inside)
    simp only [List.length_append, List.length_cons] at size
    rcases next (op.chars.length - 1) quoteless (by omega) with ⟨others, closers, later⟩
    refine ⟨⟨seen, op, right⟩ :: others, closers, fun content back => ?_⟩
    have stands := (same content back).trans found
    have behind : (c :: held front content back).drop op.chars.length = held right content back := by
      have text : c :: held front content back = op.chars ++ held right content back := by
        rw [← held_cons, ← whole]
        simp [held]
      rw [text, List.drop_left]
    have step : splitsFrom level 0 [] false seen (c :: held front content back) =
        ⟨seen, op, held right content back⟩ ::
          splitsFrom level (op.chars.length - 1) [] false (c :: seen) (held front content back) := by
      simp [splitsFrom, quote, flat, stands, behind]
    rw [held_cons, step, later]
    simp [Split.ahead]

end Step

/-- The search for operators comes to a literal outside other literals in one state. -/
theorem comesTo (level : Level) {skip : Nat} {quoted : Bool} {front : List Char}
    {state : Quoting} (passing : Passing skip quoted front state)
    (short : state = .outside → skip ≤ front.length) (ends : state.through front = .outside)
    (closers seen : List Char) : ComesTo level skip closers quoted seen front := by
  induction front generalizing skip quoted state closers seen with
  | nil =>
    obtain rfl : state = .outside := ends
    obtain rfl : skip = 0 := by simpa using short rfl
    cases passing with
    | outside => exact ⟨[], closers, fun _ _ => rfl⟩
  | cons c front ih =>
    rw [Quoting.through_cons] at ends
    cases passing with
    | escaped =>
      exact (ih Passing.inside (by simp) ends closers (c :: seen)).step
        fun rest => by simp [splitsFrom]
    | inside =>
      by_cases sign : c = '\\'
      · subst sign
        exact (ih Passing.escaped (by simp) ends closers _).step
          fun rest => by simp [splitsFrom]
      by_cases quote : c = '"'
      · subst quote
        exact (@ih 0 false .outside (.outside (by simp)) (by simp) ends closers _).step
          fun rest => by simp [splitsFrom]
      · have open' : (c != '"') = true := by simpa using quote
        have still : Quoting.inside.after c = .inside := by simp [Quoting.after, sign, quote]
        rw [still] at ends
        exact (ih Passing.inside (by simp) ends closers _).step
          fun rest => by simp [splitsFrom, sign, open']
    | @outside skip _ quoteless =>
      by_cases skips : 0 < skip
      · obtain ⟨more, rfl⟩ : ∃ more, skip = more + 1 := ⟨skip - 1, by omega⟩
        rw [List.take_succ_cons, List.mem_cons, not_or] at quoteless
        have still : Quoting.outside.after c = .outside := if_neg (Ne.symm quoteless.1)
        have less : more ≤ front.length := by simpa using short rfl
        rw [still] at ends
        exact (ih (.outside quoteless.2) (fun _ => less) ends closers _).step
          fun rest => by simp [splitsFrom]
      obtain rfl : skip = 0 := by omega
      by_cases quote : c = '"'
      · subst quote
        exact (ih Passing.inside (by simp) ends closers _).step
          fun rest => by simp [splitsFrom]
      have still : Quoting.outside.after c = .outside := if_neg quote
      rw [still] at ends
      have on : ∀ closers, ComesTo level 0 closers false (c :: seen) front :=
        fun closers => ih (.outside (by simp)) (by simp) ends closers _
      cases flat : closerOf? c with
      | some closer =>
        exact (on (closer :: closers)).step fun rest => by simp [splitsFrom, quote, flat]
      | none =>
        cases closers with
        | cons closer outer =>
          exact (on (if c = closer then outer else closer :: outer)).step
            fun rest => by simp [splitsFrom, quote, flat]
        | nil =>
          exact .stepOutside quote flat fun skip quoteless less =>
            ih (.outside quoteless) (fun _ => less) ends [] _

/-- Whatever lies in front of the last quote of a literal, the search finds the same behind it. -/
def FindsBehind (level : Level) (skip : Nat) (closers : List Char) (quoted : Bool)
    (near back : List Char) : Prop :=
  ∃ found : List Split, ∀ far, splitsFrom level skip closers quoted (near ++ '"' :: far) back =
    found.map fun s => ⟨s.seen ++ '"' :: far, s.op, s.right⟩

theorem FindsBehind.step {level : Level} {skip skip' : Nat} {quoted quoted' : Bool}
    {closers closers' near back : List Char} {c : Char}
    (step : ∀ seen, splitsFrom level skip closers quoted seen (c :: back) =
      splitsFrom level skip' closers' quoted' (c :: seen) back)
    (h : FindsBehind level skip' closers' quoted' (c :: near) back) :
    FindsBehind level skip closers quoted near (c :: back) := by
  rcases h with ⟨found, later⟩
  refine ⟨found, fun far => ?_⟩
  rw [step, ← List.cons_append, later]

/-- The last character in front of an operator is no further away than the quote. -/
theorem standsAt_behind (op : BinaryOp) (near far ahead : List Char) :
    op.standsAt (near ++ '"' :: far) ahead = op.standsAt (near ++ ['"']) ahead := by
  have visible : Text.isBlank '"' = false := by decide
  rw [BinaryOp.standsAt, BinaryOp.standsAt, dropWhile_append_stop visible,
    dropWhile_append_stop visible]
  cases near.dropWhile Text.isBlank <;> rfl

theorem findsBehind (level : Level) (skip : Nat) (closers : List Char) (quoted : Bool)
    (near back : List Char) : FindsBehind level skip closers quoted near back := by
  induction back generalizing skip closers quoted near with
  | nil => exact ⟨[], fun _ => rfl⟩
  | cons c back ih =>
    by_cases skips : 0 < skip
    · exact (ih (skip - 1) closers quoted (c :: near)).step fun seen => by simp [splitsFrom, skips]
    obtain rfl : skip = 0 := by omega
    cases quoted with
    | true =>
      exact (ih (if c = '\\' then 1 else 0) closers (c != '"') (c :: near)).step
        fun seen => by simp [splitsFrom]
    | false =>
      by_cases quote : c = '"'
      · exact (ih 0 closers true (c :: near)).step fun seen => by simp [splitsFrom, quote]
      cases flat : closerOf? c with
      | some closer =>
        exact (ih 0 (closer :: closers) false (c :: near)).step
          fun seen => by simp [splitsFrom, quote, flat]
      | none =>
        cases closers with
        | cons closer outer =>
          exact (ih 0 (if c = closer then outer else closer :: outer) false (c :: near)).step
            fun seen => by simp [splitsFrom, quote, flat]
        | nil =>
          have same : ∀ far, level.ops.find? (·.standsAt (near ++ '"' :: far) (c :: back)) =
              level.ops.find? (·.standsAt (near ++ ['"']) (c :: back)) := by
            intro far
            congr 1
            funext op
            exact standsAt_behind op near far (c :: back)
          cases stands : level.ops.find? (·.standsAt (near ++ ['"']) (c :: back)) with
          | none =>
            rcases ih 0 [] false (c :: near) with ⟨found, later⟩
            refine ⟨found, fun far => ?_⟩
            rw [← later]
            simp [splitsFrom, quote, flat, same, stands]
          | some op =>
            rcases ih (op.chars.length - 1) [] false (c :: near) with ⟨found, later⟩
            refine ⟨⟨near, op, (c :: back).drop op.chars.length⟩ :: found, fun far => ?_⟩
            rw [List.map_cons, ← later]
            simp [splitsFrom, quote, flat, same, stands]

/-- Where the operators of a level stand is told by the texts around the literal. -/
theorem splits_held (level : Level) {front : List Char} (closed : IsClosed front)
    (back : List Char) : ∃ found : List (Split ⊕ Split), ∀ content, Unquoted content →
      splits level (held front content back) =
        found.map (Sum.elim (Split.ahead content back) (Split.behind front content)) := by
  rcases comesTo level (.outside (by simp)) (fun _ => Nat.zero_le _) closed [] [] with
    ⟨before, closers, comes⟩
  rcases findsBehind level 0 closers false [] back with ⟨behind, finds⟩
  refine ⟨before.map .inl ++ behind.map .inr, fun content unquoted => ?_⟩
  have literal : splitsFrom level 0 closers false (front.reverse ++ []) (held [] content back) =
      behind.map (Split.behind front content) := by
    have far := finds (content.reverse ++ '"' :: (front.reverse ++ []))
    rw [held, List.nil_append, splitsFrom_literal level closers unquoted, ← List.nil_append ('"' :: _),
      far]
    congr 1
    funext s
    simp [Split.behind, held]
  rw [splits, comes, literal, List.map_append, List.map_map, List.map_map]
  rfl

/-- Where a text is split is told by the texts around the literal. -/
theorem split?_held {front : List Char} (closed : IsClosed front) (back : List Char) :
    ∃ site : Option (Split ⊕ Split), ∀ content, Unquoted content →
      split? (held front content back) =
        site.map (Sum.elim (Split.ahead content back) (Split.behind front content)) := by
  choose found finds using fun level => splits_held level closed back
  refine ⟨Level.all.findSome? fun level =>
    if level.groupsLeft then (found level).getLast? else (found level).head?, ?_⟩
  intro content unquoted
  unfold split?
  generalize Level.all = levels
  induction levels with
  | nil => rfl
  | cons level levels ih =>
    rw [List.findSome?_cons, List.findSome?_cons, finds level content unquoted, List.getLast?_map,
      List.head?_map, ih]
    cases level.groupsLeft with
    | true => cases (found level).getLast? <;> rfl
    | false => cases (found level).head? <;> rfl

/-! ## Commas -/

/-- The search for commas comes to any place of a text in a state that does not depend on what follows,
and a piece is left that starts where no literal is taken to be open. -/
theorem splitArgsFrom_append (front : List Char) {depth : Int} {quoted : Bool}
    {start previous : Char} {piece : List Char}
    (state : Glance.through (false, start) piece.reverse = (quoted, previous)) :
    ∃ (pieces : List (List Char)) (depth' : Int) (lead last : List Char),
      piece.reverse ++ front = lead ++ last ∧ (Glance.through (false, start) lead).1 = false ∧
      ∀ rest, splitArgsFrom depth quoted previous piece (front ++ rest) =
        pieces ++ splitArgsFrom depth' (Glance.through (quoted, previous) front).1
          (Glance.through (quoted, previous) front).2 last.reverse rest := by
  induction front generalizing depth quoted start previous piece with
  | nil => exact ⟨[], depth, [], piece.reverse, by simp, rfl, fun rest => by simp⟩
  | cons c front ih =>
    by_cases comma : (c == ',' && depthAfter depth quoted c == 0 &&
        !quotedAfter quoted previous c) = true
    · have cut := comma
      simp only [Bool.and_eq_true, beq_iff_eq, Bool.not_eq_true'] at comma
      obtain rfl := comma.1.1
      have outside : quoted = false := by
        cases quoted with
        | false => rfl
        | true => exact absurd comma.2 (by simp [quotedAfter])
      subst outside
      have begun : Glance.through (false, ',') [].reverse = (false, ',') := rfl
      obtain ⟨pieces, depth', lead, last, whole, closed, later⟩ :=
        @ih (depthAfter depth false ',') false ',' ',' [] begun
      refine ⟨piece.reverse :: pieces, depth', piece.reverse ++ ',' :: lead, last, ?_, ?_, ?_⟩
      · simpa using whole
      · rw [Glance.through_append, state]
        exact closed
      · intro rest
        rw [List.cons_append, splitArgsFrom]
        simp only [cut, if_true]
        exact congrArg (piece.reverse :: ·) (later rest)
    · have more : Glance.through (false, start) (c :: piece).reverse =
          (quotedAfter quoted previous c, c) := by
        rw [List.reverse_cons, Glance.through_append, state]
        rfl
      obtain ⟨pieces, depth', lead, last, whole, closed, later⟩ :=
        @ih (depthAfter depth quoted c) _ _ _ _ more
      refine ⟨pieces, depth', lead, last, by simpa using whole, closed, fun rest => ?_⟩
      rw [List.cons_append, splitArgsFrom]
      simp only [comma]
      exact later rest

/-- A piece with something in it is the start of the first piece, whatever it is. -/
theorem splitArgsFrom_behind (depth : Int) (quoted : Bool) (previous : Char) (back : List Char) :
    ∃ (first : List Char) (others : List (List Char)), ∀ piece, piece.all Text.isBlank = false →
      splitArgsFrom depth quoted previous piece back = (piece.reverse ++ first) :: others := by
  induction back generalizing depth quoted previous with
  | nil => exact ⟨[], [], fun piece visible => by simp [splitArgsFrom, visible]⟩
  | cons c back ih =>
    rcases ih (depthAfter depth quoted c) (quotedAfter quoted previous c) c with
      ⟨first, others, later⟩
    by_cases comma : (c == ',' && depthAfter depth quoted c == 0 &&
        !quotedAfter quoted previous c) = true
    · refine ⟨[], splitArgsFrom (depthAfter depth quoted c) (quotedAfter quoted previous c) c [] back,
        fun piece _ => ?_⟩
      rw [splitArgsFrom]
      simp only [comma, if_true, List.append_nil]
    · refine ⟨c :: first, others, fun piece visible => ?_⟩
      rw [splitArgsFrom]
      simp only [comma, if_false, Bool.false_eq_true]
      rw [later (c :: piece) (by simp [visible])]
      simp

/-- The text is cut into the same pieces, whatever the content of the literal in one of them is. -/
theorem splitArgs_held {front : List Char} (clear : Clear front) (back : List Char) :
    ∃ (pieces : List (List Char)) (last first : List Char) (others : List (List Char)),
      Clear last ∧ ∀ content, Unquoted content →
        splitArgs (held front content back) = pieces ++ held last content first :: others := by
  have begun : Glance.through (false, ' ') [].reverse = (false, ' ') := rfl
  obtain ⟨pieces, depth, lead, last, whole, closed, comes⟩ :=
    @splitArgsFrom_append front 0 false ' ' ' ' [] begun
  rw [List.reverse_nil, List.nil_append] at whole
  subst whole
  have outside := (clear.agrees _ (List.prefix_refl _)).2 clear.closed
  have closed' := (clear.agrees lead (List.prefix_append lead last)).1 closed
  rcases splitArgsFrom_behind depth false '"' back with ⟨first, others, behind⟩
  refine ⟨pieces, last, first, others, clear.right closed', fun content unquoted => ?_⟩
  have visible : ('"' :: (content.reverse ++ '"' :: last.reverse)).all Text.isBlank = false := by
    have quote : Text.isBlank '"' = false := by decide
    simp [quote]
  rw [splitArgs, held, comes, outside, splitArgsFrom_literal depth unquoted, behind _ visible]
  simp [held]

/-! ## The bracket at the end -/

/-- The search for the bracket at the end comes to any place of a text in a state that does not depend
on what follows. -/
theorem openerOfLastFrom_append (front : List Char) {opened : List (Char × Nat)} {index : Nat}
    (earlier : ∀ entry ∈ opened, entry.2 < index) (quoted : Bool) (previous : Char) :
    ∃ opened' : List (Char × Nat), (∀ entry ∈ opened', entry.2 < index + front.length) ∧
      ∀ rest, rest ≠ [] → openerOfLastFrom opened quoted previous index (front ++ rest) =
        openerOfLastFrom opened' (Glance.through (quoted, previous) front).1
          (Glance.through (quoted, previous) front).2 (index + front.length) rest := by
  induction front generalizing opened index quoted previous with
  | nil => exact ⟨opened, by simpa using earlier, fun rest _ => rfl⟩
  | cons c front ih =>
    have later : ∀ opened : List (Char × Nat), (∀ entry ∈ opened, entry.2 < index) →
        ∀ entry ∈ opened, entry.2 < index + 1 := by
      intro opened earlier entry member
      have before := earlier entry member
      omega
    have size : index + (c :: front).length = index + 1 + front.length := by
      rw [List.length_cons]
      omega
    -- A step of the search leaves some brackets open, all of them in front of the next place.
    obtain ⟨next, earlier', step⟩ : ∃ next : List (Char × Nat),
        (∀ entry ∈ next, entry.2 < index + 1) ∧
        ∀ rest, rest ≠ [] → openerOfLastFrom opened quoted previous index (c :: rest) =
          openerOfLastFrom next (quotedAfter quoted previous c) c (index + 1) rest := by
      by_cases literal : (quoted || c == '"') = true
      · exact ⟨opened, later opened earlier, fun rest _ => by simp [openerOfLastFrom, literal]⟩
      cases flat : closerOf? c with
      | some closer =>
        refine ⟨(closer, index) :: opened, ?_, fun rest _ => by
          simp [openerOfLastFrom, literal, flat]⟩
        rw [List.forall_mem_cons]
        exact ⟨Nat.lt_succ_self index, later opened earlier⟩
      | none =>
        cases opened with
        | nil =>
          exact ⟨[], by simp, fun rest _ => by simp [openerOfLastFrom, literal, flat]⟩
        | cons entry outer =>
          rcases entry with ⟨closer, place⟩
          by_cases closes : c = closer
          · refine ⟨outer, later outer (List.forall_mem_cons.1 earlier).2, fun rest some => ?_⟩
            have inside : rest.isEmpty = false := by simpa using some
            subst closes
            simp [openerOfLastFrom, literal, flat, inside]
          · exact ⟨(closer, place) :: outer, later _ earlier, fun rest _ => by
              simp [openerOfLastFrom, literal, flat, closes]⟩
    rcases ih earlier' (quotedAfter quoted previous c) c with ⟨opened', places, comes⟩
    refine ⟨opened', size ▸ places, fun rest some => ?_⟩
    rw [List.cons_append, step _ (by simp [some]), comes rest some, size]
    rfl

/-- The place of a bracket: in front of the literal, or counted from its end on. -/
def placeIn (start : Nat) : Nat ⊕ Nat → Nat :=
  Sum.elim id (start + ·)

/-- Behind a literal the search finds a bracket that was open in front of it, or one whose place it
counts from the literal on. -/
theorem openerOfLastFrom_behind (opened : List (Char × (Nat ⊕ Nat))) (quoted : Bool)
    (previous : Char) (index : Nat) (back : List Char) :
    ∃ place : Option (Nat ⊕ Nat),
      (∀ p, place = some (.inl p) → ∃ closer, (closer, .inl p) ∈ opened) ∧
      ∀ start, openerOfLastFrom (opened.map (Prod.map id (placeIn start))) quoted previous
        (start + index) back = place.map (placeIn start) := by
  induction back generalizing opened quoted previous index with
  | nil => exact ⟨none, by simp, fun start => rfl⟩
  | cons c back ih =>
    -- All steps but the last one change what is open, and nothing else.
    have next : ∀ opened' : List (Char × (Nat ⊕ Nat)),
        (∀ closer p, (closer, .inl p) ∈ opened' → (closer, .inl p) ∈ opened) →
        (∀ start, openerOfLastFrom (opened.map (Prod.map id (placeIn start))) quoted previous
          (start + index) (c :: back) =
          openerOfLastFrom (opened'.map (Prod.map id (placeIn start)))
            (quotedAfter quoted previous c) c (start + index + 1) back) →
        ∃ place : Option (Nat ⊕ Nat),
          (∀ p, place = some (.inl p) → ∃ closer, (closer, .inl p) ∈ opened) ∧
          ∀ start, openerOfLastFrom (opened.map (Prod.map id (placeIn start))) quoted previous
            (start + index) (c :: back) = place.map (placeIn start) := by
      intro opened' known step
      rcases ih opened' (quotedAfter quoted previous c) c (index + 1) with ⟨place, known', later⟩
      refine ⟨place, fun p found => ?_, fun start => ?_⟩
      · rcases known' p found with ⟨closer, inside⟩
        exact ⟨closer, known closer p inside⟩
      · rw [step, Nat.add_assoc, later]
    by_cases literal : (quoted || c == '"') = true
    · exact next opened (fun _ _ inside => inside)
        fun start => by simp [openerOfLastFrom, literal]
    cases flat : closerOf? c with
    | some closer =>
      exact next ((closer, .inr index) :: opened) (by simp)
        fun start => by simp [openerOfLastFrom, literal, flat, placeIn]
    | none =>
      cases opened with
      | nil => exact next [] (by simp) fun start => by simp [openerOfLastFrom, literal, flat]
      | cons entry outer =>
        rcases entry with ⟨closer, place⟩
        by_cases closes : c = closer
        · subst closes
          by_cases ends : (back.isEmpty && c == ']') = true
          · refine ⟨some place, ?_, fun start => by simp [openerOfLastFrom, literal, flat, ends]⟩
            rintro p ⟨⟩
            exact ⟨c, List.mem_cons_self⟩
          · exact next outer (fun _ _ inside => List.mem_cons_of_mem _ inside)
              fun start => by simp [openerOfLastFrom, literal, flat, ends]
        · exact next ((closer, place) :: outer) (fun _ _ inside => inside)
            fun start => by simp [openerOfLastFrom, literal, flat, closes]

/-- The bracket at the end is opened at one place in front of the literal, or at one behind it. -/
theorem openerOfLast?_held {front : List Char} (clear : Clear front) (back : List Char) :
    ∃ place : Option (Nat ⊕ Nat), (∀ p, place = some (.inl p) → p < front.length) ∧
      ∀ content, Unquoted content → openerOfLast? (held front content back) =
        place.map (placeIn (front.length + (content.length + 2))) := by
  obtain ⟨opened, earlier, comes⟩ :=
    @openerOfLastFrom_append front [] 0 (by simp) false ' '
  rcases openerOfLastFrom_behind (opened.map (Prod.map id .inl)) false '"' 0 back with
    ⟨place, known, behind⟩
  have outside := (clear.agrees _ (List.prefix_refl _)).2 clear.closed
  refine ⟨place, fun p found => ?_, fun content unquoted => ?_⟩
  · rcases known p found with ⟨closer, inside⟩
    simp only [List.mem_map, Prod.map, id, Prod.mk.injEq, Sum.inl.injEq] at inside
    rcases inside with ⟨⟨_, q⟩, member, -, rfl⟩
    simpa using earlier _ member
  · have kept : ∀ start, (opened.map (Prod.map id .inl)).map (Prod.map id (placeIn start)) =
        opened := by
      intro start
      rw [List.map_map, Prod.map_comp_map]
      exact List.map_id'' (fun _ => rfl) opened
    have later := behind (front.length + (content.length + 2))
    rw [kept, Nat.add_zero] at later
    rw [openerOfLast?, held, comes _ (by simp), outside, Nat.zero_add,
      openerOfLastFrom_literal _ unquoted, later]

/-! ## Ranges -/

theorem Clear.afterRange {lead last : List Char} (clear : Clear (lead ++ last))
    (cut : lead = [] ∨ ∃ before, lead = before ++ ['.', '.']) : Clear last := by
  refine clear.right ?_
  rcases cut with rfl | ⟨before, rfl⟩
  · exact isClosed_nil
  · have front : IsClosed before := clear.ranges before last (by simp)
    exact front.append_iff.2 (isClosed_of_quoteless (by decide))

/-- The bounds are the same, whatever the content of the literal in one of them is. -/
theorem boundsOf_held {front : List Char} (clear : Clear front) (back : List Char) :
    ∃ (bounds : List (List Char)) (last first : List Char) (others : List (List Char)),
      Clear last ∧ ∀ content, Inert content →
        boundsOf (held front content back) = bounds ++ held last content first :: others := by
  have foreign : '"' ∉ ['.', '.'] := by decide
  have nonempty : ['.', '.'] ≠ [] := List.cons_ne_nil _ _
  rcases Text.exists_splitOnFrom_append_cons foreign nonempty front with
    ⟨pieces, lead, last, rfl, cut, comes⟩
  rcases Text.exists_splitOnFrom ['.', '.'] 0 back with ⟨first, others, behind⟩
  let visible := fun bound : List Char => !bound.all Text.isBlank
  refine ⟨pieces.filter visible, last, first, others.filter visible, clear.afterRange cut, ?_⟩
  intro content inert
  have some : visible (held last content first) = true := by
    have quote : Text.isBlank '"' = false := by decide
    simp [visible, held, quote]
  have cut : Text.splitOn ['.', '.'] (held (lead ++ last) content back) =
      pieces ++ held last content first :: others := by
    rw [Text.splitOn, held, comes,
      Text.splitOnFrom_append_cons foreign nonempty _ inert.unranged, behind]
    simp [held]
  rw [boundsOf, cut, List.filter_append, List.filter_cons_of_pos some]

end Expr
end AccountAudit
