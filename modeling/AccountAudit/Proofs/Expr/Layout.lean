import AccountAudit.Proofs.Expr.Quotation
import AccountAudit.Proofs.Expr.Shape
import AccountAudit.Proofs.Related

/-!
# What a text is taken apart into

A text is taken apart without loss: the names and parts of its outermost construct lie in it one after
the other, and what lies between them is blanks, brackets, commas and signs of operators (`Laid`). So
nothing that is written in a text disappears unless it is such a sign.

The sections of this module go through the constructs. Each also says that the parts in front of the
last one end outside string literals, as far as the reader has made sure of it when it cut them off.
-/

namespace AccountAudit
namespace Expr

/-! ## Gaps -/

/-- A character that belongs to no name, no number and no string literal. -/
def isMark (c : Char) : Bool :=
  Text.isBlank c ||
    ['(', ')', '[', ']', ',', '!', '&', '|', '=', '<', '>', '+', '-', '*', '/', '%'].contains c

theorem isWord_of_isMark {c : Char} (mark : isMark c = true) : Text.isWord c = false := by
  rcases Bool.or_eq_true_iff.1 mark with blank | sign
  · exact Text.isWord_of_isBlank blank
  · have table : ['(', ')', '[', ']', ',', '!', '&', '|', '=', '<', '>', '+', '-', '*', '/',
        '%'].all (fun c => !Text.isWord c) = true := by decide
    simpa using List.all_eq_true.1 table c (List.contains_iff_mem.1 sign)

/-- What may stand between the parts of a text: marks, the sign of a range, and the sign of a mutably
borrowed value. -/
inductive Gap : List Char → Prop where
  | nil : Gap []
  | mark {c : Char} {cs : List Char} (mark : isMark c = true) (rest : Gap cs) : Gap (c :: cs)
  | range {cs : List Char} (rest : Gap cs) : Gap ('.' :: '.' :: cs)
  | borrow {cs : List Char} (rest : Gap cs) : Gap (mutSign ++ cs)

/-- The text does not go on with what stands in front of it. -/
def Breaks (cs : List Char) : Prop :=
  cs = [] ∨ (∃ c rest, cs = c :: rest ∧ isMark c = true) ∨ ∃ rest, cs = '.' :: '.' :: rest

theorem breaks_of_mark {c : Char} {cs : List Char} (mark : isMark c = true) : Breaks (c :: cs) :=
  .inr (.inl ⟨c, cs, rfl, mark⟩)

theorem Breaks.append {cs ds : List Char} (h : Breaks cs) (h' : Breaks ds) : Breaks (cs ++ ds) := by
  rcases h with rfl | ⟨c, rest, rfl, mark⟩ | ⟨rest, rfl⟩
  · exact h'
  · exact breaks_of_mark mark
  · exact .inr (.inr ⟨rest ++ ds, rfl⟩)

namespace Gap

variable {cs ds : List Char}

theorem of_all (marks : cs.all isMark = true) : Gap cs := by
  induction cs with
  | nil => exact .nil
  | cons c rest ih =>
    rcases Bool.and_eq_true_iff.1 marks with ⟨mark, more⟩
    exact .mark mark (ih more)

theorem of_blank (blank : cs.all Text.isBlank = true) : Gap cs := by
  refine of_all (List.all_eq_true.2 fun c member => ?_)
  rw [isMark, List.all_eq_true.1 blank c member]
  rfl

theorem append (h : Gap cs) (h' : Gap ds) : Gap (cs ++ ds) := by
  induction h with
  | nil => exact h'
  | mark mark _ ih => exact .mark mark ih
  | range _ ih => exact .range ih
  | borrow _ ih =>
    rw [List.append_assoc]
    exact .borrow ih

theorem breaks (h : Gap cs) : Breaks cs := by
  cases h with
  | nil => exact .inl rfl
  | mark mark _ => exact breaks_of_mark mark
  | range _ => exact .inr (.inr ⟨_, rfl⟩)
  | borrow _ => exact breaks_of_mark (c := '&') rfl

theorem plain (h : Gap cs) : ∀ c ∈ cs, c ≠ '"' ∧ c ≠ '\\' := by
  induction h with
  | nil => simp
  | mark mark _ ih =>
    exact List.forall_mem_cons.2 ⟨⟨ne_of_holds mark (by decide), ne_of_holds mark (by decide)⟩, ih⟩
  | range _ ih => simpa using ih
  | borrow _ ih => simpa [mutSign] using ih

theorem quoteless (h : Gap cs) : '"' ∉ cs :=
  fun inside => (h.plain _ inside).1 rfl

theorem op (op : BinaryOp) : Gap op.chars :=
  of_all (by cases op <;> decide)

end Gap

/-! ## Pieces in a text -/

theorem mem_dropLast_cons {α : Type} {a first : α} {rest : List α}
    (member : a ∈ (first :: rest).dropLast) : a = first ∨ a ∈ rest.dropLast := by
  cases rest with
  | nil => cases member
  | cons second more => exact List.mem_cons.1 member

/-- The pieces lie in the text one after the other, with gaps between and around them. -/
inductive Laid : List (List Char) → List Char → Prop where
  | gap {cs : List Char} (gap : Gap cs) : Laid [] cs
  | piece {lead piece rest : List Char} {pieces : List (List Char)} (front : Gap lead)
      (apart : Breaks rest) (behind : Laid pieces rest) :
      Laid (piece :: pieces) (lead ++ (piece ++ rest))

namespace Laid

variable {pieces others : List (List Char)} {cs ds piece : List Char}

theorem front (gap : Gap ds) (h : Laid pieces cs) : Laid pieces (ds ++ cs) := by
  cases h with
  | gap more => exact .gap (gap.append more)
  | piece more apart behind =>
    rw [← List.append_assoc]
    exact .piece (gap.append more) apart behind

theorem append (h : Laid pieces cs) (apart : Breaks ds) (h' : Laid others ds) :
    Laid (pieces ++ others) (cs ++ ds) := by
  induction h with
  | gap gap => exact h'.front gap
  | piece front breaks _ ih =>
    rw [List.append_assoc, List.append_assoc]
    exact .piece front (breaks.append apart) ih

theorem back (h : Laid pieces cs) (gap : Gap ds) : Laid pieces (cs ++ ds) := by
  have longer := h.append gap.breaks (.gap gap)
  rwa [List.append_nil] at longer

theorem single (piece : List Char) : Laid [piece] piece := by
  have whole : Laid [piece] ([] ++ (piece ++ [])) := .piece .nil (.inl rfl) (.gap .nil)
  simpa using whole

/-- What lies in a piece lies in the text of the piece. -/
theorem trans (h : Laid [cs] ds) (inner : Laid pieces cs) : Laid pieces ds := by
  cases h with
  | piece front apart behind =>
    cases behind with
    | gap gap => exact (inner.back gap).front front

theorem paired (h : Laid pieces cs) (each : ∀ piece ∈ pieces, Paired piece) : Paired cs := by
  induction h with
  | gap gap => exact .of_forall gap.plain
  | piece front _ _ ih =>
    rw [List.forall_mem_cons] at each
    exact (Paired.of_forall front.plain).append (each.1.append (ih each.2))

end Laid

/-! ## Blanks, brackets and signs around a text -/

theorem laid_trimStart (cs : List Char) : Laid [Text.trimStart cs] cs := by
  have whole : cs.takeWhile Text.isBlank ++ Text.trimStart cs = cs :=
    List.takeWhile_append_dropWhile
  have laid := (Laid.single (Text.trimStart cs)).front (.of_blank (List.all_takeWhile (l := cs)))
  rwa [whole] at laid

theorem laid_trimEnd (cs : List Char) : Laid [Text.trimEnd cs] cs := by
  have whole := Text.trimEnd_append_blanks cs
  have blank : (cs.reverse.takeWhile Text.isBlank).reverse.all Text.isBlank = true := by
    rw [List.all_reverse]
    exact List.all_takeWhile
  have laid := (Laid.single (Text.trimEnd cs)).back (.of_blank blank)
  rwa [whole] at laid

theorem laid_trim (cs : List Char) : Laid [Text.trim cs] cs :=
  (laid_trimStart cs).trans (laid_trimEnd _)

/-- A text between two brackets. -/
theorem eq_of_ends {cs : List Char} {first last : Char} (head : cs.head? = some first)
    (ends : cs.getLast? = some last) (differ : first ≠ last) :
    cs = first :: (inside cs ++ [last]) := by
  rcases List.getLast?_eq_some_iff.1 ends with ⟨front, rfl⟩
  cases front with
  | nil => exact absurd (by simpa using head.symm) differ
  | cons c rest =>
    obtain rfl : c = first := by simpa using head
    simp [inside]

theorem laid_between {pieces : List (List Char)} {first last : Char} {cs : List Char}
    (starts : isMark first = true) (ends : isMark last = true) (h : Laid pieces cs) :
    Laid pieces (first :: (cs ++ [last])) :=
  (h.back (.mark ends .nil)).front (.mark starts .nil)

theorem laid_stripRound (cs : List Char) : Laid [stripRound cs] cs := by
  -- By induction on the length: what is left of the text in a pair of brackets is shorter.
  induction size : cs.length using Nat.strongRecOn generalizing cs with
  | ind n ih =>
    rw [stripRound_eq]
    by_cases enclosed : isEnclosed cs = true
    · rw [if_pos enclosed]
      have shorter := length_trim_inside_lt enclosed
      have inner := (laid_trim (inside cs)).trans (ih _ (size ▸ shorter) _ rfl)
      have ends := enclosed
      simp only [isEnclosed, Bool.and_eq_true, beq_iff_eq] at ends
      have whole := eq_of_ends ends.1.1 ends.1.2 (by decide)
      have laid : Laid [stripRound (Text.trim (inside cs))] ('(' :: (inside cs ++ [')'])) :=
        laid_between rfl rfl inner
      rwa [← whole] at laid
    · rw [if_neg enclosed]
      exact .single cs

theorem laid_unmarked {sign : List Char} (gap : Gap sign) (cs : List Char) :
    Laid [unmarked sign cs] cs := by
  refine Laid.trans ?_ (laid_trim _)
  rw [Text.withoutStart]
  split
  · rename_i starts
    rcases List.isPrefixOf_iff_prefix.1 starts with ⟨rest, rfl⟩
    rw [List.drop_left]
    exact (Laid.single rest).front gap
  · exact .single cs

/-- What is left of a text lies in it. -/
theorem laid_bare (raw : List Char) : Laid [bare raw] raw := by
  have mutably : Gap mutSign := by simpa using Gap.borrow .nil
  have borrowed : Gap ['&'] := .mark rfl .nil
  unfold bare
  exact (laid_trim raw).trans <| (laid_stripRound _).trans <| (laid_unmarked mutably _).trans <|
    (laid_unmarked borrowed _).trans (laid_stripRound _)

/-! ## Operands -/

theorem prefix_of_find? {level : Level} {seen ahead : List Char} {op : BinaryOp}
    (found : level.ops.find? (·.standsAt seen ahead) = some op) : op.chars <+: ahead := by
  have stands := List.find?_some found
  exact List.isPrefixOf_iff_prefix.1 (Bool.and_eq_true_iff.1 stands).1

theorem text_of_mem_splitsFrom {level : Level} {skip : Nat} {closers : List Char} {quoted : Bool}
    {seen cs : List Char} {s : Split} (h : s ∈ splitsFrom level skip closers quoted seen cs) :
    seen.reverse ++ cs = s.left ++ (s.op.chars ++ s.right) := by
  induction cs generalizing skip closers quoted seen with
  | nil => cases h
  | cons c rest ih =>
    have next : ∀ {skip closers quoted}, s ∈ splitsFrom level skip closers quoted (c :: seen) rest →
        seen.reverse ++ c :: rest = s.left ++ (s.op.chars ++ s.right) := by
      intro skip closers quoted later
      simpa using ih later
    unfold splitsFrom at h
    split at h
    · exact next h
    split at h
    · exact next h
    split at h
    · exact next h
    split at h
    · exact next h
    · exact next h
    split at h
    · rename_i op found
      rcases List.mem_cons.1 h with rfl | later
      · -- The operator stands at the start of what is left.
        rcases prefix_of_find? found with ⟨right, whole⟩
        rw [Split.left, ← whole, List.drop_left]
      · exact next later
    · exact next h

/-- What is passed over of an operator holds no quote. -/
theorem quoteless_of_find? {level : Level} {seen rest : List Char} {c : Char} {op : BinaryOp}
    (found : level.ops.find? (·.standsAt seen (c :: rest)) = some op) :
    '"' ∉ rest.take (op.chars.length - 1) := by
  intro inside
  have whole := List.prefix_iff_eq_take.1 (prefix_of_find? found)
  obtain ⟨size, length⟩ : ∃ size, op.chars.length = size + 1 :=
    ⟨_, (Nat.succ_pred_eq_of_pos (List.length_pos_iff.2 op.chars_ne_nil)).symm⟩
  rw [length, List.take_succ_cons] at whole
  rw [length, Nat.add_sub_cancel] at inside
  exact (Gap.op op).quoteless (whole ▸ List.mem_cons_of_mem c inside)

/-- How the state of the search for operators says where it is. -/
inductive Passing : Nat → Bool → List Char → Quoting → Prop where
  | outside {skip : Nat} {cs : List Char} (quoteless : '"' ∉ cs.take skip) :
    Passing skip false cs .outside
  | inside {cs : List Char} : Passing 0 true cs .inside
  | escaped {cs : List Char} : Passing 1 true cs .escaped

/-- Operators are found outside string literals. -/
theorem isClosed_left_of_mem_splitsFrom {level : Level} {skip : Nat} {closers : List Char}
    {quoted : Bool} {seen cs : List Char} {s : Split}
    (passing : Passing skip quoted cs (Quoting.outside.through seen.reverse))
    (h : s ∈ splitsFrom level skip closers quoted seen cs) : IsClosed s.left := by
  induction cs generalizing skip closers quoted seen with
  | nil => cases h
  | cons c rest ih =>
    have step : Quoting.outside.through (c :: seen).reverse =
        (Quoting.outside.through seen.reverse).after c := by simp
    have next : ∀ {skip closers quoted},
        Passing skip quoted rest ((Quoting.outside.through seen.reverse).after c) →
        s ∈ splitsFrom level skip closers quoted (c :: seen) rest → IsClosed s.left := by
      intro skip closers quoted passing
      exact ih (step ▸ passing)
    generalize here : Quoting.outside.through seen.reverse = state at passing next
    unfold splitsFrom at h
    cases passing with
    | escaped =>
      rw [if_pos Nat.one_pos] at h
      exact next .inside h
    | inside =>
      rw [if_neg (Nat.lt_irrefl 0), if_pos rfl] at h
      refine next ?_ h
      by_cases sign : c = '\\'
      · subst sign
        exact .escaped
      · by_cases quote : c = '"'
        · subst quote
          exact .outside (by simp)
        · have still : Quoting.inside.after c = .inside := by simp [Quoting.after, sign, quote]
          have open' : (c != '"') = true := by simpa using quote
          rw [if_neg sign, open', still]
          exact .inside
    | outside quoteless =>
      by_cases skips : 0 < skip
      · obtain ⟨more, rfl⟩ : ∃ more, skip = more + 1 := ⟨skip - 1, by omega⟩
        rw [List.take_succ_cons, List.mem_cons, not_or] at quoteless
        rw [if_pos skips] at h
        have still : Quoting.outside.after c = .outside := if_neg (Ne.symm quoteless.1)
        refine next ?_ h
        rw [still]
        exact .outside quoteless.2
      · rw [if_neg skips, if_neg Bool.false_ne_true] at h
        by_cases quote : c = '"'
        · rw [if_pos quote] at h
          have opens : Quoting.outside.after c = .inside := if_pos quote
          refine next ?_ h
          rw [opens]
          exact .inside
        · rw [if_neg quote] at h
          have still : Quoting.outside.after c = .outside := if_neg quote
          rw [still] at next
          have on : Passing 0 false rest .outside := .outside (by simp)
          split at h
          · exact next on h
          · exact next on h
          · split at h
            · rename_i op found
              rcases List.mem_cons.1 h with rfl | later
              · exact here
              · exact next (.outside (quoteless_of_find? found)) later
            · exact next on h

theorem exists_level_of_split? {cs : List Char} {s : Split} (h : split? cs = some s) :
    ∃ level, s ∈ splits level cs := by
  obtain ⟨level, -, found⟩ := List.exists_of_findSome?_eq_some h
  refine ⟨level, ?_⟩
  split at found
  · exact List.mem_of_getLast? found
  · exact List.mem_of_head? found

theorem text_of_split? {cs : List Char} {s : Split} (h : split? cs = some s) :
    cs = s.left ++ (s.op.chars ++ s.right) := by
  rcases exists_level_of_split? h with ⟨level, member⟩
  exact text_of_mem_splitsFrom member

/-- The operands lie on the two sides of the operator. -/
theorem laid_operands {cs : List Char} {s : Split} (h : split? cs = some s) :
    Laid [s.left, s.right] cs ∧ IsClosed s.left := by
  rcases exists_level_of_split? h with ⟨level, member⟩
  have whole := text_of_split? h
  constructor
  · rw [whole]
    have right := (Laid.single s.right).front (.op s.op)
    have breaks : Breaks (s.op.chars ++ s.right) := by
      cases s.op <;> exact breaks_of_mark rfl
    simpa using (Laid.single s.left).append breaks right
  · exact isClosed_left_of_mem_splitsFrom (.outside (by simp)) member

/-! ## Arguments -/

theorem laid_splitArgsFrom (depth : Int) (quoted : Bool) (previous : Char) (piece cs : List Char) :
    Laid (splitArgsFrom depth quoted previous piece cs) (piece.reverse ++ cs) := by
  induction cs generalizing depth quoted previous piece with
  | nil =>
    rw [splitArgsFrom, List.append_nil]
    split
    · rename_i blank
      exact .gap (.of_blank (by rwa [List.all_reverse]))
    · exact .single _
  | cons c rest ih =>
    rw [splitArgsFrom]
    split
    · rename_i comma
      simp only [Bool.and_eq_true, beq_iff_eq] at comma
      obtain rfl := comma.1.1
      have behind := (ih (depthAfter depth quoted ',') (quotedAfter quoted previous ',') ',' []).front
        (.mark (c := ',') rfl .nil)
      exact (Laid.single piece.reverse).append (breaks_of_mark rfl) behind
    · simpa using ih (depthAfter depth quoted c) (quotedAfter quoted previous c) c (c :: piece)

theorem laid_splitArgs (cs : List Char) : Laid (splitArgs cs) cs :=
  laid_splitArgsFrom 0 false ' ' [] cs

/-- An argument that is followed by another one ends where no literal is taken to be open. -/
theorem fst_through_of_mem_splitArgsFrom {depth : Int} {start previous : Char} {quoted : Bool}
    {piece cs arg : List Char}
    (state : Glance.through (false, start) piece.reverse = (quoted, previous))
    (member : arg ∈ (splitArgsFrom depth quoted previous piece cs).dropLast) :
    (Glance.through (false, ' ') arg).1 = false := by
  induction cs generalizing depth start previous quoted piece with
  | nil =>
    rw [splitArgsFrom] at member
    split at member <;> cases member
  | cons c rest ih =>
    rw [splitArgsFrom] at member
    split at member
    · rename_i comma
      simp only [Bool.and_eq_true, beq_iff_eq, Bool.not_eq_true'] at comma
      obtain rfl := comma.1.1
      have outside : quoted = false := by
        cases quoted with
        | false => rfl
        | true => exact absurd comma.2 (by simp [quotedAfter])
      subst outside
      rcases mem_dropLast_cons member with rfl | later
      · rw [Glance.through_outside_congr ' ' start, state]
      · have begun : Glance.through (false, ',') [].reverse = (false, ',') := rfl
        exact ih begun later
    · have more : Glance.through (false, start) (c :: piece).reverse =
          (quotedAfter quoted previous c, c) := by
        rw [List.reverse_cons, Glance.through_append, state]
        rfl
      exact ih more member

theorem fst_through_of_mem_splitArgs {cs arg : List Char} (member : arg ∈ (splitArgs cs).dropLast) :
    (Glance.through (false, ' ') arg).1 = false := by
  have begun : Glance.through (false, ' ') [].reverse = (false, ' ') := rfl
  exact fst_through_of_mem_splitArgsFrom begun member

/-! ## Ranges -/

/-- No range stands in a string literal. -/
def RangesOutside (cs : List Char) : Prop :=
  ∀ left right, cs = left ++ '.' :: '.' :: right → IsClosed left

theorem RangesOutside.right {front cs : List Char} (closed : IsClosed front)
    (h : RangesOutside (front ++ cs)) : RangesOutside cs := by
  rintro left right rfl
  exact closed.append_iff.1 (h (front ++ left) right (by simp))

theorem RangesOutside.left {cs behind : List Char} (h : RangesOutside (cs ++ behind)) :
    RangesOutside cs := by
  rintro left right rfl
  exact h left (right ++ behind) (by simp)

/-- The pieces between the signs of ranges, without those of blanks. -/
def boundsFrom (pass : Nat) (piece cs : List Char) : List (List Char) :=
  (Text.splitOnFrom ['.', '.'] pass piece cs).filter fun bound => !bound.all Text.isBlank

/-- A piece of blanks is none. -/
theorem boundsFrom_nil (piece : List Char) :
    boundsFrom 0 piece [] = if piece.all Text.isBlank then [] else [piece.reverse] := by
  rw [boundsFrom, Text.splitOnFrom, List.filter_singleton, List.all_reverse]
  cases piece.all Text.isBlank <;> rfl

theorem boundsFrom_range (piece rest : List Char) :
    boundsFrom 0 piece ('.' :: '.' :: rest) = boundsFrom 0 piece [] ++ boundsFrom 0 [] rest := by
  have sign : ['.', '.'].isPrefixOf ('.' :: '.' :: rest) = true := rfl
  rw [boundsFrom, Text.splitOnFrom, if_pos sign, ← List.singleton_append, List.filter_append]
  rfl

theorem Laid.bound {bounds : List (List Char)} {behind : List Char} (h : Laid bounds behind)
    (apart : Breaks behind) (piece : List Char) :
    Laid (boundsFrom 0 piece [] ++ bounds) (piece.reverse ++ behind) := by
  rw [boundsFrom_nil]
  split
  · rename_i blank
    exact h.front (.of_blank (by rwa [List.all_reverse]))
  · exact (Laid.single piece.reverse).append apart h

/-- The bounds of a range lie on the two sides of its sign. -/
theorem laid_boundsFrom (piece cs : List Char) :
    Laid (boundsFrom 0 piece cs) (piece.reverse ++ cs) ∧
      (RangesOutside (piece.reverse ++ cs) →
        ∀ bound ∈ (boundsFrom 0 piece cs).dropLast, IsClosed bound) := by
  -- By induction on the length, since the sign of a range is passed over at once.
  induction size : cs.length using Nat.strongRecOn generalizing piece cs with
  | ind n ih =>
    cases cs with
    | nil =>
      constructor
      · simpa using (Laid.gap .nil).bound (.inl rfl) piece
      · intro _ bound member
        rw [boundsFrom_nil] at member
        split at member <;> cases member
    | cons c rest =>
      subst size
      by_cases found : ['.', '.'] <+: c :: rest
      · rcases found with ⟨behind, whole⟩
        obtain ⟨rfl, rfl⟩ : '.' = c ∧ '.' :: behind = rest := List.cons.inj whole
        have shorter : behind.length < ('.' :: '.' :: behind).length := by
          simp only [List.length_cons]
          omega
        obtain ⟨laid, closed⟩ := ih behind.length shorter [] behind rfl
        rw [boundsFrom_range]
        refine ⟨(laid.front (.range .nil)).bound (.inr (.inr ⟨_, rfl⟩)) piece, ?_⟩
        intro ranges bound member
        have front : IsClosed piece.reverse := ranges piece.reverse behind rfl
        have more : RangesOutside behind := by
          have sign : IsClosed (piece.reverse ++ ['.', '.']) :=
            front.append_iff.2 (isClosed_of_quoteless (by simp))
          exact RangesOutside.right sign (by simpa using ranges)
        rw [boundsFrom_nil] at member
        split at member
        · exact closed more bound member
        · rcases mem_dropLast_cons member with rfl | later
          · exact front
          · exact closed more bound later
      · have next : boundsFrom 0 piece (c :: rest) = boundsFrom 0 (c :: piece) rest := by
          rw [boundsFrom, Text.splitOnFrom, if_neg (by simpa using found), boundsFrom]
        have step := ih rest.length (by simp) (c :: piece) rest rfl
        rw [next]
        simpa using step

/-- The bounds of an index lie in the text between its brackets. -/
theorem laid_boundsOf (inner : List Char) : Laid (boundsOf inner) inner ∧
    (RangesOutside inner → ∀ bound ∈ (boundsOf inner).dropLast, IsClosed bound) :=
  laid_boundsFrom [] inner

/-! ## Brackets at the end -/

/-- At the place an opening bracket stands outside string literals, which a bracket closes. -/
structure IsOpener (cs : List Char) (closer : Char) (place : Nat) : Prop where
  bracket : ∃ opener, cs[place]? = some opener ∧ closerOf? opener = some closer
  outside : (Glance.through (false, ' ') (cs.take place)).1 = false

theorem isOpener_of_openerOfLastFrom {opened : List (Char × Nat)} {quoted : Bool} {previous : Char}
    {front rest : List Char} {place : Nat}
    (state : Glance.through (false, ' ') front = (quoted, previous))
    (known : ∀ entry ∈ opened, IsOpener (front ++ rest) entry.1 entry.2 ∧ entry.2 < front.length)
    (h : openerOfLastFrom opened quoted previous front.length rest = some place) :
    IsOpener (front ++ rest) ']' place ∧ place < front.length + rest.length - 1 ∧
      rest.getLast? = some ']' ∧ (Glance.through (false, ' ') (front ++ rest)).1 = false := by
  induction rest generalizing opened quoted previous front with
  | nil => cases h
  | cons c rest ih =>
    have whole : front ++ c :: rest = front ++ [c] ++ rest := by simp
    have size : (front ++ [c]).length = front.length + 1 := List.length_append
    have state' : Glance.through (false, ' ') (front ++ [c]) =
        (quotedAfter quoted previous c, c) := by
      rw [Glance.through_append, state]
      rfl
    have here : (front ++ c :: rest)[front.length]? = some c := by simp
    -- The state behind the character decides about everything that follows it.
    have next : ∀ {opened : List (Char × Nat)},
        (∀ entry ∈ opened, IsOpener (front ++ c :: rest) entry.1 entry.2 ∧
          entry.2 < front.length + 1) →
        openerOfLastFrom opened (quotedAfter quoted previous c) c (front.length + 1) rest =
          some place →
        IsOpener (front ++ c :: rest) ']' place ∧
          place < front.length + (c :: rest).length - 1 ∧ (c :: rest).getLast? = some ']' ∧
          (Glance.through (false, ' ') (front ++ c :: rest)).1 = false := by
      intro opened known h
      rw [whole] at known ⊢
      rw [← size] at known h
      obtain ⟨opener, before, last, closed⟩ := ih state' known h
      refine ⟨opener, by rw [size] at before; simp only [List.length_cons]; omega, ?_, closed⟩
      rw [List.getLast?_cons, last]
      rfl
    have later : ∀ entry ∈ opened, IsOpener (front ++ c :: rest) entry.1 entry.2 ∧
        entry.2 < front.length + 1 :=
      fun entry member => ⟨(known entry member).1, Nat.lt_succ_of_lt (known entry member).2⟩
    unfold openerOfLastFrom at h
    dsimp only at h
    split at h
    · exact next later h
    · rename_i plain
      simp only [Bool.or_eq_true, beq_iff_eq, not_or, Bool.not_eq_true] at plain
      obtain ⟨rfl, quote⟩ := plain
      cases opens : closerOf? c with
      | some closer =>
        simp only [opens] at h
        refine next (List.forall_mem_cons.2 ⟨⟨⟨⟨c, here, opens⟩, ?_⟩, Nat.lt_succ_self _⟩, later⟩) h
        rw [List.take_left, state]
      | none =>
        simp only [opens] at h
        cases opened with
        | nil => exact next later h
        | cons entry outer =>
          rcases entry with ⟨closer, start⟩
          have others := fun entry member => later entry (List.mem_cons_of_mem (closer, start) member)
          dsimp only at h
          by_cases closes : c = closer
          · rw [if_pos (by simpa using closes)] at h
            by_cases ends : rest = [] ∧ c = ']'
            · obtain ⟨rfl, rfl⟩ := ends
              obtain rfl := closes
              obtain rfl : start = place := by simpa using h
              obtain ⟨opener, before⟩ := known _ List.mem_cons_self
              refine ⟨opener, by simpa using before, rfl, ?_⟩
              rw [state']
              rfl
            · rw [if_neg (by simpa using ends)] at h
              exact next others h
          · rw [if_neg (by simpa using closes)] at h
            exact next later h

theorem closer_of_square {opener : Char} (closes : closerOf? opener = some ']') : opener = '[' := by
  rcases closerOf?_cases closes with ⟨rfl, other⟩ | ⟨rfl, -⟩ | ⟨rfl, other⟩
  · exact absurd other (by decide)
  · rfl
  · exact absurd other (by decide)

/-- The text in front of the bracket and the text in it. -/
theorem eq_of_openerOfLast? {cs : List Char} {place : Nat} (h : openerOfLast? cs = some place) :
    cs = cs.take place ++ '[' :: ((cs.drop (place + 1)).dropLast ++ [']']) ∧
      place < cs.length - 1 ∧ (Glance.through (false, ' ') (cs.take place)).1 = false ∧
      (Glance.through (false, ' ') cs).1 = false := by
  have begun : Glance.through (false, ' ') [] = (false, ' ') := rfl
  obtain ⟨⟨⟨opener, here, closes⟩, outside⟩, before, last, closed⟩ :=
    isOpener_of_openerOfLastFrom begun (by simp) h
  simp only [List.nil_append, List.length_nil, Nat.zero_add] at here before outside closed
  obtain rfl := closer_of_square closes
  refine ⟨?_, before, outside, closed⟩
  have behind : (cs.drop (place + 1)).getLast? = some ']' := by
    rw [List.getLast?_drop, if_neg (by omega), last]
  obtain ⟨inner, whole⟩ := List.getLast?_eq_some_iff.1 behind
  have head : cs.drop place = '[' :: cs.drop (place + 1) := by
    rcases List.getElem?_eq_some_iff.1 here with ⟨short, same⟩
    rw [List.drop_eq_getElem_cons short, same]
  rw [whole, List.dropLast_concat]
  rw [whole] at head
  rw [← head, List.take_append_drop]

theorem getLast?_of_openerOfLast? {cs : List Char} {place : Nat}
    (h : openerOfLast? cs = some place) : cs.getLast? = some ']' := by
  have ends := (eq_of_openerOfLast? h).1.trans (List.append_assoc _ ('[' :: _) [']']).symm
  rw [ends, List.getLast?_concat]

/-! ## Constructs -/

/-- The text has no escaped quotes, and no ranges in string literals. -/
structure Plain (cs : List Char) : Prop where
  unescaped : Unescaped cs
  ranges : RangesOutside cs

/-- The parts in front of the last one end outside string literals, if the text is plain or all parts
are paired. -/
def CutOutside (cs : List Char) (parts : List (List Char)) : Prop :=
  (Plain cs ∨ ∀ part ∈ parts, Paired part) → ∀ part ∈ parts.dropLast, IsClosed part

namespace Laid

variable {pieces : List (List Char)} {cs piece : List Char}

theorem isInfix (h : Laid pieces cs) (member : piece ∈ pieces) : piece <:+: cs := by
  induction h with
  | gap => cases member
  | @piece lead first rest pieces _ _ _ ih =>
    rcases List.mem_cons.1 member with rfl | later
    · exact ⟨lead, rest, by simp⟩
    · have suffix : rest <:+ lead ++ (first ++ rest) := ⟨lead ++ first, by simp⟩
      exact (ih later).trans suffix.isInfix

/-- The parts of a plain text are plain, if none is cut off in a string literal. -/
theorem plain (h : Laid pieces cs) (closed : ∀ piece ∈ pieces.dropLast, IsClosed piece)
    (plain : Plain cs) (member : piece ∈ pieces) : Plain piece := by
  refine ⟨plain.unescaped.mono (h.isInfix member), ?_⟩
  have ranges := plain.ranges
  clear plain
  induction h with
  | gap => cases member
  | @piece lead first rest pieces front _ behind ih =>
    have inner := ranges.right (isClosed_of_quoteless front.quoteless)
    rcases List.mem_cons.1 member with rfl | later
    · exact inner.left
    · obtain ⟨second, more, rfl⟩ := List.exists_cons_of_ne_nil (List.ne_nil_of_mem later)
      have first' : IsClosed first := closed first List.mem_cons_self
      exact ih (fun part inside => closed part (List.mem_cons_of_mem first inside)) later
        (inner.right first')

/-- If a text of paired parts ends outside string literals, all its parts do. -/
theorem isClosed (h : Laid pieces cs) (paired : ∀ piece ∈ pieces, Paired piece) {previous : Char}
    (closed : (Glance.through (false, previous) cs).1 = false) (member : piece ∈ pieces) :
    IsClosed piece := by
  induction h generalizing previous with
  | gap => cases member
  | @piece lead first rest pieces front _ behind ih =>
    rw [List.forall_mem_cons] at paired
    rw [Glance.through_append, Glance.through_append] at closed
    have outside : (Glance.through (false, previous) lead).1 = false :=
      Glance.fst_through front.quoteless
    generalize Glance.through (false, previous) lead = glance at outside closed
    rcases glance with ⟨quoted, c⟩
    obtain rfl : quoted = false := outside
    rcases paired.1.isClosed_or_open c with ⟨still, ends⟩ | ⟨open', visible⟩
    · rcases List.mem_cons.1 member with rfl | later
      · exact ends
      · generalize Glance.through (false, c) first = glance at still closed
        rcases glance with ⟨quoted, d⟩
        obtain rfl : quoted = false := still
        exact ih paired.2 closed later
    · -- What is taken to be open stays open, but no literal is open behind the text.
      generalize Glance.through (false, c) first = glance at open' visible closed
      rcases glance with ⟨quoted, d⟩
      obtain rfl : quoted = true := open'
      have open'' := ((behind.paired paired.2).through_open visible).1
      rw [closed] at open''
      cases open''

end Laid

theorem cutOutside_splitArgs {cs ds : List Char} (part : cs <:+: ds) :
    CutOutside ds (splitArgs cs) := by
  intro legible arg member
  have inside := List.mem_of_mem_dropLast member
  have outside := fst_through_of_mem_splitArgs member
  rcases legible with plain | paired
  · exact isClosed_of_unescaped
      (plain.unescaped.mono (((laid_splitArgs cs).isInfix inside).trans part)) outside
  · exact (paired arg inside).isClosed outside

/-- What the outermost construct of a text says about the text. -/
inductive Shape.Covers (cs : List Char) : Shape → Prop where
  | unknown : Covers cs .unknown
  | bool {b : Bool} (written : cs = (if b then "true" else "false").toList) :
    Covers cs (.literal (.bool b))
  | integer {t : IntegerText} {n : Int} (written : integerText? cs = some t) :
    Covers cs (.literal (.int n))
  | string (quoted : isStringLiteral cs = true) : Covers cs (.literal (.text (String.ofList cs)))
  | path (isPath : isPath cs = true) : Covers cs (.path cs)
  | call {func behind : List Char} {args : List (List Char)} (whole : cs = func ++ '(' :: behind)
      (named : ∀ c ∈ func, isNamePart c = true) (laid : Laid args ('(' :: behind))
      (cut : CutOutside ('(' :: behind) args) : Covers cs (.call func args)
  | parts {shape : Shape} (laid : Laid shape.parts cs) (cut : CutOutside cs shape.parts) :
    Covers cs shape

theorem cutOutside_single (cs part : List Char) : CutOutside cs [part] := by
  intro _ other member
  cases member

theorem covers_index {base inner : List Char}
    (outside : (Glance.through (false, ' ') base).1 = false)
    (closed : (Glance.through (false, ' ') (base ++ '[' :: (inner ++ [']']))).1 = false) :
    (Shape.index base (boundsOf (Text.trim inner)) (Text.trim inner)).Covers
      (base ++ '[' :: (inner ++ [']'])) := by
  have bounds := laid_boundsOf (Text.trim inner)
  have around : ∀ {parts : List (List Char)}, Laid parts (Text.trim inner) →
      Laid (base :: parts) (base ++ '[' :: (inner ++ [']'])) := by
    intro parts laid
    have bracket : Laid parts ('[' :: (inner ++ [']'])) :=
      laid_between rfl rfl ((laid_trim inner).trans laid)
    exact (Laid.single base).append (breaks_of_mark rfl) bracket
  have laid := around bounds.1
  refine .parts laid ?_
  rintro (plain | paired) part member
  · have base' : IsClosed base :=
      isClosed_of_unescaped (plain.unescaped.mono (List.prefix_append base _).isInfix) outside
    rcases mem_dropLast_cons member with rfl | later
    · exact base'
    · -- The signs of ranges stand outside string literals, so they cut off closed bounds.
      have inner' : Plain (Text.trim inner) := by
        refine (around (.single (Text.trim inner))).plain ?_ plain (by simp)
        intro piece inside
        obtain rfl : piece = base := by simpa using inside
        exact base'
      exact bounds.2 inner'.ranges part later
  · exact laid.isClosed paired closed (List.mem_of_mem_dropLast member)

/-- The items of an array lie between its brackets. -/
theorem laid_array {cs : List Char} (h : openerOfLast? cs = some 0) :
    Laid (splitArgs (inside cs)) cs := by
  obtain ⟨whole, -⟩ := eq_of_openerOfLast? h
  have inner : (cs.drop 1).dropLast = inside cs := by rw [inside, List.drop_one]
  rw [List.take_zero, List.nil_append, inner] at whole
  have laid : Laid (splitArgs (inside cs)) ('[' :: (inside cs ++ [']'])) :=
    laid_between rfl rfl (laid_splitArgs (inside cs))
  rwa [← whole] at laid

/-- The base of an index is what stands in front of the bracket. -/
theorem take_dropLast_of_openerOfLast? {cs : List Char} {place : Nat}
    (h : openerOfLast? cs = some place) : cs.dropLast.take place = cs.take place := by
  obtain ⟨-, short, -⟩ := eq_of_openerOfLast? h
  rw [List.dropLast_eq_take, List.take_take, Nat.min_eq_left (Nat.le_of_lt short)]

theorem covers_bracketShape (cs : List Char) : (bracketShape cs).Covers cs := by
  unfold bracketShape
  split
  · exact .unknown
  · rename_i h
    have part : inside cs <:+: cs :=
      (List.dropLast_prefix _).isInfix.trans (List.tail_suffix cs).isInfix
    exact .parts (laid_array h) (cutOutside_splitArgs part)
  · rename_i place _ h
    obtain ⟨whole, -, outside, closed⟩ := eq_of_openerOfLast? h
    rw [whole] at closed
    have index := covers_index outside closed
    dsimp only
    rw [take_dropLast_of_openerOfLast? h]
    rwa [← whole] at index

theorem append_of_callParts? {cs func brackets : List Char}
    (parts : callParts? cs = some (func, brackets)) :
    cs = func ++ brackets ∧ ∀ c ∈ func, isNamePart c = true := by
  unfold callParts? at parts
  split at parts
  · obtain ⟨rfl, rfl⟩ := Prod.mk.inj (Option.some.inj parts)
    exact ⟨List.takeWhile_append_dropWhile.symm, List.all_eq_true.1 List.all_takeWhile⟩
  · cases parts

/-- A call is the name of the function with the arguments in round brackets behind it. -/
theorem eq_of_callParts? {cs func brackets : List Char}
    (parts : callParts? cs = some (func, brackets)) (closes : closesAtEnd brackets = true) :
    cs = func ++ '(' :: (inside brackets ++ [')']) ∧ ∀ c ∈ func, isNamePart c = true := by
  obtain ⟨rfl, named⟩ := append_of_callParts? parts
  obtain ⟨head, last⟩ := ends_of_closesAtEnd closes
  have whole := eq_of_ends head last (by decide)
  exact ⟨congrArg (func ++ ·) whole, named⟩

theorem laid_arguments (inner : List Char) : Laid (splitArgs inner) ('(' :: (inner ++ [')'])) :=
  laid_between rfl rfl (laid_splitArgs inner)

theorem covers_call {cs func brackets : List Char} (parts : callParts? cs = some (func, brackets))
    (closes : closesAtEnd brackets = true) :
    (Shape.call func (splitArgs (inside brackets))).Covers cs := by
  obtain ⟨whole, named⟩ := eq_of_callParts? parts closes
  have part : inside brackets <:+: '(' :: (inside brackets ++ [')']) := ⟨['('], [')'], by simp⟩
  exact .call whole named (laid_arguments (inside brackets)) (cutOutside_splitArgs part)

theorem covers_closedShape (cs : List Char) : (closedShape cs).Covers cs := by
  unfold closedShape
  split
  · rename_i c rest
    have laid := (Laid.single (c :: rest)).front (.mark (c := '!') rfl .nil)
    exact .parts laid (cutOutside_single _ _)
  · split
    · rename_i func brackets parts
      split
      · rename_i closes
        exact covers_call parts closes
      · exact covers_bracketShape cs
    · exact covers_bracketShape cs

theorem covers_openShape (cs : List Char) : (openShape cs).Covers cs := by
  unfold openShape
  split
  · rename_i quoted
    exact .string quoted
  · split
    · rename_i path
      exact .path path
    · split
      · rename_i s split
        obtain ⟨laid, left⟩ := laid_operands split
        refine .parts laid fun _ part member => ?_
        obtain rfl : part = s.left := List.mem_singleton.1 member
        exact left
      · exact covers_closedShape cs

/-- The outermost construct of a text accounts for all that is left of the text. -/
theorem covers_of_shapeOf {raw : List Char} {shape : Shape} (h : shapeOf raw = .ok shape) :
    shape.Covers (bare raw) := by
  unfold shapeOf at h
  dsimp only at h
  split at h
  · obtain rfl := Except.ok.inj h
    exact .unknown
  split at h
  · rename_i written
    obtain rfl := Except.ok.inj h
    exact .bool (b := true) written
  split at h
  · rename_i written
    obtain rfl := Except.ok.inj h
    exact .bool (b := false) written
  split at h
  · rename_i t written
    rcases map_eq_ok_iff.1 h with ⟨n, -, rfl⟩
    exact .integer written
  · obtain rfl := Except.ok.inj h
    exact covers_openShape (bare raw)

end Expr
end AccountAudit
