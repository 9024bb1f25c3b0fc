import AccountAudit.Expr.Path
import AccountAudit.Proofs.Expr.Layout
import AccountAudit.Proofs.Text.Identifier
import AccountAudit.Proofs.Text.Split

/-!
# Mentions of an account

An account is mentioned where its name stands as the first segment of a path, perhaps behind the way
through the instruction context (`MentionedAt`). When a text is taken apart, a mention in it stays in
one of the parts (`Laid.exists_mention`). In the end it lies in an atom, and the section on atoms says
what becomes of it there: a path starts at the account, an integer holds no mention, and in a string
literal the mention lies between its quotes.
-/

namespace AccountAudit
namespace Expr

/-! ## Mentions -/

/-- The way to the accounts through the instruction context. -/
def contextWay : List Char :=
  "ctx.accounts.".toList

/-- Words that are no names of accounts where they stand in an expression. -/
def reserved : List (List Char) :=
  ["ctx", "accounts", "true", "false", "mut"].map String.toList

/-- An identifier that can be the name of an account in an expression. -/
structure IsAccountName (name : List Char) : Prop where
  head : ∃ c rest, name = c :: rest ∧ Text.startsWord c = true
  word : ∀ c ∈ name, Text.isWord c = true
  free : name ∉ reserved

/-- A first segment may stand behind the text: the text does not end in a word, with a module or with
what a field belongs to. -/
structure BeforeFirst (before : List Char) : Prop where
  word : ∀ c, [c] <:+ before → Text.isWord c = false
  module : ¬ [':', ':'] <:+ before
  field : ∀ c, [c, '.'] <:+ before → c = '.'

/-- A first segment may stand in front of the text: the word does not go on, and it is not the name of
a module or of a function or the mark of a byte string. -/
structure AfterFirst (after : List Char) : Prop where
  word : ∀ c, [c] <+: after → Text.isWord c = false
  module : ¬ [':', ':'] <+: after
  function : ¬ ['('] <+: after
  bytes : ¬ ['"'] <+: after

/-- The account is mentioned in the text between `before` and `after`. -/
structure MentionedAt (name cs before after : List Char) : Prop where
  written : ∃ way, (way = [] ∨ way = contextWay) ∧ cs = before ++ (way ++ name ++ after)
  front : BeforeFirst before
  behind : AfterFirst after

theorem BeforeFirst.suffix {before front : List Char} (h : BeforeFirst before)
    (part : front <:+ before) : BeforeFirst front :=
  ⟨fun c last => h.word c (last.trans part), fun last => h.module (last.trans part),
    fun c last => h.field c (last.trans part)⟩

theorem AfterFirst.mono {after behind : List Char} (h : AfterFirst after)
    (part : behind <+: after) : AfterFirst behind :=
  ⟨fun c first => h.word c (first.trans part), fun first => h.module (first.trans part),
    fun first => h.function (first.trans part), fun first => h.bytes (first.trans part)⟩

/-! ## Words joined by points -/

/-- Word characters, and points with a word behind each. -/
inductive Dotted : List Char → Prop where
  | nil : Dotted []
  | word {c : Char} {cs : List Char} (word : Text.isWord c = true) (rest : Dotted cs) :
    Dotted (c :: cs)
  | point {c : Char} {cs : List Char} (word : Text.isWord c = true) (rest : Dotted (c :: cs)) :
    Dotted ('.' :: c :: cs)

namespace Dotted

variable {cs ds : List Char}

theorem of_words (words : ∀ c ∈ cs, Text.isWord c = true) : Dotted cs := by
  induction cs with
  | nil => exact .nil
  | cons c rest ih =>
    rw [List.forall_mem_cons] at words
    exact .word words.1 (ih words.2)

theorem right (h : Dotted (cs ++ ds)) : Dotted ds := by
  induction cs with
  | nil => exact h
  | cons c rest ih =>
    rw [List.cons_append] at h
    generalize shape : rest ++ ds = tail at h ih
    cases h with
    | word _ rest => exact ih rest
    | point _ rest => exact ih rest

/-- Such a text goes on with what stands in front of it. -/
theorem not_breaks (h : Dotted cs) (some : cs ≠ []) (behind : List Char) :
    ¬ Breaks (cs ++ behind) := by
  have notMark : ∀ {c : Char}, Text.isWord c = true → isMark c = false := by
    intro c word
    by_contra mark
    rw [isWord_of_isMark (by simpa using mark)] at word
    cases word
  cases h with
  | nil => exact absurd rfl some
  | @word c cs word _ =>
    rintro (none | ⟨d, rest, same, mark⟩ | ⟨rest, same⟩)
    · cases none
    · obtain rfl : c = d := (List.cons.inj same).1
      rw [notMark word] at mark
      cases mark
    · obtain rfl : c = '.' := (List.cons.inj same).1
      exact absurd word (by decide)
  | @point c cs word _ =>
    rintro (none | ⟨d, rest, same, mark⟩ | ⟨rest, same⟩)
    · cases none
    · obtain rfl : '.' = d := (List.cons.inj same).1
      exact absurd mark (by decide)
    · obtain rfl : c = '.' := (List.cons.inj (List.cons.inj same).2).1
      exact absurd word (by decide)

end Dotted

theorem takeWhile_isWord_append {word rest : List Char} {c : Char}
    (words : ∀ d ∈ word, Text.isWord d = true) (stops : Text.isWord c = false) :
    (word ++ c :: rest).takeWhile Text.isWord = word := by
  rw [List.takeWhile_append_of_pos words, List.takeWhile_cons, stops]
  simp

namespace IsAccountName

variable {name way : List Char}

theorem dotted (h : IsAccountName name) (known : way = [] ∨ way = contextWay) :
    Dotted (way ++ name) := by
  have words := Dotted.of_words h.word
  rcases known with rfl | rfl
  · exact words
  · rcases h.head with ⟨c, rest, rfl, starts⟩
    have path : Dotted ('.' :: c :: rest) := .point (isWord_of_startsWord starts) words
    have accounts : Dotted ("accounts".toList ++ '.' :: c :: rest) := by
      repeat' first | exact path | refine Dotted.word (by decide) ?_
    have context : Dotted ("ctx".toList ++ '.' :: ("accounts".toList ++ '.' :: c :: rest)) := by
      repeat' first | exact .point (by decide) accounts | refine Dotted.word (by decide) ?_
    exact context

theorem head_way (h : IsAccountName name) (known : way = [] ∨ way = contextWay) :
    ∃ c rest, way ++ name = c :: rest ∧ Text.startsWord c = true := by
  rcases known with rfl | rfl
  · exact h.head
  · exact ⟨'c', _, rfl, by decide⟩

/-- The name is all of the word that starts where it starts. -/
theorem takeWhile_isWord (h : IsAccountName name) {after : List Char} (behind : AfterFirst after) :
    (name ++ after).takeWhile Text.isWord = name := by
  rw [List.takeWhile_append_of_pos h.word]
  cases after with
  | nil => simp
  | cons c rest =>
    have stops := behind.word c (List.prefix_append [c] rest)
    simp [stops]

end IsAccountName

/-! ## Mentions in parts of a text -/

namespace MentionedAt

variable {name cs before after lead piece rest : List Char}

/-- A mention at the start of a text starts with a name. -/
theorem head (h : MentionedAt name cs [] after) (isName : IsAccountName name) :
    ∃ c rest, cs = c :: rest ∧ Text.startsWord c = true := by
  obtain ⟨way, known, rfl⟩ := h.written
  rcases isName.head_way known with ⟨c, rest, start, starts⟩
  exact ⟨c, rest ++ after, by rw [List.nil_append, start, List.cons_append], starts⟩

/-- What stands in front of a mention can be left out. -/
theorem tail {c d : Char} (h : MentionedAt name (c :: cs) (d :: before) after) :
    c = d ∧ MentionedAt name cs before after := by
  obtain ⟨way, known, written⟩ := h.written
  rw [List.cons_append, List.cons.injEq] at written
  exact ⟨written.1, ⟨way, known, written.2⟩, h.front.suffix (List.suffix_cons d before), h.behind⟩

theorem drop {front : List Char} (h : MentionedAt name (front ++ cs) (front ++ before) after) :
    MentionedAt name cs before after := by
  induction front with
  | nil => exact h
  | cons c front ih => exact ih h.tail.2

/-- No account is mentioned in the sign of a mutably borrowed value. -/
theorem not_in_sign (h : MentionedAt name ('m' :: 'u' :: 't' :: ' ' :: cs) [] after)
    (isName : IsAccountName name) : False := by
  obtain ⟨way, rfl | rfl, written⟩ := h.written
  · have word : ('m' :: 'u' :: 't' :: ' ' :: cs).takeWhile Text.isWord = name := by
      rw [written]
      exact isName.takeWhile_isWord h.behind
    have sign : (['m', 'u', 't'] ++ ' ' :: cs).takeWhile Text.isWord = ['m', 'u', 't'] :=
      takeWhile_isWord_append (List.all_eq_true.1 (by decide)) (by decide)
    rw [List.cons_append, List.cons_append, List.cons_append, List.nil_append] at sign
    exact isName.free (by rw [← word, sign]; decide)
  · have first : 'm' = 'c' := (List.cons.inj written).1
    exact absurd first (by decide)

/-- No account is mentioned in a gap. -/
theorem behind_gap (h : MentionedAt name (lead ++ cs) before after) (gap : Gap lead)
    (isName : IsAccountName name) : ∃ b, before = lead ++ b ∧ MentionedAt name cs b after := by
  -- By induction on the gap: the mention starts at none of its characters.
  have notHere : ∀ {c : Char} {cs : List Char}, Text.startsWord c = false →
      ¬ MentionedAt name (c :: cs) [] after := by
    intro c cs other h
    rcases h.head isName with ⟨d, rest, same, starts⟩
    obtain rfl : c = d := (List.cons.inj same).1
    rw [other] at starts
    cases starts
  have noStart : ∀ {c : Char}, isMark c = true → Text.startsWord c = false := by
    intro c mark
    by_contra starts
    have word := isWord_of_startsWord (c := c) (by simpa using starts)
    rw [isWord_of_isMark mark] at word
    cases word
  induction gap generalizing before with
  | nil => exact ⟨before, rfl, h⟩
  | @mark c lead mark _ ih =>
    cases before with
    | nil => exact absurd h (notHere (noStart mark))
    | cons d before =>
      obtain ⟨rfl, next⟩ := h.tail
      rcases ih next with ⟨b, rfl, found⟩
      exact ⟨b, rfl, found⟩
  | @range lead _ ih =>
    cases before with
    | nil => exact absurd h (notHere (by decide))
    | cons d before =>
      obtain ⟨rfl, second⟩ := h.tail
      cases before with
      | nil => exact absurd second (notHere (by decide))
      | cons d before =>
        obtain ⟨rfl, next⟩ := second.tail
        rcases ih next with ⟨b, rfl, found⟩
        exact ⟨b, rfl, found⟩
  | @borrow lead _ ih =>
    have start : before <+: mutSign ++ lead ++ cs := by
      rcases h.written with ⟨way, -, written⟩
      exact ⟨way ++ name ++ after, written.symm⟩
    rw [List.append_assoc] at h start
    rcases List.prefix_or_prefix_of_prefix (List.prefix_append mutSign _) start with
      ⟨rest, rfl⟩ | part
    · rcases ih h.drop with ⟨b, rfl, found⟩
      exact ⟨b, (List.append_assoc ..).symm, found⟩
    · -- The sign starts with no name, and its letters belong to one word.
      have short := (List.mem_inits _ _).2 part
      have letters : ∀ c ∈ ['m', 'u', 't'], ¬ [c] <:+ before := by
        intro c letter last
        have table : ['m', 'u', 't'].all Text.isWord = true := by decide
        rw [List.all_eq_true] at table
        exact absurd (h.front.word c last) (by simp [table c letter])
      simp only [mutSign, List.inits, List.map_cons, List.map_nil, List.mem_cons,
        List.not_mem_nil, or_false] at short
      rcases short with rfl | rfl | rfl | rfl | rfl | rfl
      · exact absurd h (notHere (by decide))
      · exact absurd isName h.tail.2.not_in_sign
      · exact absurd (List.suffix_append ['&'] ['m']) (letters 'm' (by simp))
      · exact absurd (List.suffix_append ['&', 'm'] ['u']) (letters 'u' (by simp))
      · exact absurd (List.suffix_append ['&', 'm', 'u'] ['t']) (letters 't' (by simp))
      · have behind : MentionedAt name (mutSign ++ (lead ++ cs)) (mutSign ++ []) after := h
        rcases ih behind.drop with ⟨b, none, found⟩
        exact ⟨b, by simpa [mutSign] using none, found⟩

/-- A mention does not reach over the end of a piece. -/
theorem in_piece (h : MentionedAt name (piece ++ rest) before after) (apart : Breaks rest)
    (isName : IsAccountName name) :
    (∃ a, after = a ++ rest ∧ MentionedAt name piece before a) ∨
      ∃ b, before = piece ++ b ∧ MentionedAt name rest b after := by
  obtain ⟨⟨way, known, written⟩, front, behind⟩ := h
  rcases List.append_eq_append_iff.1 written with ⟨b, rfl, rfl⟩ | ⟨more, rfl, same⟩
  · exact .inr ⟨b, rfl, ⟨way, known, rfl⟩, front.suffix (List.suffix_append piece b), behind⟩
  · rcases List.append_eq_append_iff.1 same with ⟨a, rfl, rfl⟩ | ⟨cut, split, rfl⟩
    · exact .inl ⟨a, rfl, ⟨way, known, rfl⟩, front, behind.mono (List.prefix_append a rest)⟩
    · -- The rest would start in the mention.
      by_cases whole : cut = []
      · subst whole
        rw [List.append_nil] at split
        subst split
        exact .inl ⟨[], rfl, ⟨way, known, by simp⟩, front, behind.mono List.nil_prefix⟩
      · have dotted := isName.dotted known
        rw [split] at dotted
        exact absurd apart (dotted.right.not_breaks whole after)

end MentionedAt

/-- A mention lies in one of the parts of a text. -/
theorem Laid.exists_mention {pieces : List (List Char)} {name cs before after : List Char}
    (h : Laid pieces cs) (isName : IsAccountName name) (mention : MentionedAt name cs before after) :
    ∃ piece ∈ pieces, ∃ lead b a tail, before = lead ++ b ∧ after = a ++ tail ∧
      MentionedAt name piece b a ∧
      ((∀ part ∈ pieces.dropLast, IsClosed part) → IsClosed lead) := by
  induction h generalizing before with
  | @gap cs gap =>
    rw [← List.append_nil cs] at mention
    rcases mention.behind_gap gap isName with ⟨b, -, ⟨way, known, none⟩, -⟩
    rcases isName.head_way known with ⟨c, rest, start, -⟩
    simp [start] at none
  | @piece lead piece rest pieces front apart _ ih =>
    rcases mention.behind_gap front isName with ⟨b, rfl, found⟩
    rcases found.in_piece apart isName with ⟨a, rfl, here⟩ | ⟨b, rfl, later⟩
    · exact ⟨piece, List.mem_cons_self, lead, b, a, rest, rfl, rfl, here,
        fun _ => isClosed_of_quoteless front.quoteless⟩
    · rcases ih later with ⟨part, member, more, b, a, tail, rfl, rfl, here, closed⟩
      refine ⟨part, List.mem_cons_of_mem piece member, lead ++ (piece ++ more), b, a, tail,
        by simp, rfl, here, fun ends => ?_⟩
      obtain ⟨second, others, rfl⟩ := List.exists_cons_of_ne_nil (List.ne_nil_of_mem member)
      have first : IsClosed piece := ends piece List.mem_cons_self
      have gap : IsClosed lead := isClosed_of_quoteless front.quoteless
      exact gap.append_iff.2 (first.append_iff.2
        (closed fun part inside => ends part (List.mem_cons_of_mem piece inside)))

/-! ## Atoms -/

section Atoms

variable {name cs before after : List Char}

/-- Words that are mentioned as a whole are the name. -/
theorem MentionedAt.eq_of_words (h : MentionedAt name cs before after)
    (words : ∀ c ∈ cs, Text.isWord c = true) : cs = name := by
  obtain ⟨⟨way, known, rfl⟩, front, behind⟩ := h
  simp only [List.forall_mem_append] at words
  have noFront : before = [] := by
    by_contra some
    have last := front.word (before.getLast some)
      ⟨before.dropLast, List.dropLast_append_getLast some⟩
    rw [words.1 _ (List.getLast_mem some)] at last
    cases last
  have noWay : way = [] := by
    refine known.resolve_right ?_
    rintro rfl
    exact absurd (words.2.1.1 '.' (by decide)) (by decide)
  have noTail : after = [] := by
    cases after with
    | nil => rfl
    | cons c rest =>
      have first := behind.word c (List.prefix_append [c] rest)
      rw [words.2.2 c List.mem_cons_self] at first
      cases first
  rw [noFront, noWay, noTail]
  simp

theorem not_mentionedAt_bool {b : Bool} (written : cs = (if b then "true" else "false").toList)
    (isName : IsAccountName name) : ¬ MentionedAt name cs before after := by
  intro h
  have words : ∀ b : Bool, (if b then "true" else "false").toList.all Text.isWord = true := by decide
  have same := h.eq_of_words (written ▸ List.all_eq_true.1 (words b))
  have taken : ∀ b : Bool, (if b then "true" else "false").toList ∈ reserved := by decide
  exact isName.free (same ▸ written ▸ taken b)

/-- The digits of an integer may stand behind a sign. -/
theorem isDigit_of_integerText? {sign body : List Char} {c : Char} {t : IntegerText}
    (known : sign = [] ∨ sign = ['-']) (h : integerText? (sign ++ c :: body) = some t)
    (other : c ≠ '-') : Text.isDigit c = true := by
  by_contra noDigit
  have digit : Text.isDigit c = false := by simpa using noDigit
  have none : integerText? (c :: body) = none := integerText?_eq_none digit other
  rcases known with rfl | rfl
  · rw [List.nil_append, none] at h
    cases h
  · have first : ((c :: body).takeWhile (fun c => Text.isDigit c || c == '_')).head?.any
        Text.isDigit = false := by
      rw [List.takeWhile_cons]
      split <;> simp [digit]
    simp [integerText?, first] at h

theorem not_mentionedAt_integer {t : IntegerText} (written : integerText? cs = some t)
    (isName : IsAccountName name) : ¬ MentionedAt name cs before after := by
  intro h
  obtain ⟨sign, body, rfl, known, -, named⟩ := isNamed_of_integerText? written
  have gap : Gap sign := by
    rcases known with rfl | rfl
    · exact .nil
    · exact .mark rfl .nil
  rcases h.behind_gap gap isName with ⟨b, -, found⟩
  have words : ∀ c ∈ body, Text.isWord c = true := by
    intro c inside
    rcases Bool.or_eq_true_iff.1 (named c inside) with word | digit
    · exact word
    · exact Text.isWord_of_isDigit digit
  -- The body would be the name, but a name does not start with a digit.
  have same := found.eq_of_words words
  rcases isName.head with ⟨c, rest, shape, starts⟩
  rw [same, shape] at written
  have digit := isDigit_of_integerText? known written (ne_of_holds starts (by decide))
  rw [isDigit_of_startsWord starts] at digit
  cases digit

theorem paired_of_isStringLiteral (h : isStringLiteral cs = true) : Paired cs := by
  rcases exists_of_isStringLiteral h with ⟨mark, content, rfl, known, quoteless⟩
  have literal : Paired ('"' :: (content ++ ['"'])) := .literal quoteless .nil
  rcases known with rfl | rfl
  · exact literal
  · exact .char (by decide) (by decide) literal

/-- A mention in a text that starts with a quote lies behind the quote. -/
theorem MentionedAt.behind_quote (h : MentionedAt name ('"' :: cs) before after)
    (isName : IsAccountName name) : ∃ rest, before = '"' :: rest ∧ MentionedAt name cs rest after := by
  cases before with
  | nil =>
    rcases h.head isName with ⟨c, rest, same, starts⟩
    obtain rfl : '"' = c := (List.cons.inj same).1
    exact absurd starts (by decide)
  | cons c rest =>
    obtain ⟨rfl, found⟩ := h.tail
    exact ⟨rest, rfl, found⟩

/-- In front of a quote stands at most the mark of a byte string, which is no name. -/
theorem MentionedAt.behind_mark {mark : List Char} (known : mark = [] ∨ mark = ['b'])
    (h : MentionedAt name (mark ++ '"' :: cs) before after) (isName : IsAccountName name) :
    ∃ rest, before = mark ++ '"' :: rest ∧ MentionedAt name cs rest after := by
  rcases known with rfl | rfl
  · exact h.behind_quote isName
  · cases before with
    | nil =>
      obtain ⟨⟨way, rfl | rfl, written⟩, -, behind⟩ := h
      · rcases isName.head with ⟨c, more, rfl, -⟩
        obtain ⟨rfl, rest⟩ := List.cons.inj written
        cases more with
        | nil => exact absurd ⟨_, rest⟩ behind.bytes
        | cons d more =>
          obtain rfl : '"' = d := (List.cons.inj rest).1
          exact absurd (isName.word '"' (by simp)) (by decide)
      · exact absurd (List.cons.inj written).1 (by decide)
    | cons c before =>
      obtain ⟨rfl, found⟩ := h.tail
      rcases found.behind_quote isName with ⟨rest, rfl, inner⟩
      exact ⟨rest, rfl, inner⟩

/-- A mention ends in front of a quote at the end, so no quote stands in front of it. -/
theorem MentionedAt.quoteless_front {content : List Char} (quoteless : '"' ∉ content)
    (h : MentionedAt name (content ++ ['"']) before after) (isName : IsAccountName name) :
    '"' ∉ before := by
  obtain ⟨⟨way, known, written⟩, -, -⟩ := h
  rcases isName.head_way known with ⟨c, more, start, -⟩
  rcases List.append_eq_append_iff.1 written with ⟨extra, rfl, last⟩ | ⟨extra, rfl, -⟩
  · have none : extra = [] := by
      rcases List.cons_eq_append_iff.1 last with ⟨none, -⟩ | ⟨others, -, rest⟩
      · exact none
      · simp [start] at rest
    simpa [none] using quoteless
  · exact fun inside => quoteless (List.mem_append_left _ inside)

/-- In a string literal the account is mentioned between the quotes. -/
theorem not_isClosed_of_isStringLiteral (quoted : isStringLiteral cs = true)
    (isName : IsAccountName name) (h : MentionedAt name cs before after) : ¬ IsClosed before := by
  rcases exists_of_isStringLiteral quoted with ⟨mark, content, rfl, known, quoteless⟩
  rcases h.behind_mark known isName with ⟨rest, rfl, found⟩
  have front : IsClosed mark := by
    rcases known with rfl | rfl
    · exact isClosed_nil
    · exact isClosed_of_quoteless (by decide)
  have opened : Quoting.inside ≠ .outside := by simp
  have goesOn : Quoting.inside.through rest ≠ .outside :=
    Quoting.through_ne_outside opened (found.quoteless_front quoteless isName)
  rw [front.append_iff]
  exact goesOn

/-- What stands in front of a place in a path. -/
def Stands (front : List Char) : PathPlace → Prop
  | .start => front = [] ∨ ¬ BeforeFirst front
  | .name => ∃ c, [c] <:+ front ∧ Text.isWord c = true
  | .called => [')'] <:+ front

/-- In a path only the first name may be a first segment. -/
theorem eq_nil_of_isPathFrom {place : PathPlace} (isPath : isPathFrom place cs = true)
    {front b rest : List Char} {c : Char} (stands : Stands front place) (shape : cs = b ++ c :: rest)
    (word : Text.isWord c = true) (first : BeforeFirst (front ++ b)) : front ++ b = [] := by
  -- Each step of the path moves from `b` to what stands in front of the place.
  have point : Text.isWord '.' = false := by decide
  have colon : Text.isWord ':' = false := by decide
  fun_induction isPathFrom place cs generalizing front b with
  | case1 d cs ih =>
    rcases Bool.and_eq_true_iff.1 isPath with ⟨starts, more⟩
    cases b with
    | nil =>
      rw [List.append_nil] at first ⊢
      exact stands.resolve_right (not_not.2 first)
    | cons e b =>
      obtain ⟨rfl, rfl⟩ := List.cons.inj shape
      have next : Stands (front ++ [d]) .name :=
        ⟨d, List.suffix_append front [d], isWord_of_startsWord starts⟩
      simpa using ih more next rfl (by simpa using first)
  | case2 => cases isPath
  | case3 cs ih =>
    rcases b with - | ⟨d, - | ⟨e, b⟩⟩
    · obtain rfl := (List.cons.inj shape).1
      exact absurd word (by decide)
    · obtain rfl := (List.cons.inj (List.cons.inj shape).2).1
      exact absurd word (by decide)
    · obtain ⟨rfl, shape'⟩ := List.cons.inj shape
      obtain ⟨rfl, behind⟩ := List.cons.inj shape'
      have next : Stands (front ++ ['(', ')']) .called := ⟨front ++ ['('], by simp⟩
      simpa using ih isPath next behind (by simpa using first)
  | case4 place cs other ih =>
    rcases b with - | ⟨d, - | ⟨e, b⟩⟩
    · obtain rfl := (List.cons.inj shape).1
      rw [colon] at word
      cases word
    · obtain rfl := (List.cons.inj (List.cons.inj shape).2).1
      rw [colon] at word
      cases word
    · obtain ⟨rfl, shape'⟩ := List.cons.inj shape
      obtain ⟨rfl, behind⟩ := List.cons.inj shape'
      have next : Stands (front ++ [':', ':']) .start :=
        .inr fun module => module.module (List.suffix_append front [':', ':'])
      simpa using ih isPath next behind (by simpa using first)
  | case5 place cs other ih =>
    cases b with
    | nil =>
      obtain rfl := (List.cons.inj shape).1
      rw [point] at word
      cases word
    | cons d b =>
      obtain ⟨rfl, rfl⟩ := List.cons.inj shape
      -- A point behind a name or a call belongs to a field.
      have field : ∃ e, [e] <:+ front ∧ e ≠ '.' := by
        cases place with
        | start => exact absurd rfl other
        | name =>
          rcases stands with ⟨e, last, isWord⟩
          exact ⟨e, last, ne_of_holds isWord point⟩
        | called => exact ⟨')', stands, by decide⟩
      rcases field with ⟨e, ⟨before, rfl⟩, noPoint⟩
      have next : Stands (before ++ [e] ++ ['.']) .start :=
        .inr fun field => noPoint (field.field e ⟨before, by simp⟩)
      simpa using ih isPath next rfl (by simpa using first)
  | case6 d cs _ _ _ ih =>
    rcases Bool.and_eq_true_iff.1 isPath with ⟨isWord, more⟩
    cases b with
    | nil =>
      rcases stands with ⟨e, last, isWord'⟩
      rw [List.append_nil] at first
      rw [first.word e last] at isWord'
      cases isWord'
    | cons e b =>
      obtain ⟨rfl, rfl⟩ := List.cons.inj shape
      have next : Stands (front ++ [d]) .name := ⟨d, List.suffix_append front [d], isWord⟩
      simpa using ih more next rfl (by simpa using first)
  | case7 => cases isPath
  | case8 => simp at shape

/-- A path goes on behind a name. -/
theorem isPathFrom_append {word rest : List Char} (words : ∀ c ∈ word, Text.isWord c = true)
    (h : isPathFrom .name (word ++ rest) = true) : isPathFrom .name rest = true := by
  induction word with
  | nil => exact h
  | cons c word ih =>
    rw [List.forall_mem_cons] at words
    have round : c ≠ '(' := ne_of_holds words.1 (by decide)
    have colon : c ≠ ':' := ne_of_holds words.1 (by decide)
    have point : c ≠ '.' := ne_of_holds words.1 (by decide)
    refine ih words.2 ?_
    rw [List.cons_append] at h
    unfold isPathFrom at h
    split at h <;> simp_all

/-- Behind a first segment a path ends or goes on with a field. -/
theorem AfterFirst.eq_of_isPathFrom (behind : AfterFirst after)
    (h : isPathFrom .name after = true) : after = [] ∨ ∃ rest, after = '.' :: rest := by
  cases after with
  | nil => exact .inl rfl
  | cons c rest =>
    by_cases point : c = '.'
    · exact .inr ⟨rest, by rw [point]⟩
    · have function : ∀ more, c = '(' → rest = ')' :: more → False := by
        rintro more rfl -
        exact behind.function (List.prefix_append ['('] rest)
      have module : ∀ more, c = ':' → rest = ':' :: more → False := by
        rintro more rfl rfl
        exact behind.module (List.prefix_append [':', ':'] more)
      rw [isPathFrom, behind.word c (List.prefix_append [c] rest)] at h
      · cases h
      · exact function
      · exact module
      · exact point

theorem head?_splitOnFrom_point {word rest : List Char} (noPoint : '.' ∉ word)
    (ends : rest = [] ∨ ∃ more, rest = '.' :: more) (piece : List Char) :
    (Text.splitOnFrom ['.'] 0 piece (word ++ rest)).head? = some (piece.reverse ++ word) := by
  induction word generalizing piece with
  | nil =>
    rcases ends with rfl | ⟨more, rfl⟩
    · simp [Text.splitOnFrom]
    · simp [Text.splitOnFrom]
  | cons c word ih =>
    rw [List.mem_cons, not_or] at noPoint
    rw [List.cons_append, Text.splitOnFrom, if_neg (by simp [noPoint.1]), ih noPoint.2]
    simp

/-- The first segment of a path is its root. -/
theorem root_ofPath {way : List Char} (known : way = [] ∨ way = contextWay)
    (isName : IsAccountName name) (behind : AfterFirst after)
    (isPath : isPath (way ++ name ++ after) = true) :
    (ofPath (String.ofList (way ++ name ++ after))).root = String.ofList name := by
  have ends : after = [] ∨ ∃ rest, after = '.' :: rest := by
    have start : isPathFrom .start (name ++ after) = true := by
      rcases known with rfl | rfl
      · exact isPath
      · exact isPath
    rcases isName.head with ⟨c, rest, rfl, -⟩
    rw [List.cons_append, isPathFrom] at start
    have words := List.forall_mem_cons.1 isName.word
    exact behind.eq_of_isPathFrom (isPathFrom_append words.2 (Bool.and_eq_true_iff.1 start).2)
  have noPoint : '.' ∉ name := fun inside => absurd (isName.word '.' inside) (by decide)
  have dropped : Text.withoutStart contextWay (way ++ name ++ after) = name ++ after := by
    rcases known with rfl | rfl
    · rw [Text.withoutStart, if_neg]
      · rfl
      · rw [List.isPrefixOf_iff_prefix]
        rintro ⟨rest, same⟩
        have word := isName.takeWhile_isWord behind
        rw [List.nil_append] at same
        have context : ("ctx".toList ++ '.' :: ("accounts.".toList ++ rest)).takeWhile Text.isWord =
            "ctx".toList := takeWhile_isWord_append (List.all_eq_true.1 (by decide)) (by decide)
        have ctx : name = "ctx".toList := by rw [← word, ← same, ← context]; rfl
        exact isName.free (by rw [ctx]; decide)
    · simp [Text.withoutStart]
  have kept : Text.withoutEnd ['(', ')'] name = name := by
    rw [Text.withoutEnd, if_neg]
    rw [List.isSuffixOf_iff_suffix]
    rintro ⟨front, same⟩
    exact absurd (isName.word ')' (by rw [← same]; simp)) (by decide)
  have segments : segmentsOf (String.ofList (way ++ name ++ after)) =
      (Text.splitOn ['.'] (name ++ after)).map fun segment =>
        String.ofList (Text.withoutEnd ['(', ')'] segment) := by
    rw [segmentsOf, String.toList_ofList, String.toList_ofList]
    exact congrArg (fun path => (Text.splitOn ['.'] path).map _) dropped
  have first : (Text.splitOn ['.'] (name ++ after)).head? = some name :=
    head?_splitOnFrom_point noPoint ends []
  rcases List.head?_eq_some_iff.1 first with ⟨others, pieces⟩
  have shape : (ofPath (String.ofList (way ++ name ++ after))).segments =
      segmentsOf (String.ofList (way ++ name ++ after)) := rfl
  rw [root, shape, segments, pieces, List.map_cons, kept]
  rfl

/-- A path in which an account is mentioned starts at the account. -/
theorem root_of_mentionedAt (isPath : isPath cs = true) (isName : IsAccountName name)
    (h : MentionedAt name cs before after) : (ofPath (String.ofList cs)).root = String.ofList name := by
  obtain ⟨⟨way, known, rfl⟩, front, behind⟩ := h
  rcases isName.head_way known with ⟨c, rest, start, starts⟩
  have shape : before ++ (way ++ name ++ after) = before ++ c :: (rest ++ after) := by
    rw [start, List.cons_append]
  have start : Stands [] .start := .inl rfl
  have first : [] ++ before = [] := eq_nil_of_isPathFrom isPath start shape
    (isWord_of_startsWord starts) (by simpa using front)
  obtain rfl : before = [] := first
  exact root_ofPath known isName behind isPath

/-- The words of a text in which an account is mentioned include its name. -/
theorem mem_identifiersOf_of_mentionedAt {s : String} (isName : IsAccountName name)
    (h : MentionedAt name s.toList before after) :
    String.ofList name ∈ Text.identifiersOf s := by
  obtain ⟨⟨way, known, written⟩, front, behind⟩ := h
  have whole : s.toList = (before ++ way) ++ (name ++ after) := by simpa using written
  refine Text.mem_identifiersOf whole isName.head isName.word ?_ behind.word
  · rintro c last
    rcases known with rfl | rfl
    · exact front.word c (by simpa using last)
    · rcases last with ⟨lead, same⟩
      have way : before ++ contextWay = before ++ "ctx.accounts".toList ++ ['.'] := by
        rw [List.append_assoc]
        rfl
      rw [way] at same
      obtain rfl : c = '.' := by simpa using (List.append_inj' same rfl).2
      decide

end Atoms

end Expr
end AccountAudit
