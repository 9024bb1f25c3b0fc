import AccountAudit.Text.Basic

/-!
# Brackets and string literals

Expression text nests by three kinds of brackets, and brackets inside string literals do not count.
The functions of this module find where a bracket closes and cut a text at the commas outside
brackets. Text may be malformed: a bracket that nothing closes or opens changes what is found and
never stops the search.
-/

namespace AccountAudit
namespace Expr

/-- The bracket that closes an opening one. -/
def closerOf? : Char → Option Char
  | '(' => some ')'
  | '[' => some ']'
  | '\x7b' => some '\x7d'
  | _ => none

/-! ## Enclosing brackets -/

/-- The count of open round brackets after a character. -/
def roundDepth (depth : Nat) (c : Char) : Nat :=
  if c = '(' then depth + 1 else if c = ')' then depth - 1 else depth

/-- Some round bracket closes the outermost open one before the text ends. -/
def closesEarly (depth : Nat) : List Char → Bool
  | [] => false
  | c :: rest =>
    let depth := roundDepth depth c
    (depth == 0 && !rest.isEmpty) || closesEarly depth rest

/-- The text stands in round brackets that belong together. -/
def isEnclosed (cs : List Char) : Bool :=
  cs.head? == some '(' && cs.getLast? == some ')' && !closesEarly 0 cs

/-- The text without its first and its last character. -/
def inside (cs : List Char) : List Char :=
  cs.tail.dropLast

theorem length_inside_le (cs : List Char) : (inside cs).length ≤ cs.length - 1 := by
  simp [inside]

theorem length_inside_lt {cs : List Char} (h : cs ≠ []) : (inside cs).length < cs.length := by
  have := length_inside_le cs
  have : 0 < cs.length := List.length_pos_iff.2 h
  omega

theorem ne_nil_of_isEnclosed {cs : List Char} (h : isEnclosed cs = true) : cs ≠ [] := by
  rintro rfl
  simp [isEnclosed] at h

/-- Takes away up to `layers` pairs of enclosing round brackets, with the blanks inside them. -/
def stripLayers : Nat → List Char → List Char
  | 0, cs => cs
  | layers + 1, cs =>
    if isEnclosed cs then stripLayers layers (Text.trim (inside cs)) else cs

/-- The text without the round brackets around it. It has no more layers than characters. -/
def stripRound (cs : List Char) : List Char :=
  stripLayers cs.length cs

theorem length_trim_inside_lt {cs : List Char} (h : isEnclosed cs = true) :
    (Text.trim (inside cs)).length < cs.length :=
  Nat.lt_of_le_of_lt (Text.length_trim_le _) (length_inside_lt (ne_nil_of_isEnclosed h))

theorem length_stripLayers_le (layers : Nat) (cs : List Char) :
    (stripLayers layers cs).length ≤ cs.length := by
  fun_induction stripLayers layers cs with
  | case1 => exact Nat.le_refl _
  | case2 layers cs enclosed ih =>
    exact Nat.le_trans ih (Nat.le_of_lt (length_trim_inside_lt enclosed))
  | case3 => exact Nat.le_refl _

theorem length_stripRound_le (cs : List Char) : (stripRound cs).length ≤ cs.length :=
  length_stripLayers_le _ cs

/-- More layers than characters change nothing. -/
theorem stripLayers_of_length_le {layers : Nat} {cs : List Char} (h : cs.length ≤ layers) :
    stripLayers layers cs = stripRound cs := by
  unfold stripRound
  generalize hn : cs.length = n at h
  induction n using Nat.strongRecOn generalizing cs layers with
  | ind n ih =>
    by_cases enclosed : isEnclosed cs = true
    · have shorter := length_trim_inside_lt enclosed
      match layers, n with
      | 0, 0 => rfl
      | 0, _ + 1 => omega
      | _ + 1, 0 => omega
      | layers + 1, n + 1 =>
        simp only [stripLayers, enclosed, if_true]
        rw [ih _ (by omega) rfl (by omega), @ih _ (by omega) n _ rfl (by omega)]
    · cases layers <;> cases n <;> simp [stripLayers, enclosed]

/-- Enclosing brackets are taken away one pair after the other. -/
theorem stripRound_eq (cs : List Char) :
    stripRound cs = if isEnclosed cs then stripRound (Text.trim (inside cs)) else cs := by
  by_cases enclosed : isEnclosed cs = true
  · have shorter := length_trim_inside_lt enclosed
    rw [← stripLayers_of_length_le (Nat.le_succ cs.length)]
    simp only [stripLayers, enclosed, if_true]
    exact stripLayers_of_length_le (by omega)
  · rw [← stripLayers_of_length_le (Nat.le_succ cs.length)]
    simp [stripLayers, enclosed]

/-- The text starts with an opening round bracket and ends with the one that closes it. -/
def closesAtEnd (cs : List Char) : Bool :=
  cs.head? == some '(' && !closesEarly 0 cs && cs.foldl roundDepth 0 == 0

/-! ## Commas -/

/-- Whether a string literal is open after a character. A quote behind a backslash does not end
the literal. -/
def quotedAfter (quoted : Bool) (previous c : Char) : Bool :=
  if quoted then c != '"' || previous == '\\' else c == '"'

/-- How many brackets are open after a character, where `quoted` tells that it lies in a string
literal; an unexpected closing bracket makes the count negative. -/
def depthAfter (depth : Int) (quoted : Bool) (c : Char) : Int :=
  if quoted then depth
  else if (closerOf? c).isSome then depth + 1
  else if c = ')' ∨ c = ']' ∨ c = '\x7d' then depth - 1
  else depth

/-- Cuts a text at its outer commas; `piece` holds the piece being read, last character first. -/
def splitArgsFrom (depth : Int) (quoted : Bool) (previous : Char) (piece : List Char) :
    List Char → List (List Char)
  | [] => if piece.all Text.isBlank then [] else [piece.reverse]
  | c :: rest =>
    let depth := depthAfter depth quoted c
    let quoted := quotedAfter quoted previous c
    if c == ',' && depth == 0 && !quoted then
      piece.reverse :: splitArgsFrom depth quoted c [] rest
    else splitArgsFrom depth quoted c (c :: piece) rest

/-- The pieces between the commas outside brackets and string literals. A last piece of blanks is no
piece, so that a list may end with a comma. -/
def splitArgs (cs : List Char) : List (List Char) :=
  splitArgsFrom 0 false ' ' [] cs

theorem length_le_of_mem_splitArgsFrom {depth : Int} {quoted : Bool} {previous : Char}
    {piece cs a : List Char} (h : a ∈ splitArgsFrom depth quoted previous piece cs) :
    a.length ≤ piece.length + cs.length := by
  induction cs generalizing depth quoted previous piece with
  | nil =>
    simp only [splitArgsFrom] at h
    split at h <;> simp_all
  | cons c rest ih =>
    rw [splitArgsFrom] at h
    split at h
    · rcases List.mem_cons.1 h with rfl | h
      · simp
      · have := ih h
        simp only [List.length_nil, List.length_cons] at *
        omega
    · have := ih h
      simp only [List.length_cons] at *
      omega

theorem length_le_of_mem_splitArgs {cs a : List Char} (h : a ∈ splitArgs cs) :
    a.length ≤ cs.length := by
  simpa using length_le_of_mem_splitArgsFrom h

/-! ## A bracket at the end -/

/-- Looks for the opening bracket of the square bracket that ends the text; `index` is the place of
the next character, `opened` holds the open brackets, innermost first, each with the bracket that
closes it and its place. -/
def openerOfLastFrom (opened : List (Char × Nat)) (quoted : Bool) (previous : Char) (index : Nat) :
    List Char → Option Nat
  | [] => none
  | c :: rest =>
    let quotedNow := quotedAfter quoted previous c
    if quoted || c == '"' then openerOfLastFrom opened quotedNow c (index + 1) rest
    else
      match closerOf? c, opened with
      | some closer, _ => openerOfLastFrom ((closer, index) :: opened) quotedNow c (index + 1) rest
      | none, (closer, place) :: outer =>
        if c == closer then
          if rest.isEmpty && c == ']' then some place
          else openerOfLastFrom outer quotedNow c (index + 1) rest
        else openerOfLastFrom opened quotedNow c (index + 1) rest
      | none, [] => openerOfLastFrom opened quotedNow c (index + 1) rest

/-- The place of the square bracket that is closed by the last character of the text. -/
def openerOfLast? (cs : List Char) : Option Nat :=
  openerOfLastFrom [] false ' ' 0 cs

end Expr
end AccountAudit
