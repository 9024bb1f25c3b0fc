/-!
# Glob patterns

Patterns over whole texts: `*` stands for any run of characters, `?` for any one character, and
`[…]` for one character of a set, or with `[!…]` for one outside it. A pattern without `*`, `?` and
`[` matches itself alone. No character is special in the text: a run may cross slashes and line
feeds.

A set lists characters and ranges. A `]` right after the opening is an ordinary member, a hyphen at
either end too, and a `[` without its `]` stands for itself. A range that runs backwards has no
members.
-/

namespace AccountAudit
namespace Text
namespace Glob

/-- Either a character or a range of characters. -/
inductive Member where
  | one (c : Char)
  | range (first last : Char)
  deriving DecidableEq, Repr

def Member.holds : Member → Char → Bool
  | .one d, c => d == c
  | .range first last, c => first ≤ c && c ≤ last

/-- What one position of a pattern asks for. -/
inductive Token where
  | anyRun
  | anyOne
  | literal (c : Char)
  | oneOf (members : List Member)
  | noneOf (members : List Member)
  deriving DecidableEq, Repr

/-! ## Sets -/

/-- The text of a set up to its closing bracket, and what follows. -/
def closeSet : List Char → List Char → Option (List Char × List Char)
  | _, [] => none
  | inner, ']' :: rest => some (inner.reverse, rest)
  | inner, c :: rest => closeSet (c :: inner) rest

/-- Splits the text after `[` into the set and what follows it. A first `]`, also after `!`, does
not close the set. -/
def takeSet (cs : List Char) : Option (List Char × List Char) :=
  match cs with
  | '!' :: ']' :: rest => closeSet [']', '!'] rest
  | '!' :: rest => closeSet ['!'] rest
  | ']' :: rest => closeSet [']'] rest
  | _ => closeSet [] cs

/-- Cuts the text of a set at the hyphens that form ranges. A hyphen forms a range only if it is
neither among the `keep` characters in front nor so near to the last one that its range would
share an end with it. -/
def cutRanges : Nat → List Char → List Char → List (List Char)
  | _, chunk, [] => [chunk.reverse]
  | keep + 1, chunk, c :: rest => cutRanges keep (c :: chunk) rest
  | 0, chunk, '-' :: rest => chunk.reverse :: cutRanges 2 [] rest
  | 0, chunk, c :: rest => cutRanges 0 (c :: chunk) rest

/-- A hyphen at the end of the set is an ordinary member. -/
def joinLastHyphen : List (List Char) → List (List Char)
  | [] => []
  | [chunk, []] => [chunk ++ ['-']]
  | chunk :: rest => chunk :: joinLastHyphen rest

/-- Joins two neighbouring chunks whose range would run backwards, without its two ends. -/
def dropBackward : List (List Char) → List (List Char)
  | [] => []
  | chunk :: rest =>
    match dropBackward rest with
    | [] => [chunk]
    | next :: later =>
      match chunk.getLast?, next with
      | some first, last :: others =>
        if first > last then (chunk.dropLast ++ others) :: later else chunk :: next :: later
      | _, _ => chunk :: next :: later

/-- The members of chunks that are joined by ranges; `start` is the open end of the range that
leads into the next chunk. -/
def membersFrom : Option Char → List (List Char) → List Member
  | _, [] => []
  | start, [] :: rest => (start.map .one).toList ++ membersFrom none rest
  | start, (c :: cs) :: rest =>
    let opening := match start with
      | some first => .range first c
      | none => .one c
    let inner := (cs.dropLast).map .one
    let ending := match cs.getLast?, rest with
      | some last, [] => [.one last]
      | _, _ => []
    match start, cs, rest with
    | none, [], _ :: _ => membersFrom (some c) rest
    | _, _, _ => opening :: (inner ++ ending ++ membersFrom cs.getLast? rest)

/-- What a set asks for. An empty set has no members, and an empty complement takes any one. -/
def setToken (inner : List Char) : Token :=
  let keep := if inner.head? = some '!' then 2 else 1
  let chunks :=
    if '-' ∈ inner then dropBackward (joinLastHyphen (cutRanges keep [] inner)) else [inner]
  match chunks with
  | [['!']] => .anyOne
  | ('!' :: chunk) :: rest => .noneOf (membersFrom none (chunk :: rest))
  | _ => .oneOf (membersFrom none chunks)

/-! ## Patterns -/

theorem closeSet_length {inner cs set rest : List Char} (h : closeSet inner cs = some (set, rest)) :
    rest.length < cs.length := by
  fun_induction closeSet inner cs with
  | case1 => simp at h
  | case2 inner rest' =>
    simp only [Option.some.injEq, Prod.mk.injEq] at h
    simp [h.2]
  | case3 inner c rest' _ ih =>
    have := ih h
    simp only [List.length_cons]
    omega

theorem takeSet_length {cs set rest : List Char} (h : takeSet cs = some (set, rest)) :
    rest.length < cs.length := by
  unfold takeSet at h
  split at h <;> have := closeSet_length h <;> simp_all <;> omega

/-- The tokens of a pattern. -/
def tokens : List Char → List Token
  | [] => []
  | '*' :: rest => .anyRun :: tokens rest
  | '?' :: rest => .anyOne :: tokens rest
  | '[' :: rest =>
    match _h : takeSet rest with
    | some (inner, later) => setToken inner :: tokens later
    | none => .literal '[' :: tokens rest
  | c :: rest => .literal c :: tokens rest
termination_by cs => cs.length
decreasing_by
  all_goals simp_wf
  have := takeSet_length _h
  omega

/-! ## Matching -/

/-- Some end of the text has the property. -/
def someEnd (p : List Char → Bool) : List Char → Bool
  | [] => p []
  | c :: rest => p (c :: rest) || someEnd p rest

/-- The tokens account for the whole text. -/
def accepts : List Token → List Char → Bool
  | [], cs => cs.isEmpty
  | .anyRun :: more, cs => someEnd (accepts more) cs
  | .anyOne :: more, cs => match cs with
    | [] => false
    | _ :: rest => accepts more rest
  | .literal d :: more, cs => match cs with
    | [] => false
    | c :: rest => c == d && accepts more rest
  | .oneOf members :: more, cs => match cs with
    | [] => false
    | c :: rest => members.any (·.holds c) && accepts more rest
  | .noneOf members :: more, cs => match cs with
    | [] => false
    | c :: rest => !members.any (·.holds c) && accepts more rest

/-- The pattern matches the whole text. -/
def matchesText (pattern text : String) : Bool :=
  accepts (tokens pattern.toList) text.toList

end Glob
end Text
end AccountAudit
