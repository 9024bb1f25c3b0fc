import AccountAudit.Program.TypeTag
import AccountAudit.Proofs.Expr.Token
import AccountAudit.Proofs.Text.Split
import AccountAudit.Proofs.Text.Trim

/-!
# Generic arguments of types

A type is a path of names, and may have generic arguments between angle brackets behind it: lifetimes,
and types, which may have generic arguments of their own (`IsType`). The type of the data in an account
should be the last argument that is a type, without its modules (`lastType?`).

It is found behind the last comma and the last double colon, whatever brackets are open there. So it is
that argument exactly if there is neither a comma nor a double colon inside
(`innerType?_eq_lastType?_iff`).
-/

namespace AccountAudit
namespace TypeTag

/-! ## The grammar -/

/-- The double colon between the names of a path. -/
def pathSep : List Char := [':', ':']

/-- A name in a path. -/
structure IsName (name : List Char) : Prop where
  ne_nil : name ≠ []
  words : ∀ c ∈ name, Text.isWord c = true

instance (name : List Char) : Decidable (IsName name) :=
  decidable_of_iff (name ≠ [] ∧ name.all Text.isWord = true)
    ⟨fun h => ⟨h.1, List.all_eq_true.1 h.2⟩, fun h => ⟨h.ne_nil, List.all_eq_true.2 h.words⟩⟩

/-- The modules in front of the head of a path. -/
def modulePath (modules : List (List Char)) : List Char :=
  modules.flatMap (· ++ pathSep)

/-- A generic argument as it is written, with what stands around it. -/
inductive Generic where
  | lifetime (front name back : List Char)
  | type (front text back : List Char)

namespace Generic

def written : Generic → List Char
  | lifetime front name back => front ++ '\'' :: name ++ back
  | type front text back => front ++ text ++ back

/-- The type that the argument is, if it is one. -/
def type? : Generic → Option (List Char)
  | lifetime _ _ _ => none
  | type _ text _ => some text

/-- There are blanks around the argument, and a lifetime is named. -/
def IsSpaced : Generic → Prop
  | lifetime front name back =>
    front.all Text.isBlank = true ∧ IsName name ∧ back.all Text.isBlank = true
  | type front _ back => front.all Text.isBlank = true ∧ back.all Text.isBlank = true

instance : DecidablePred IsSpaced
  | lifetime front name back => inferInstanceAs
      (Decidable (front.all Text.isBlank = true ∧ IsName name ∧ back.all Text.isBlank = true))
  | type front _ back => inferInstanceAs
      (Decidable (front.all Text.isBlank = true ∧ back.all Text.isBlank = true))

end Generic

/-- The arguments with commas between them. -/
def listed (args : List Generic) : List Char :=
  [','].intercalate (args.map Generic.written)

/-- The arguments between their angle brackets. -/
def bracketed (gap : List Char) (args : List Generic) : List Char :=
  gap ++ '<' :: (listed args ++ ['>'])

/-- The text is a type. -/
inductive IsType : List Char → Prop where
  | plain {modules : List (List Char)} {head : List Char} (names : ∀ name ∈ modules, IsName name)
      (named : IsName head) : IsType (modulePath modules ++ head)
  | generic {modules : List (List Char)} {head gap : List Char} {args : List Generic}
      (names : ∀ name ∈ modules, IsName name) (named : IsName head)
      (blank : gap.all Text.isBlank = true) (spaced : ∀ arg ∈ args, arg.IsSpaced)
      (types : ∀ arg ∈ args, ∀ text, arg.type? = some text → IsType text) :
      IsType (modulePath modules ++ (head ++ bracketed gap args))

/-- The tag is a type with these arguments, and there may be blanks around it. -/
structure HasGenerics (tag : String) (args : List Generic) : Prop where
  spaced : ∀ arg ∈ args, arg.IsSpaced
  types : ∀ arg ∈ args, ∀ text, arg.type? = some text → IsType text
  written : ∃ modules head gap, (∀ name ∈ modules, IsName name) ∧ IsName head ∧
    gap.all Text.isBlank = true ∧
    Text.trim tag.toList = modulePath modules ++ (head ++ bracketed gap args)

/-- A character of a path. -/
def isPathChar (c : Char) : Bool :=
  Text.isWord c || c == ':'

/-- The type without the modules in front of its head. -/
def withoutModules (text : List Char) : List Char :=
  lastName (text.takeWhile isPathChar) ++ text.dropWhile isPathChar

/-- The last argument that is no lifetime, without the modules in front of its head. -/
def lastType? (args : List Generic) : Option (List Char) :=
  (args.filterMap Generic.type?).getLast?.map withoutModules

/-! ## Paths -/

theorem colon_not_mem {name : List Char} (named : IsName name) : ':' ∉ name := fun inside =>
  absurd (named.words _ inside) (by decide)

/-- A path is cut behind its first name. -/
theorem pathSep_not_isInfix {name : List Char} (named : IsName name) :
    ¬ pathSep <:+: name ++ pathSep.dropLast := by
  intro inside
  have few := inside.sublist.count_le ':'
  rw [List.count_append, List.count_eq_zero.2 (colon_not_mem named)] at few
  exact absurd few (by decide)

/-- The last name of a path is the text behind the modules, if there is no further module path. -/
theorem lastName_modulePath {modules : List (List Char)} (names : ∀ name ∈ modules, IsName name)
    {text : List Char} (absent : ¬ pathSep <:+: text) :
    lastName (modulePath modules ++ text) = text := by
  induction modules with
  | nil => exact Text.lastPiece_of_not_isInfix absent
  | cons name modules ih =>
    rw [List.forall_mem_cons] at names
    have whole : modulePath (name :: modules) ++ text =
        name ++ (pathSep ++ (modulePath modules ++ text)) := by
      simp [modulePath]
    have cut := Text.lastPiece_append (by decide) (pathSep_not_isInfix names.1)
      (modulePath modules ++ text)
    rw [whole]
    exact cut.trans (ih names.2)

theorem IsName.isPathChar {name : List Char} (named : IsName name) :
    ∀ c ∈ name, isPathChar c = true := fun c inside => by
  rw [TypeTag.isPathChar, named.words c inside, Bool.true_or]

theorem isPathChar_of_mem_modulePath {modules : List (List Char)}
    (names : ∀ name ∈ modules, IsName name) : ∀ c ∈ modulePath modules, isPathChar c = true := by
  intro c inside
  rcases List.mem_flatMap.1 inside with ⟨name, member, inside⟩
  rcases List.mem_append.1 inside with inside | colon
  · exact (names name member).isPathChar c inside
  · have colons : pathSep.all isPathChar = true := by decide
    exact List.all_eq_true.1 colons c colon

theorem isPathChar_of_mem {modules : List (List Char)} (names : ∀ name ∈ modules, IsName name)
    {head : List Char} (named : IsName head) :
    ∀ c ∈ modulePath modules ++ head, isPathChar c = true := by
  intro c inside
  rcases List.mem_append.1 inside with front | back
  · exact isPathChar_of_mem_modulePath names c front
  · exact named.isPathChar c back

/-- The path of a type is what stands in front of the first character that no path has. -/
theorem cut_path {modules : List (List Char)} {head tail : List Char}
    (names : ∀ name ∈ modules, IsName name) (named : IsName head)
    (ends : ∀ c, tail.head? = some c → isPathChar c = false) :
    (modulePath modules ++ (head ++ tail)).takeWhile isPathChar = modulePath modules ++ head ∧
      (modulePath modules ++ (head ++ tail)).dropWhile isPathChar = tail := by
  have path := isPathChar_of_mem names named
  rw [← List.append_assoc, List.takeWhile_append_of_pos path, List.dropWhile_append_of_pos path]
  cases tail with
  | nil => simp
  | cons c rest =>
    have stops : ¬ isPathChar c = true := by simp [ends c rfl]
    rw [List.takeWhile_cons_of_neg stops, List.dropWhile_cons_of_neg stops, List.append_nil]
    exact ⟨rfl, rfl⟩

/-- Only the modules in front of the head are taken away. -/
theorem withoutModules_modulePath {modules : List (List Char)} {head tail : List Char}
    (names : ∀ name ∈ modules, IsName name) (named : IsName head)
    (ends : ∀ c, tail.head? = some c → isPathChar c = false) :
    withoutModules (modulePath modules ++ (head ++ tail)) = head ++ tail := by
  have headName : lastName (modulePath modules ++ head) = head :=
    lastName_modulePath names fun inside =>
      colon_not_mem named (inside.sublist.subset (by decide))
  rcases cut_path names named ends with ⟨path, behind⟩
  rw [withoutModules, path, behind, headName]

/-! ## Types -/

theorem isPathChar_of_isBlank {c : Char} (blank : Text.isBlank c = true) : isPathChar c = false := by
  rw [isPathChar, Text.isWord_of_isBlank blank, Bool.false_or, beq_eq_false_iff_ne]
  rintro rfl
  exact absurd blank (by decide)

/-- The path ends where the arguments begin. -/
theorem head?_bracketed {gap : List Char} (blank : gap.all Text.isBlank = true) (args : List Generic) :
    ∀ c, (bracketed gap args).head? = some c → isPathChar c = false := by
  intro c found
  cases gap with
  | nil =>
    obtain rfl : '<' = c := by simpa [bracketed] using found
    decide
  | cons d rest =>
    obtain rfl : d = c := by simpa [bracketed] using found
    exact isPathChar_of_isBlank (List.all_eq_true.1 blank d List.mem_cons_self)

/-- A type is a name with something behind it, and the modules in front of the name. -/
theorem IsType.exists_withoutModules {text : List Char} (h : IsType text) :
    ∃ modules, (∀ name ∈ modules, IsName name) ∧
      text = modulePath modules ++ withoutModules text := by
  cases h with
  | @plain modules head names named =>
    have short : withoutModules (modulePath modules ++ (head ++ [])) = head ++ [] :=
      withoutModules_modulePath names named (by simp)
    rw [List.append_nil] at short
    exact ⟨modules, names, by rw [short]⟩
  | @generic modules head gap args names named blank spaced types =>
    have short := withoutModules_modulePath names named (head?_bracketed blank args)
    exact ⟨modules, names, by rw [short]⟩

theorem exists_cons_path {modules : List (List Char)} {head : List Char}
    (names : ∀ name ∈ modules, IsName name) (named : IsName head) (tail : List Char) :
    ∃ c rest, modulePath modules ++ (head ++ tail) = c :: rest ∧ Text.isWord c = true := by
  have first : ∀ {name : List Char}, IsName name → ∀ behind,
      ∃ c rest, name ++ behind = c :: rest ∧ Text.isWord c = true := by
    intro name named behind
    rcases List.exists_cons_of_ne_nil named.ne_nil with ⟨c, rest, rfl⟩
    exact ⟨c, rest ++ behind, rfl, named.words c List.mem_cons_self⟩
  cases modules with
  | nil => exact first named tail
  | cons name modules =>
    have whole : modulePath (name :: modules) ++ (head ++ tail) =
        name ++ (pathSep ++ (modulePath modules ++ (head ++ tail))) := by
      simp [modulePath]
    rw [whole]
    exact first (names name List.mem_cons_self) _

/-- A type starts with a name. -/
theorem IsType.exists_cons {text : List Char} (h : IsType text) :
    ∃ c rest, text = c :: rest ∧ Text.isWord c = true := by
  cases h with
  | @plain modules head names named => simpa using exists_cons_path names named []
  | generic names named => exact exists_cons_path names named _

/-- There are no blanks around a type. -/
theorem IsType.tight {text : List Char} (h : IsType text) : Text.Tight text where
  head := by
    rcases h.exists_cons with ⟨c, rest, rfl, word⟩
    intro d found
    obtain rfl : c = d := by simpa using found
    exact Expr.isBlank_of_isWord word
  last := by
    intro c found
    cases h with
    | @plain modules head names named =>
      rw [List.getLast?_append_of_ne_nil _ named.ne_nil] at found
      exact Expr.isBlank_of_isWord (named.words c (List.mem_of_getLast? found))
    | @generic modules head gap args =>
      obtain rfl : '>' = c := by
        rw [bracketed, ← List.cons_append, ← List.append_assoc, ← List.append_assoc,
          ← List.append_assoc, List.getLast?_concat] at found
        exact Option.some.inj found
      decide

theorem IsType.ne_nil {text : List Char} (h : IsType text) : text ≠ [] := by
  rcases h.exists_cons with ⟨c, rest, rfl, -⟩
  exact List.cons_ne_nil c rest

/-! ## Angle brackets -/

/-- How many angle brackets are open behind a text, unless it closes one that is not open. -/
def openBrackets : Nat → List Char → Option Nat
  | depth, [] => some depth
  | depth, '<' :: rest => openBrackets (depth + 1) rest
  | 0, '>' :: _ => none
  | depth + 1, '>' :: rest => openBrackets depth rest
  | depth, _ :: rest => openBrackets depth rest

/-- Every angle bracket that the text opens is closed in it, and no other. -/
def IsBalanced (cs : List Char) : Prop :=
  ∀ depth, openBrackets depth cs = some depth

theorem openBrackets_append (depth : Nat) (cs ds : List Char) :
    openBrackets depth (cs ++ ds) = (openBrackets depth cs).bind (openBrackets · ds) := by
  fun_induction openBrackets depth cs with
  | case1 => rfl
  | case2 depth rest ih => exact ih
  | case3 => rfl
  | case4 depth rest ih => exact ih
  | case5 depth c rest noOpen noClose noCloseSucc ih =>
    rw [List.cons_append, openBrackets]
    · exact ih
    · exact noOpen
    · exact noClose
    · exact noCloseSucc

theorem IsBalanced.append {cs ds : List Char} (front : IsBalanced cs) (back : IsBalanced ds) :
    IsBalanced (cs ++ ds) := fun depth => by
  rw [openBrackets_append, front depth, Option.bind_some, back depth]

/-- Text without brackets in front does not matter. -/
theorem isBalanced_append_iff {cs ds : List Char} (front : IsBalanced cs) :
    IsBalanced (cs ++ ds) ↔ IsBalanced ds :=
  forall_congr' fun depth => by rw [openBrackets_append, front depth, Option.bind_some]

theorem isBalanced_of_not_mem {cs : List Char} (noOpen : '<' ∉ cs) (noClose : '>' ∉ cs) :
    IsBalanced cs := by
  intro depth
  induction cs with
  | nil => rfl
  | cons c rest ih =>
    rw [List.mem_cons, not_or] at noOpen noClose
    rw [openBrackets, ih noOpen.2 noClose.2]
    · exact fun same => noOpen.1 same.symm
    · exact fun _ same => noClose.1 same.symm
    · exact fun _ _ same => noClose.1 same.symm

theorem IsBalanced.bracketed {cs : List Char} (h : IsBalanced cs) :
    IsBalanced ('<' :: (cs ++ ['>'])) := fun depth => by
  rw [openBrackets, openBrackets_append, h (depth + 1), Option.bind_some]
  rfl

theorem isBalanced_of_path {cs : List Char} (path : ∀ c ∈ cs, isPathChar c = true) :
    IsBalanced cs :=
  isBalanced_of_not_mem (fun inside => absurd (path _ inside) (by decide))
    (fun inside => absurd (path _ inside) (by decide))

theorem isBalanced_of_blank {gap : List Char} (blank : gap.all Text.isBlank = true) :
    IsBalanced gap :=
  isBalanced_of_not_mem (fun inside => absurd (List.all_eq_true.1 blank _ inside) (by decide))
    (fun inside => absurd (List.all_eq_true.1 blank _ inside) (by decide))

theorem listed_cons (arg : Generic) {args : List Generic} (some : args ≠ []) :
    listed (arg :: args) = arg.written ++ ',' :: listed args := by
  rw [listed, List.map_cons, List.intercalate_cons_of_ne_nil (by simpa using some), ← listed]
  simp

theorem isBalanced_listed {args : List Generic} (each : ∀ arg ∈ args, IsBalanced arg.written) :
    IsBalanced (listed args) := by
  induction args with
  | nil => exact fun _ => rfl
  | cons arg args ih =>
    rw [List.forall_mem_cons] at each
    by_cases last : args = []
    · subst last
      simpa [listed] using each.1
    · have comma : IsBalanced [','] := fun _ => rfl
      rw [listed_cons arg last]
      exact each.1.append (comma.append (ih each.2))

/-- The angle brackets of a type are balanced. -/
theorem IsType.isBalanced {text : List Char} (h : IsType text) : IsBalanced text := by
  induction h with
  | plain names named => exact isBalanced_of_path (isPathChar_of_mem names named)
  | @generic modules head gap args names named blank spaced types ih =>
    have each : ∀ arg ∈ args, IsBalanced arg.written := by
      intro arg member
      have around := spaced arg member
      cases arg with
      | lifetime front name back =>
        have quote : IsBalanced ['\''] := fun _ => rfl
        have inner := quote.append (isBalanced_of_path around.2.1.isPathChar)
        exact ((isBalanced_of_blank around.1).append inner).append (isBalanced_of_blank around.2.2)
      | type front text back =>
        have inner := ih _ member text rfl
        exact ((isBalanced_of_blank around.1).append inner).append (isBalanced_of_blank around.2)
    have path := isBalanced_of_path (isPathChar_of_mem names named)
    rw [← List.append_assoc]
    exact path.append ((isBalanced_of_blank blank).append (isBalanced_listed each).bracketed)

/-- They are balanced without the modules in front of its head as well. -/
theorem IsType.isBalanced_withoutModules {text : List Char} (h : IsType text) :
    IsBalanced (withoutModules text) := by
  have whole := h.isBalanced
  rcases h.exists_withoutModules with ⟨modules, names, cut⟩
  rw [cut, isBalanced_append_iff (isBalanced_of_path (isPathChar_of_mem_modulePath names))] at whole
  exact whole

/-! ## The arguments that are found -/

/-- The arguments that are taken for types: what stands between the commas, unless it is empty or a
lifetime. -/
def candidates (inner : List Char) : List (List Char) :=
  ((Text.splitOn [','] inner).map Text.trim).filter fun generic =>
    !generic.isEmpty && generic.head? != some '\''

theorem innerType?_of_parts {tag : String} {path inner : List Char}
    (parts : parts? tag.toList = some (path, some inner)) :
    innerType? tag = (candidates inner).getLast?.map fun text => String.ofList (lastName text) := by
  rw [innerType?, parts]
  rfl

theorem candidates_append_cons (front back : List Char) :
    candidates (front ++ ',' :: back) = candidates front ++ candidates back := by
  simp only [candidates, Text.splitOn_singleton, List.splitOn_append_cons_self, List.map_append,
    List.filter_append]

/-- Each argument is split for itself. -/
theorem candidates_listed (args : List Generic) :
    candidates (listed args) = args.flatMap fun arg => candidates arg.written := by
  induction args with
  | nil => decide
  | cons arg args ih =>
    by_cases last : args = []
    · subst last
      simp [listed]
    · rw [listed_cons arg last, candidates_append_cons, ih, List.flatMap_cons]

/-- There is no comma in an argument that is taken for a type. -/
theorem comma_not_mem_candidates {inner text : List Char} (found : text ∈ candidates inner) :
    ',' ∉ text := by
  rcases List.mem_map.1 (List.mem_of_mem_filter found) with ⟨piece, member, rfl⟩
  rcases Text.exists_around_trim piece with ⟨front, back, -, -, whole⟩
  have absent := Text.not_mem_of_mem_splitOn member
  rw [whole] at absent
  intro inside
  exact absent (by simp [inside])

theorem candidates_of_not_mem {text : List Char} (absent : ',' ∉ text) :
    candidates text = [Text.trim text].filter fun generic =>
      !generic.isEmpty && generic.head? != some '\'' := by
  rw [candidates, Text.splitOn_singleton, List.splitOn_eq_singleton absent]
  rfl

theorem comma_not_mem_blank {gap : List Char} (blank : gap.all Text.isBlank = true) : ',' ∉ gap :=
  fun inside => absurd (List.all_eq_true.1 blank _ inside) (by decide)

theorem candidates_lifetime {front name back : List Char}
    (spaced : (Generic.lifetime front name back).IsSpaced) :
    candidates (Generic.lifetime front name back).written = [] := by
  have noComma : ',' ∉ name := fun inside => absurd (spaced.2.1.words _ inside) (by decide)
  have tight : Text.Tight ('\'' :: name) := by
    refine ⟨by simpa using (by decide), fun c found => ?_⟩
    rcases List.mem_cons.1 (List.mem_of_getLast? found) with rfl | inside
    · decide
    · exact Expr.isBlank_of_isWord (spaced.2.1.words c inside)
  rw [Generic.written, candidates_of_not_mem, Text.trim_pad spaced.1 spaced.2.2 tight (by simp)]
  · rfl
  · simp [comma_not_mem_blank spaced.1, comma_not_mem_blank spaced.2.2, noComma]

theorem IsType.head?_ne {text : List Char} (h : IsType text) : text.head? ≠ some '\'' := by
  rcases h.exists_cons with ⟨c, rest, rfl, word⟩
  intro found
  obtain rfl : c = '\'' := by simpa using found
  exact absurd word (by decide)

/-- A type without commas is found as it is. -/
theorem candidates_type {front text back : List Char}
    (spaced : (Generic.type front text back).IsSpaced) (isType : IsType text) (absent : ',' ∉ text) :
    candidates (Generic.type front text back).written = [text] := by
  rw [Generic.written, candidates_of_not_mem,
    Text.trim_pad spaced.1 spaced.2 isType.tight isType.ne_nil]
  · simp [isType.ne_nil, isType.head?_ne]
  · simp [comma_not_mem_blank spaced.1, comma_not_mem_blank spaced.2, absent]

/-- Something is found of a text that starts with a word. -/
theorem candidates_word_ne_nil {c : Char} {front more : List Char}
    (blank : front.all Text.isBlank = true) (word : Text.isWord c = true) (absent : ',' ∉ c :: more) :
    candidates (front ++ c :: more) ≠ [] := by
  have same : Text.trim (front ++ c :: more ++ []) = Text.trim (c :: more) :=
    Text.trim_around (c :: more) blank rfl
  have start := Text.head?_trim (Expr.isBlank_of_isWord word) more
  rw [← same, List.append_nil] at start
  have noQuote : c ≠ '\'' := by
    rintro rfl
    exact absurd word (by decide)
  rcases List.head?_eq_some_iff.1 start with ⟨behind, written⟩
  rw [candidates_of_not_mem (by simpa [comma_not_mem_blank blank] using absent)]
  simp [written, noQuote]

/-- Something is found of every type, if only the part in front of its first comma. -/
theorem candidates_type_ne_nil {front text back : List Char}
    (spaced : (Generic.type front text back).IsSpaced) (isType : IsType text) :
    candidates (Generic.type front text back).written ≠ [] := by
  by_cases comma : ',' ∈ text
  · rcases List.eq_append_cons_of_mem comma with ⟨first, rest, rfl, absent⟩
    rcases isType.exists_cons with ⟨c, more, start, word⟩
    cases first with
    | nil =>
      obtain ⟨rfl, -⟩ := List.cons_eq_cons.1 start
      exact absurd word (by decide)
    | cons d first =>
      obtain ⟨rfl, -⟩ := List.cons_eq_cons.1 start
      have whole : (Generic.type front (d :: first ++ ',' :: rest) back).written =
          front ++ d :: first ++ ',' :: (rest ++ back) := by
        simp [Generic.written]
      rw [whole, candidates_append_cons]
      exact List.append_ne_nil_of_left_ne_nil (candidates_word_ne_nil spaced.1 word absent) _
  · rw [candidates_type spaced isType comma]
    exact List.cons_ne_nil text []

/-- The last type has lifetimes behind it only. -/
theorem exists_last_type {args : List Generic} {text : List Char}
    (last : (args.filterMap Generic.type?).getLast? = some text) :
    ∃ before front back after, args = before ++ .type front text back :: after ∧
      ∀ arg ∈ after, arg.type? = none := by
  rcases List.getLast?_eq_some_iff.1 last with ⟨others, kept⟩
  rcases List.filterMap_eq_append_iff.1 kept with ⟨before, behind, rfl, -, kept⟩
  rcases List.filterMap_eq_cons_iff.1 kept with ⟨between, arg, after, rfl, -, isType, none⟩
  rw [List.filterMap_eq_nil_iff] at none
  cases arg with
  | lifetime => cases isType
  | type front text' back =>
    obtain rfl : text' = text := Option.some.inj isType
    exact ⟨before ++ between, front, back, after, by simp, none⟩

/-! ## The inner type -/

/-- No inner type has a comma or a double colon in it. -/
theorem not_mem_of_innerType? {tag found : String} (inner : innerType? tag = some found) :
    ',' ∉ found.toList ∧ ¬ pathSep <:+: found.toList := by
  have form : ∃ generics text, text ∈ candidates generics ∧ found = String.ofList (lastName text) := by
    cases parts : parts? tag.toList with
    | none => simp [innerType?, parts] at inner
    | some pair =>
      rcases pair with ⟨path, _ | generics⟩
      · simp [innerType?, parts] at inner
      · rw [innerType?_of_parts parts] at inner
        rcases Option.map_eq_some_iff.1 inner with ⟨text, last, rfl⟩
        exact ⟨generics, text, List.mem_of_getLast? last, rfl⟩
  rcases form with ⟨generics, text, member, rfl⟩
  have nonempty : pathSep ≠ [] := by decide
  rcases Text.lastPiece_isSuffix nonempty text with ⟨ending, absent⟩
  rw [String.toList_ofList]
  exact ⟨fun inside => comma_not_mem_candidates member (ending.subset inside), absent⟩

namespace HasGenerics

variable {tag : String} {args : List Generic} (h : HasGenerics tag args)
include h

theorem innerType?_eq : innerType? tag =
    (args.flatMap fun arg => candidates arg.written).getLast?.map fun text =>
      String.ofList (lastName text) := by
  rcases h.written with ⟨modules, head, gap, names, named, blank, written⟩
  have parts : parts? tag.toList = some (modulePath modules ++ head, some (listed args)) := by
    rcases cut_path names named (head?_bracketed blank args) with ⟨path, behind⟩
    have opening : Text.trimStart (bracketed gap args) = '<' :: (listed args ++ ['>']) := by
      rw [bracketed, Text.trimStart_blank_append _ blank]
      rfl
    rw [← written] at path behind
    change (Text.trim tag.toList).takeWhile (fun c => Text.isWord c || c == ':') = _ at path
    change (Text.trim tag.toList).dropWhile (fun c => Text.isWord c || c == ':') = _ at behind
    simp [parts?, path, behind, opening, named.ne_nil]
  rw [innerType?_of_parts parts, candidates_listed]

theorem candidates_eq_nil {arg : Generic} (member : arg ∈ args) (isLifetime : arg.type? = none) :
    candidates arg.written = [] := by
  cases arg with
  | lifetime => exact candidates_lifetime (h.spaced _ member)
  | type => cases isLifetime

/-- Only the last type matters. -/
theorem innerType?_eq_of_last {before after : List Generic} {front text back : List Char}
    (whole : args = before ++ .type front text back :: after)
    (lifetimes : ∀ arg ∈ after, arg.type? = none) :
    innerType? tag =
      (candidates (Generic.type front text back).written).getLast?.map fun text =>
        String.ofList (lastName text) := by
  have member : Generic.type front text back ∈ args := by simp [whole]
  have behind : after.flatMap (fun arg => candidates arg.written) = [] :=
    List.flatMap_eq_nil_iff.2 fun arg inside =>
      h.candidates_eq_nil (by simp [whole, inside]) (lifetimes arg inside)
  have found := candidates_type_ne_nil (h.spaced _ member) (h.types _ member text rfl)
  rw [h.innerType?_eq, whole, List.flatMap_append, List.flatMap_cons, behind, List.append_nil,
    List.getLast?_append_of_ne_nil _ found]

/-- None is found exactly if there are lifetimes only. -/
theorem innerType?_eq_none_iff : innerType? tag = none ↔ ∀ arg ∈ args, arg.type? = none := by
  cases last : (args.filterMap Generic.type?).getLast? with
  | none =>
    have lifetimes := List.filterMap_eq_nil_iff.1 (List.getLast?_eq_none_iff.1 last)
    refine iff_of_true ?_ lifetimes
    rw [h.innerType?_eq, List.flatMap_eq_nil_iff.2 fun arg member =>
      h.candidates_eq_nil member (lifetimes arg member)]
    rfl
  | some text =>
    rcases exists_last_type last with ⟨before, front, back, after, whole, lifetimes⟩
    have inside : Generic.type front text back ∈ args := by simp [whole]
    refine iff_of_false (fun none => ?_) fun all => absurd (all _ inside) (Option.some_ne_none text)
    rw [h.innerType?_eq_of_last whole lifetimes, Option.map_eq_none_iff,
      List.getLast?_eq_none_iff] at none
    exact candidates_type_ne_nil (h.spaced _ inside) (h.types _ inside text rfl) none

/-- It is the last type exactly if this has neither a comma nor a double colon in it. -/
theorem innerType?_eq_lastType?_iff : innerType? tag = (lastType? args).map String.ofList ↔
    ∀ text, lastType? args = some text → ',' ∉ text ∧ ¬ pathSep <:+: text := by
  constructor
  · intro same text last
    rw [last] at same
    simpa using not_mem_of_innerType? same
  · intro plain
    cases last : (args.filterMap Generic.type?).getLast? with
    | none =>
      have lifetimes := List.filterMap_eq_nil_iff.1 (List.getLast?_eq_none_iff.1 last)
      rw [h.innerType?_eq_none_iff.2 lifetimes, lastType?, last]
      rfl
    | some text =>
      rcases exists_last_type last with ⟨before, front, back, after, whole, lifetimes⟩
      have inside : Generic.type front text back ∈ args := by simp [whole]
      have isType := h.types _ inside text rfl
      have short : lastType? args = some (withoutModules text) := by rw [lastType?, last]; rfl
      rcases plain _ short with ⟨noComma, noPath⟩
      rcases isType.exists_withoutModules with ⟨modules, names, cut⟩
      have absent : ',' ∉ text := by
        rw [cut, List.mem_append, not_or]
        refine ⟨fun comma => ?_, noComma⟩
        exact absurd (isPathChar_of_mem_modulePath names _ comma) (by decide)
      have name := lastName_modulePath names noPath
      rw [← cut] at name
      rw [h.innerType?_eq_of_last whole lifetimes, candidates_type (h.spaced _ inside) isType absent,
        short]
      simp [name]

theorem isBalanced_lastType? {text : List Char} (last : lastType? args = some text) :
    IsBalanced text := by
  rcases Option.map_eq_some_iff.1 last with ⟨whole, found, rfl⟩
  rcases exists_last_type found with ⟨before, front, back, after, cut, -⟩
  have inside : Generic.type front whole back ∈ args := by simp [cut]
  exact (h.types _ inside whole rfl).isBalanced_withoutModules

end HasGenerics

/-- **Inner types.** Of a type with generic arguments none is found exactly if all of them are
lifetimes. It is the last one that is a type, without its modules, exactly if this has neither a comma
nor a double colon in it; and then its angle brackets are balanced. -/
theorem inner_type_exact_iff {tag : String} {args : List Generic} (h : HasGenerics tag args) :
    (innerType? tag = none ↔ ∀ arg ∈ args, arg.type? = none) ∧
    (innerType? tag = (lastType? args).map String.ofList ↔
      ∀ text, lastType? args = some text → ',' ∉ text ∧ ¬ pathSep <:+: text) ∧
    (innerType? tag = (lastType? args).map String.ofList →
      ∀ found, innerType? tag = some found → IsBalanced found.toList) := by
  refine ⟨h.innerType?_eq_none_iff, h.innerType?_eq_lastType?_iff, fun same found inner => ?_⟩
  rw [same] at inner
  rcases Option.map_eq_some_iff.1 inner with ⟨text, last, rfl⟩
  rw [String.toList_ofList]
  exact h.isBalanced_lastType? last

/-! ### Boxed accounts -/

section Boxed

def vault : List Char := ['V', 'a', 'u', 'l', 't']

def account : List Char := ['A', 'c', 'c', 'o', 'u', 'n', 't']

theorem isType_vault : IsType vault := by
  have unqualified : IsType (modulePath [] ++ vault) := .plain (by simp) (by decide +kernel)
  exact unqualified

/-- `Box<'info, state::Account<Vault>>` -/
def boxed : List Generic :=
  [.lifetime [] ['i', 'n', 'f', 'o'] [],
    .type [' ']
      (modulePath [['s', 't', 'a', 't', 'e']] ++ (account ++ bracketed [] [.type [] vault []])) []]

theorem hasGenerics_boxed : HasGenerics "Box<'info, state::Account<Vault>>" boxed where
  spaced := by decide +kernel
  types := by
    simp only [boxed, List.forall_mem_cons, Generic.type?, Option.some.injEq]
    refine ⟨nofun, ?_, nofun⟩
    rintro _ rfl
    exact .generic (by decide +kernel) (by decide +kernel) rfl (by decide +kernel)
      (by simpa [Generic.type?] using isType_vault)
  written := ⟨[], ['B', 'o', 'x'], [], by simp, by decide +kernel, rfl, by decide +kernel⟩

/-- Brackets in the last argument do no harm. -/
theorem inner_type_exact_iff_boxed :
    HasGenerics "Box<'info, state::Account<Vault>>" boxed ∧
      innerType? "Box<'info, state::Account<Vault>>" = some "Account<Vault>" ∧
      IsBalanced "Account<Vault>".toList := by
  have exact := inner_type_exact_iff hasGenerics_boxed
  have found : lastType? boxed = some "Account<Vault>".toList := by decide +kernel
  have inner : innerType? "Box<'info, state::Account<Vault>>" = some "Account<Vault>" := by
    rw [exact.2.1.2, found]
    · rfl
    · rw [found]
      intro text same
      obtain rfl := Option.some.inj same
      decide +kernel
  refine ⟨hasGenerics_boxed, inner, exact.2.2 ?_ _ inner⟩
  rw [inner, found]
  rfl

/-- `Account<'info, Vault>`, boxed -/
def boxedWithLifetime : List Generic :=
  [.type [] (account ++ bracketed [] [.lifetime [] ['i', 'n', 'f', 'o'] [], .type [' '] vault []]) []]

/-- With two arguments inside the last argument, the second of them is found with a bracket too many. -/
theorem inner_type_cuts_nested :
    HasGenerics "Box<Account<'info, Vault>>" boxedWithLifetime ∧
      lastType? boxedWithLifetime = some "Account<'info, Vault>".toList ∧
      innerType? "Box<Account<'info, Vault>>" = some "Vault>" ∧ ¬ IsBalanced "Vault>".toList := by
  have isType : ∀ arg ∈ boxedWithLifetime, ∀ text, arg.type? = some text → IsType text := by
    simp only [boxedWithLifetime, List.forall_mem_cons, Generic.type?, Option.some.injEq]
    refine ⟨?_, nofun⟩
    rintro _ rfl
    have unqualified : IsType (modulePath [] ++ (account ++
        bracketed [] [.lifetime [] ['i', 'n', 'f', 'o'] [], .type [' '] vault []])) :=
      .generic (by simp) (by decide +kernel) rfl (by decide +kernel)
        (by simpa [Generic.type?] using isType_vault)
    exact unqualified
  have written : HasGenerics "Box<Account<'info, Vault>>" boxedWithLifetime :=
    ⟨by decide +kernel, isType,
      ⟨[], ['B', 'o', 'x'], [], by simp, by decide +kernel, rfl, by decide +kernel⟩⟩
  have unbalanced : ¬ IsBalanced "Vault>".toList := fun balanced =>
    absurd (balanced 0) (by decide +kernel)
  exact ⟨written, by decide +kernel, by decide +kernel, unbalanced⟩

end Boxed

end TypeTag
end AccountAudit
