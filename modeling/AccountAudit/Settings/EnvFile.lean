import AccountAudit.Assoc
import AccountAudit.Text.Basic

/-!
# Files of assignments

A file of assignments holds one variable a line, `NAME=value`. A value may be quoted, and then go
over several lines; behind a blank, `#` starts a comment. A name may follow the word `export`, and
without `=` it has no value. A line that is none of this is skipped.

A value may refer to variables by `${NAME}` or `${NAME:-otherwise}`: to those of the surroundings, and
before them to those that have been assigned further up.
-/

namespace AccountAudit
namespace EnvFile

/-- A variable and its value, if it has one. -/
structure Binding where
  name : String
  value : Option String
  deriving DecidableEq, Repr

/-! ## Lines -/

def isLineBreak (c : Char) : Bool :=
  c == '\n' || c == '\r'

/-- A blank within a line. -/
def isInlineBlank (c : Char) : Bool :=
  Text.isBlank c && !isLineBreak c

def skipInline (cs : List Char) : List Char :=
  cs.dropWhile isInlineBlank

/-- What follows the line that is being read. -/
def skipLine (cs : List Char) : List Char :=
  (cs.dropWhile (!isLineBreak ·)).drop 1

/-- Skips a comment, if one follows. -/
def skipComment (cs : List Char) : List Char :=
  match skipInline cs with
  | '#' :: rest => rest.dropWhile (!isLineBreak ·)
  | _ => cs

/-- What follows the end of a line, if nothing else does. -/
def endOfLine? (cs : List Char) : Option (List Char) :=
  match skipInline cs with
  | [] => some []
  | '\r' :: '\n' :: rest => some rest
  | c :: rest => if isLineBreak c then some rest else none

/-! ## Values -/

/-- The text up to the delimiter that ends a quoted value, and what follows. A delimiter behind a
backslash ends the value only if no later one does; `read` holds the text so far, and `fallback`
where the last such delimiter would end it. -/
def quotedFrom (delimiter : Char) (fallback : Option (List Char × List Char)) (read : List Char) :
    List Char → Option (List Char × List Char)
  | [] => fallback
  | c :: rest =>
    if c == delimiter then
      if read.head? == some '\\' then
        quotedFrom delimiter (some (read.reverse, rest)) (c :: read) rest
      else some (read.reverse, rest)
    else quotedFrom delimiter fallback (c :: read) rest

/-- The character that a letter behind a backslash stands for between double quotes. -/
def escape? : Char → Option Char
  | '\\' => some '\\'
  | '\'' => some '\''
  | '"' => some '"'
  | 'a' => some '\x07'
  | 'b' => some '\x08'
  | 'f' => some '\x0c'
  | 'n' => some '\n'
  | 'r' => some '\r'
  | 't' => some '\t'
  | 'v' => some '\x0b'
  | _ => none

/-- Replaces the escapes of a quoted value. Between apostrophes, only the backslash and the
apostrophe can be escaped. -/
def unescape (delimiter : Char) : List Char → List Char
  | [] => []
  | ['\\'] => ['\\']
  | '\\' :: c :: rest =>
    let known := if delimiter == '"' || c == '\\' || c == '\'' then escape? c else none
    match known with
    | some plain => plain :: unescape delimiter rest
    | none => '\\' :: unescape delimiter (c :: rest)
  | c :: rest => c :: unescape delimiter rest

/-- The text before a comment, which starts at a `#` behind a blank. -/
def beforeComment (afterBlank : Bool) : List Char → List Char
  | [] => []
  | c :: rest =>
    if afterBlank && c == '#' then [] else c :: beforeComment (Text.isBlank c) rest

/-- A value, and what follows it. -/
def value? (cs : List Char) : Option (List Char × List Char) :=
  match cs with
  | [] => some ([], [])
  | c :: rest =>
    if c == '\'' || c == '"' then
      (quotedFrom c none [] rest).map fun (text, later) => (unescape c text, later)
    else
      some (Text.trimEnd (beforeComment false (cs.takeWhile (!isLineBreak ·))),
        cs.dropWhile (!isLineBreak ·))

/-! ## Bindings -/

/-- What follows the word `export`, if the line starts with it. -/
def skipExport (cs : List Char) : List Char :=
  let rest := Text.withoutStart "export".toList cs
  if rest.length < cs.length && rest.head?.any isInlineBlank then skipInline rest else cs

/-- What reading a part of a line gives: the part and what follows it, or where reading stopped. -/
abbrev Reading (α : Type) := Except (List Char) (α × List Char)

/-- A name; a comment stands in its place on a line without assignment. -/
def name (cs : List Char) : Reading (Option (List Char)) :=
  match cs with
  | '#' :: _ => .ok (none, cs)
  | '\'' :: rest =>
    let quoted := rest.takeWhile (· != '\'')
    match rest.dropWhile (· != '\'') with
    | _ :: later => if quoted.isEmpty then .error cs else .ok (some quoted, later)
    | [] => .error cs
  | _ =>
    let isNamePart := fun c => !(c == '=' || c == '#' || Text.isBlank c)
    let word := cs.takeWhile isNamePart
    if word.isEmpty then .error cs else .ok (some word, cs.dropWhile isNamePart)

/-- The value behind a name, if one is assigned. -/
def assigned (cs : List Char) : Reading (Option (List Char)) :=
  match skipInline cs with
  | '=' :: rest =>
    match value? (skipInline rest) with
    | some (v, later) => .ok (some v, later)
    | none => .error (skipInline rest)
  | rest => .ok (none, rest)

/-- One line with its binding, from its first character that is not blank. -/
def line (cs : List Char) : Reading (Option Binding) :=
  match name (skipExport cs) with
  | .error stopped => .error stopped
  | .ok (key, rest) =>
    match assigned rest with
    | .error stopped => .error stopped
    | .ok (v, rest) =>
      let behind := skipComment rest
      match endOfLine? behind with
      | none => .error behind
      | some later =>
        .ok (key.map fun key => { name := String.ofList key, value := v.map String.ofList }, later)

/-- The bindings of a text from top to bottom. Every line takes at least one character, so that the
length of the text bounds their number. -/
def bindingsFrom : Nat → List Char → List Binding
  | 0, _ => []
  | fuel + 1, cs =>
    match cs.dropWhile Text.isBlank with
    | [] => []
    | c :: rest =>
      match line (c :: rest) with
      | .ok (binding, later) => binding.toList ++ bindingsFrom fuel later
      | .error stopped => bindingsFrom fuel (skipLine stopped)

def bindings (cs : List Char) : List Binding :=
  bindingsFrom (cs.length + 1) cs

/-! ## References -/

/-- A reference to a variable, and the number of characters that it takes. -/
structure Reference where
  name : List Char
  otherwise : List Char
  size : Nat
  deriving DecidableEq, Repr

/-- The reference that a text starts with. -/
def reference? : List Char → Option Reference
  | '$' :: '\x7b' :: rest =>
    let name := rest.takeWhile fun c => c != '\x7d' && c != ':'
    match rest.drop name.length with
    | '\x7d' :: _ => some { name, otherwise := [], size := name.length + 3 }
    | ':' :: '-' :: later =>
      let otherwise := later.takeWhile (· != '\x7d')
      match later.drop otherwise.length with
      | '\x7d' :: _ => some { name, otherwise, size := name.length + otherwise.length + 5 }
      | _ => none
    | _ => none
  | _ => none

/-- Replaces the references in a text. The counter passes over the characters of a reference that
has been replaced; `known` tells the value of a variable, where there is such a variable. -/
def expandFrom (known : String → Option (Option String)) : Nat → List Char → List Char
  | _, [] => []
  | pass + 1, _ :: rest => expandFrom known pass rest
  | 0, c :: rest =>
    match reference? (c :: rest) with
    | none => c :: expandFrom known 0 rest
    | some found =>
      let inserted := match known (String.ofList found.name) with
        | some v => (v.getD "").toList
        | none => found.otherwise
      inserted ++ expandFrom known (found.size - 1) rest

/-- The names that a text refers to. The counter passes over the characters of a reference that has
been found. -/
def referencesFrom : Nat → List Char → List String
  | _, [] => []
  | pass + 1, _ :: rest => referencesFrom pass rest
  | 0, c :: rest =>
    match reference? (c :: rest) with
    | none => referencesFrom 0 rest
    | some found => String.ofList found.name :: referencesFrom (found.size - 1) rest

/-- Puts a binding behind others, with the references of its value replaced. -/
def resolveNext (surroundings : List (String × String)) (table : List (String × Option String))
    (binding : Binding) : List (String × Option String) :=
  let known := fun name =>
    match table.lookup name with
    | some v => some v
    | none => (surroundings.lookup name).map some
  let v := binding.value.map fun v => String.ofList (expandFrom known 0 v.toList)
  Assoc.put binding.name v table

/-- The variables of a text; of several assignments of one variable the last one counts. -/
def parse (surroundings : List (String × String)) (cs : List Char) :
    List (String × Option String) :=
  (bindings cs).foldl (resolveNext surroundings) []

end EnvFile
end AccountAudit
