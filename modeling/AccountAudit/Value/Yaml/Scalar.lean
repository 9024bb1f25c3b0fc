import AccountAudit.Number.Integer
import AccountAudit.Text.Basic
import AccountAudit.Value.Json
import AccountAudit.Value.Yaml.Cursor

/-!
# YAML scalars

Scalars are quoted or plain. A quoted scalar is a text. What a plain scalar stands for is decided by
its form, by the rules of YAML 1.1: null, truth values (`yes`, `off`), integers of several bases,
floating-point numbers (only with a point), and else a text.

Over line ends both kinds are folded: one line end becomes a space, and of several the first is
dropped.
-/

namespace AccountAudit
namespace Yaml

/-- Why a text cannot be read as YAML. -/
inductive Failure where
  /-- The text breaks the rules of YAML, or uses a part of it that documents here do not. -/
  | invalid
  | integer (failure : IntegerFailure)
  deriving DecidableEq, Repr

/-! ## Resolving plain scalars -/

private def isOneOf (words : List String) (s : List Char) : Bool :=
  words.any (·.toList == s)

def trueWords : List String :=
  ["yes", "Yes", "YES", "true", "True", "TRUE", "on", "On", "ON"]

def falseWords : List String :=
  ["no", "No", "NO", "false", "False", "FALSE", "off", "Off", "OFF"]

def nullWords : List String :=
  ["", "~", "null", "Null", "NULL"]

/-- A sign in front of a number: whether it is a minus, whether there is one, and what follows. -/
def signOf : List Char → Bool × List Char
  | '-' :: rest => (true, rest)
  | '+' :: rest => (false, rest)
  | cs => (false, cs)

private def signed (negative : Bool) (n : Nat) : Int :=
  if negative then -n else n

private def withoutUnderscores (cs : List Char) : List Char :=
  cs.filter (· != '_')

/-- Digits of a base, of which there is at least one, with underscores among them. -/
def digitsIn (base : Nat) (cs : List Char) : Option Nat :=
  let digits := withoutUnderscores cs
  if cs.isEmpty || digits.isEmpty then none
  else
    digits.foldl (fun total c =>
      match total, Json.hexValue? c with
      | some total, some d => if d < base then some (total * base + d) else none
      | _, _ => none) (some 0)

/-- The integer that follows the mark of a base. Underscores alone have the form of one. -/
def markedNatural? (base : Nat) (cs : List Char) : Option (Except IntegerFailure Nat) :=
  if !cs.isEmpty && cs.all (· == '_') then some (.error (.noDigits base))
  else (digitsIn base cs).map .ok

/-- The number that decimal digits write, with underscores among them. -/
def readWhole (cs : List Char) : Except IntegerFailure Nat :=
  (readDigits (withoutUnderscores cs)).mapError .tooLong

/-- One group of a number in base 60 behind the first one: one or two digits below 60. -/
def sixtieth? (cs : List Char) : Option Nat :=
  match cs with
  | [b] => if Json.isAsciiDigit b then Json.hexValue? b else none
  | [a, b] =>
    if '0' ≤ a && a ≤ '5' && Json.isAsciiDigit b then
      some (Text.digitsValue [a, b])
    else none
  | _ => none

private def isDigitOrUnderscore (c : Char) : Bool :=
  Json.isAsciiDigit c || c == '_'

/-- The integer without sign that a text writes. -/
def natural? (cs : List Char) : Option (Except IntegerFailure Nat) :=
  match cs with
  | ['0'] => some (.ok 0)
  | '0' :: 'b' :: digits => markedNatural? 2 digits
  | '0' :: 'x' :: digits => markedNatural? 16 digits
  | '0' :: digits =>
    if digits.all fun c => isDigitOrUnderscore c && c < '8' || c == '_' then
      (digitsIn 8 ('0' :: digits)).map .ok
    else none
  | first :: _ =>
    if '1' ≤ first && first ≤ '9' then
      match Text.splitOn [':'] cs with
      | [whole] =>
        if whole.all isDigitOrUnderscore then some (readWhole whole) else none
      | whole :: groups =>
        if whole.all isDigitOrUnderscore then
          (groups.mapM sixtieth?).map fun groups =>
            (readWhole whole).map fun whole =>
              groups.foldl (fun total group => total * 60 + group) whole
        else none
      | [] => none
    else none
  | [] => none

/-- The exponent behind a fraction: a sign and digits; nothing stands for zero. -/
def exponent? : List Char → Option Int
  | [] => some 0
  | c :: rest =>
    if c == 'e' || c == 'E' then
      match rest with
      | sign :: digits =>
        if (sign == '-' || sign == '+') && !digits.isEmpty && digits.all Json.isAsciiDigit then
          some (signed (sign == '-') (Text.digitsValue digits))
        else none
      | [] => none
    else none

/-- The floating-point number that a text writes. -/
def float? (cs : List Char) : Option Binary64 :=
  let (negative, body) := signOf cs
  if isOneOf [".inf", ".Inf", ".INF"] body then some (.infinity negative)
  else if isOneOf [".nan", ".NaN", ".NAN"] cs then some .nan
  else
    let whole := body.takeWhile isDigitOrUnderscore
    match body.dropWhile isDigitOrUnderscore with
    | '.' :: rest =>
      let fraction := withoutUnderscores (rest.takeWhile isDigitOrUnderscore)
      let starts := match whole with
        | c :: _ => Json.isAsciiDigit c
        | [] => rest.head?.any Json.isAsciiDigit && cs.head? == some '.'
      if starts then
        (exponent? (rest.dropWhile isDigitOrUnderscore)).map fun shift =>
          .ofDecimal negative (Text.digitsValue (withoutUnderscores whole ++ fraction))
            (shift - fraction.length)
      else none
    | _ => none

/-- What a plain scalar stands for. -/
def resolve (cs : List Char) : Except Failure Scalar :=
  if isOneOf nullWords cs then .ok .null
  else if isOneOf trueWords cs then .ok (.bool true)
  else if isOneOf falseWords cs then .ok (.bool false)
  else if cs = ['='] then .error .invalid
  else
    let (negative, body) := signOf cs
    match natural? body with
    | some (.ok n) => .ok (.int (signed negative n))
    | some (.error failure) => .error (.integer failure)
    | none =>
      match float? cs with
      | some x => .ok (.float x)
      | none => .ok (.text (String.ofList cs))

/-! ## Folding -/

/-- The line ends of a run of blanks and line ends, folded; a run without line end stays. -/
def fold (run : List Char) : List Char :=
  match run.filter isBreak with
  | [] => run
  | [only] => if only == '\n' then [' '] else [only]
  | first :: others => if first == '\n' then others else first :: others

/-! ## Plain scalars -/

/-- Characters that end a plain scalar between the brackets of a flow collection. -/
def flowEnds : List Char := [',', '?', '[', ']', '\x7b', '\x7d']

/-- A colon here ends the key in front of it. -/
def isKeyEnd (flow : Bool) (rest : List Char) : Bool :=
  isGapStart rest || (flow && rest.head?.any [',', '[', ']', '\x7b', '\x7d'].contains)

/-- Some characters of a plain scalar without blanks, and what follows. -/
def takeWord (flow : Bool) : List Char → List Char × List Char
  | [] => ([], [])
  | c :: rest =>
    if isGapStart (c :: rest) || (c == ':' && isKeyEnd flow rest) ||
        (flow && flowEnds.contains c) then ([], c :: rest)
    else
      let (word, rest) := takeWord flow rest
      (c :: word, rest)

/-- The spaces, and after a line end also the line ends, at the start of the text. -/
def takeSpaces (cs : List Char) : List Char × List Char :=
  let spaces := cs.takeWhile (· == ' ')
  let rest := cs.dropWhile (· == ' ')
  if rest.head?.any isBreak then
    let isSpace := fun c => c == ' ' || isBreak c
    (spaces ++ rest.takeWhile isSpace, rest.dropWhile isSpace)
  else (spaces, rest)

/-- Reads a plain scalar. Outside flow collections its further lines have to stand to the right of
`indent`. -/
def plainFrom (flow : Bool) (indent : Int) : Nat → List Char → Cursor → List Char × Cursor
  | 0, read, cur => (read, cur)
  | fuel + 1, read, cur =>
    let (word, rest) := takeWord flow cur.rest
    if word.isEmpty then (read, cur)
    else
      let read := read ++ word
      let ended := cur.moveTo rest
      let (spaces, later) := takeSpaces rest
      let next := ended.moveTo later
      let folded := fold (if spaces.any isBreak then spaces.filter isBreak else spaces)
      let marked := next.column == 0 && Cursor.isMarker next.rest
      let stops := spaces.isEmpty || marked || next.rest.head? == some '#' ||
        (!flow && (next.column : Int) ≤ indent) || (takeWord flow later).1.isEmpty
      if stops then (read, ended) else plainFrom flow indent fuel (read ++ folded) next

/-- The text of a plain scalar. -/
def plain (flow : Bool) (indent : Int) (cur : Cursor) : List Char × Cursor :=
  plainFrom flow indent (cur.rest.length + 1) [] cur

/-- A plain scalar can start with this text. -/
def startsPlain (flow : Bool) : List Char → Bool
  | [] => false
  | c :: rest =>
    if isGapStart [c] then false
    else if c == '-' then !isGapStart rest
    else if c == '?' || c == ':' then !flow && !isGapStart rest
    else
      !([',', '[', ']', '\x7b', '\x7d', '#', '&', '*', '!', '|', '>', '\'', '"', '%', '@',
        '\x60'].contains c)

/-! ## Quoted scalars -/

private def isQuotedBlank (c : Char) : Bool :=
  c == ' ' || c == '\t' || isBreak c

/-- A run of blanks and line ends in a quoted scalar, folded, and what follows. A line that
separates documents may not stand in a quoted scalar. -/
def takeFolded (cs : List Char) : Except Failure (List Char × List Char) :=
  let run := cs.takeWhile isQuotedBlank
  let rest := cs.dropWhile isQuotedBlank
  if run.getLast?.any isBreak && Cursor.isMarker rest then .error .invalid
  else .ok (fold run, rest)

/-- A text between single quotes, from behind the opening one. -/
def singleQuoted : Nat → List Char → List Char → Except Failure (List Char × List Char)
  | 0, _, _ => .error .invalid
  | fuel + 1, read, cs =>
    match cs with
    | [] => .error .invalid
    | '\'' :: '\'' :: rest => singleQuoted fuel ('\'' :: read) rest
    | '\'' :: rest => .ok (read.reverse, rest)
    | c :: rest =>
      if isQuotedBlank c then
        match takeFolded (c :: rest) with
        | .error e => .error e
        | .ok (folded, later) => singleQuoted fuel (folded.reverse ++ read) later
      else singleQuoted fuel (c :: read) rest

/-- The character that a single letter behind a backslash stands for. -/
def letterEscape? : Char → Option Char
  | '0' => some '\x00'
  | 'a' => some '\x07'
  | 'b' => some '\x08'
  | 't' => some '\t'
  | '\t' => some '\t'
  | 'n' => some '\n'
  | 'v' => some '\x0b'
  | 'f' => some '\x0c'
  | 'r' => some '\r'
  | 'e' => some '\x1b'
  | ' ' => some ' '
  | '"' => some '"'
  | '\\' => some '\\'
  | '/' => some '/'
  | 'N' => some '\x85'
  | '_' => some '\xa0'
  | 'L' => some '\u2028'
  | 'P' => some '\u2029'
  | _ => none

/-- How many hexadecimal digits follow a letter behind a backslash. -/
def codeLength? : Char → Option Nat
  | 'x' => some 2
  | 'u' => some 4
  | 'U' => some 8
  | _ => none

/-- The character whose code the digits write. -/
def charOfCode? (digits : List Char) : Option Char :=
  (digitsIn 16 digits).bind fun n => if n.isValidChar then some (Char.ofNat n) else none

/-- A text between double quotes, from behind the opening one. -/
def doubleQuoted : Nat → List Char → List Char → Except Failure (List Char × List Char)
  | 0, _, _ => .error .invalid
  | fuel + 1, read, cs =>
    match cs with
    | [] => .error .invalid
    | '"' :: rest => .ok (read.reverse, rest)
    | ['\\'] => .error .invalid
    | '\\' :: c :: rest =>
      if isBreak c then
        match takeFolded rest with
        | .error e => .error e
        | .ok (_, later) =>
          let breaks := (rest.take (rest.length - later.length)).filter isBreak
          doubleQuoted fuel (breaks.reverse ++ read) later
      else
        match letterEscape? c, codeLength? c with
        | some plain, _ => doubleQuoted fuel (plain :: read) rest
        | none, some size =>
          match rest.take size with
          | digits =>
            if digits.length = size && digits.all (· != '_') then
              match charOfCode? digits with
              | some coded => doubleQuoted fuel (coded :: read) (rest.drop size)
              | none => .error .invalid
            else .error .invalid
        | none, none => .error .invalid
    | c :: rest =>
      if isQuotedBlank c then
        match takeFolded (c :: rest) with
        | .error e => .error e
        | .ok (folded, later) => doubleQuoted fuel (folded.reverse ++ read) later
      else doubleQuoted fuel (c :: read) rest

/-- Reads a quoted scalar, if one starts here. -/
def quoted? (cur : Cursor) : Option (Except Failure (Scalar × Cursor)) :=
  let finish := fun (read : Except Failure (List Char × List Char)) =>
    read.map fun (text, rest) => (Scalar.text (String.ofList text), cur.moveTo rest)
  match cur.rest with
  | '\'' :: rest => some (finish (singleQuoted (rest.length + 1) [] rest))
  | '"' :: rest => some (finish (doubleQuoted (rest.length + 1) [] rest))
  | _ => none

/-- Reads a scalar. -/
def scalar (flow : Bool) (indent : Int) (cur : Cursor) : Except Failure (Scalar × Cursor) :=
  match quoted? cur with
  | some read => read
  | none =>
    if startsPlain flow cur.rest then
      let (text, next) := plain flow indent cur
      (resolve text).map fun s => (s, next)
    else .error .invalid

end Yaml
end AccountAudit
