import AccountAudit.Number.Decimal
import AccountAudit.Number.Integer
import AccountAudit.Text.Quoted
import AccountAudit.Value.Basic

/-!
# JSON

Reading and writing of JSON text.

Reading takes exactly one value with blanks around it. Beyond the standard it accepts `NaN`,
`Infinity` and `-Infinity`; an integer may have any number of digits up to a limit; of two entries
with one key the later wins. A failure names its cause and the offset where reading stopped.

Writing escapes every character outside ASCII. Values are written on one line, or with an
indentation of two blanks a level.
-/

namespace AccountAudit
namespace Json

/-! ## Failures -/

/-- Why a text is not JSON. -/
inductive Cause where
  | expectingValue
  | expectingName
  | expectingColon
  | expectingComma
  | unterminatedString
  | controlCharacter
  | invalidEscape
  | invalidCodePoint
  | extraData
  | byteOrderMark
  | integerTooLong (excess : DigitExcess)
  deriving DecidableEq, Repr

def Cause.message : Cause → String
  | .expectingValue => "Expecting value"
  | .expectingName => "Expecting property name enclosed in double quotes"
  | .expectingColon => "Expecting ':' delimiter"
  | .expectingComma => "Expecting ',' delimiter"
  | .unterminatedString => "Unterminated string starting at"
  | .controlCharacter => "Invalid control character at"
  | .invalidEscape => "Invalid \\escape"
  | .invalidCodePoint => "Invalid \\uXXXX escape"
  | .extraData => "Extra data"
  | .byteOrderMark => "Unexpected UTF-8 BOM (decode using utf-8-sig)"
  | .integerTooLong excess => excess.message

/-- A cause, with the number of characters that were left when it arose. -/
structure Stop where
  cause : Cause
  left : Nat
  deriving DecidableEq, Repr

/-- A cause, with the offset at which it arose. -/
structure Failure where
  cause : Cause
  offset : Nat
  deriving DecidableEq, Repr

/-- The message of a failure to read `text`; an integer that is too long has no place in it. -/
def Failure.message (text : List Char) (f : Failure) : String :=
  match f.cause with
  | .integerTooLong _ => f.cause.message
  | _ =>
    let ahead := text.take f.offset
    let line := ahead.count '\n' + 1
    let column := (ahead.reverse.takeWhile (· ≠ '\n')).length + 1
    s!"{f.cause.message}: line {line} column {column} (char {f.offset})"

/-! ## Reading -/

/-- What reading a part of the text gives: the part and what is left. -/
abbrev Reading (α : Type) := Except Stop (α × List Char)

private def stop {α : Type} (cause : Cause) (cs : List Char) : Reading α :=
  .error ⟨cause, cs.length⟩

def isBlank (c : Char) : Bool :=
  c == ' ' || c == '\t' || c == '\n' || c == '\r'

def skipBlanks (cs : List Char) : List Char :=
  cs.dropWhile isBlank

def isAsciiDigit (c : Char) : Bool :=
  '0' ≤ c && c ≤ '9'

/-- The value of a hexadecimal digit. -/
def hexValue? (c : Char) : Option Nat :=
  if '0' ≤ c ∧ c ≤ '9' then some (c.toNat - '0'.toNat)
  else if 'a' ≤ c ∧ c ≤ 'f' then some (c.toNat - 'a'.toNat + 10)
  else if 'A' ≤ c ∧ c ≤ 'F' then some (c.toNat - 'A'.toNat + 10)
  else none

/-- The number that four hexadecimal digits write, and what follows them. Digits at the very end of
the text do not count, since the string that they stand in is not closed there. -/
def fourHex? : List Char → Option (Nat × List Char)
  | a :: b :: c :: d :: next :: rest => do
    let a ← hexValue? a
    let b ← hexValue? b
    let c ← hexValue? c
    let d ← hexValue? d
    pure (((a * 16 + b) * 16 + c) * 16 + d, next :: rest)
  | _ => none

/-- The character after a backslash other than `u`. -/
def simpleEscape? : Char → Option Char
  | '"' => some '"'
  | '\\' => some '\\'
  | '/' => some '/'
  | 'b' => some '\x08'
  | 'f' => some '\x0c'
  | 'n' => some '\n'
  | 'r' => some '\r'
  | 't' => some '\t'
  | _ => none

/-- The character of an escaped code point, whose digits start the text. The two halves of a
surrogate pair make one character; a half on its own is replaced. -/
def codePoint (cs : List Char) : Reading Char :=
  match fourHex? cs with
  | none => .error ⟨.invalidCodePoint, cs.length + 1⟩
  | some (high, rest) =>
    if 0xD800 ≤ high ∧ high < 0xDC00 then
      match rest with
      | '\\' :: 'u' :: more =>
        match fourHex? more with
        | none => .error ⟨.invalidCodePoint, more.length + 1⟩
        | some (low, rest') =>
          if 0xDC00 ≤ low ∧ low < 0xE000 then
            .ok (Char.ofNat (0x10000 + (high - 0xD800) * 0x400 + (low - 0xDC00)), rest')
          else .ok ('\ufffd', rest)
      | _ => .ok ('\ufffd', rest)
    else if 0xDC00 ≤ high ∧ high < 0xE000 then .ok ('\ufffd', rest)
    else .ok (Char.ofNat high, rest)

/-- The rest of a string literal after its opening quote; `opening` is the number of characters that
were left at that quote. -/
def stringFrom (opening : Nat) : Nat → List Char → List Char → Reading String
  | 0, _, _ => .error ⟨.unterminatedString, opening⟩
  | fuel + 1, read, cs =>
    match cs with
    | [] => .error ⟨.unterminatedString, opening⟩
    | '"' :: rest => .ok (String.ofList read.reverse, rest)
    | '\\' :: rest =>
      match rest with
      | [] => .error ⟨.unterminatedString, opening⟩
      | 'u' :: digits =>
        match codePoint digits with
        | .error e => .error e
        | .ok (c, rest') => stringFrom opening fuel (c :: read) rest'
      | c :: rest' =>
        match simpleEscape? c with
        | some d => stringFrom opening fuel (d :: read) rest'
        | none => .error ⟨.invalidEscape, cs.length⟩
    | c :: rest =>
      if c.toNat < 0x20 then stop .controlCharacter cs
      else stringFrom opening fuel (c :: read) rest

/-- A string literal whose opening quote has been passed. -/
def string (cs : List Char) : Reading String :=
  stringFrom (cs.length + 1) (cs.length + 1) [] cs

/-- The exponent of a number, if there is one: its sign, its digits and what follows. -/
def exponent? : List Char → Option (Bool × List Char × List Char)
  | c :: rest =>
    if c = 'e' ∨ c = 'E' then
      let (negative, digits) := match rest with
        | '-' :: more => (true, more)
        | '+' :: more => (false, more)
        | _ => (false, rest)
      let read := digits.takeWhile isAsciiDigit
      if read.isEmpty then none else some (negative, read, digits.dropWhile isAsciiDigit)
    else none
  | [] => none

/-- A number. The whole part is zero or starts with another digit; with a fraction or an exponent
the number is a floating-point one. -/
def number (cs : List Char) : Reading Value :=
  let (negative, body) := match cs with
    | '-' :: rest => (true, rest)
    | _ => (false, cs)
  let whole := match body with
    | '0' :: _ => ['0']
    | _ => body.takeWhile isAsciiDigit
  if whole.isEmpty then stop .expectingValue cs
  else
    let rest := body.drop whole.length
    let (fraction, rest) := match rest with
      | '.' :: more =>
        let digits := more.takeWhile isAsciiDigit
        if digits.isEmpty then ([], rest) else (digits, more.dropWhile isAsciiDigit)
      | _ => ([], rest)
    let power := exponent? rest
    if fraction.isEmpty && power.isNone then
      match readDigits whole with
      | .error excess => .error ⟨.integerTooLong excess, cs.length⟩
      | .ok magnitude => .ok (.int (if negative then -magnitude else magnitude), rest)
    else
      let (shift, rest) : Int × List Char := match power with
        | none => (0, rest)
        | some (down, digits, later) =>
          let size : Int := (Text.digitsValue digits : Nat)
          (if down then -size else size, later)
      .ok (.float (.ofDecimal negative (Text.digitsValue (whole ++ fraction))
        (shift - fraction.length)), rest)

/-- Takes a word that stands at the start of the text. -/
def word? (word : String) (cs : List Char) : Option (List Char) :=
  if word.toList.isPrefixOf cs then some (cs.drop word.length) else none

/-- A word that stands for a value, and otherwise a number. -/
def wordOrNumber (cs : List Char) : Reading Value :=
  let words : List (String × Value) :=
    [("null", .null), ("true", .bool true), ("false", .bool false), ("NaN", .float .nan),
      ("Infinity", .float (.infinity false)), ("-Infinity", .float (.infinity true))]
  match words.findSome? fun (word, v) => (word? word cs).map fun rest => (v, rest) with
  | some found => .ok found
  | none => number cs

mutual

/-- One value at the start of the text. -/
def value : Nat → List Char → Reading Value
  | 0, cs => stop .expectingValue cs
  | fuel + 1, cs =>
    match cs with
    | '"' :: rest =>
      match string rest with
      | .error e => .error e
      | .ok (s, later) => .ok (.text s, later)
    | '[' :: rest =>
      match skipBlanks rest with
      | ']' :: later => .ok (.list [], later)
      | later => items fuel [] later
    | '\x7b' :: rest =>
      match skipBlanks rest with
      | '\x7d' :: later => .ok (.table [], later)
      | later => members fuel [] later
    | _ => wordOrNumber cs

/-- The items of a list from a place where an item has to follow. -/
def items : Nat → List Value → List Char → Reading Value
  | 0, _, cs => stop .expectingValue cs
  | fuel + 1, read, cs =>
    match value fuel cs with
    | .error e => .error e
    | .ok (v, rest) =>
      match skipBlanks rest with
      | ']' :: later => .ok (.list (v :: read).reverse, later)
      | ',' :: later => items fuel (v :: read) (skipBlanks later)
      | later => stop .expectingComma later

/-- The entries of a table from a place where a name has to follow. -/
def members : Nat → List (Scalar × Value) → List Char → Reading Value
  | 0, _, cs => stop .expectingName cs
  | fuel + 1, read, cs =>
    match cs with
    | '"' :: rest =>
      match string rest with
      | .error e => .error e
      | .ok (name, later) =>
        match skipBlanks later with
        | ':' :: later =>
          match value fuel (skipBlanks later) with
          | .error e => .error e
          | .ok (v, rest) =>
            match skipBlanks rest with
            | '\x7d' :: later => .ok (.ofEntries ((.text name, v) :: read).reverse, later)
            | ',' :: later => members fuel ((.text name, v) :: read) (skipBlanks later)
            | later => stop .expectingComma later
        | later => stop .expectingColon later
    | _ => stop .expectingName cs

end

/-- The value that a text writes. -/
def parse (text : List Char) : Except Failure Value :=
  let size := text.length
  if text.head? = some '\ufeff' then .error ⟨.byteOrderMark, 0⟩
  else
    -- a list or a table takes two calls for its opening bracket
    match value (2 * size + 1) (skipBlanks text) with
    | .error e => .error ⟨e.cause, size - e.left⟩
    | .ok (v, rest) =>
      match skipBlanks rest with
      | [] => .ok v
      | later => .error ⟨.extraData, size - later.length⟩

/-! ## Writing -/

/-- Floating-point numbers as JSON writes them. -/
def layout : DecimalLayout :=
  { DecimalLayout.plain with nan := "NaN", infinity := "Infinity" }

private def codeUnit (n : Nat) : List Char :=
  '\\' :: 'u' :: Text.hexadecimal 4 n

/-- One character of a string literal; beyond the first plane it is written as a surrogate pair. -/
def escape (c : Char) : List Char :=
  if c = '"' ∨ c = '\\' then ['\\', c]
  else if c = '\n' then ['\\', 'n']
  else if c = '\r' then ['\\', 'r']
  else if c = '\t' then ['\\', 't']
  else if c = '\x08' then ['\\', 'b']
  else if c = '\x0c' then ['\\', 'f']
  else if 0x20 ≤ c.toNat ∧ c.toNat ≤ 0x7E then [c]
  else if c.toNat < 0x10000 then codeUnit c.toNat
  else
    let above := c.toNat - 0x10000
    codeUnit (0xD800 + above / 0x400) ++ codeUnit (0xDC00 + above % 0x400)

/-- A string literal. -/
def quoted (s : String) : String :=
  String.ofList ('"' :: (s.toList.flatMap escape ++ ['"']))

/-- A scalar as a value. -/
def scalar : Scalar → String
  | .null => "null"
  | .bool b => if b then "true" else "false"
  | .int i => toString i
  | .float x => x.render layout
  | .text s => quoted s

/-- A scalar as the name of an entry. -/
def name : Scalar → String
  | .text s => quoted s
  | s => quoted (scalar s)

mutual

/-- A value on one line. -/
def compact : Value → String
  | .scalar s => scalar s
  | .list items => "[" ++ ", ".intercalate (compactItems items) ++ "]"
  | .table entries => "\x7b" ++ ", ".intercalate (compactEntries entries) ++ "\x7d"

def compactItems : List Value → List String
  | [] => []
  | v :: rest => compact v :: compactItems rest

def compactEntries : List (Scalar × Value) → List String
  | [] => []
  | (k, v) :: rest => (name k ++ ": " ++ compact v) :: compactEntries rest

end

/-- A line end and the indentation of a level. -/
def newLine (level : Nat) : String :=
  String.ofList ('\n' :: List.replicate (2 * level) ' ')

/-- Parts between two brackets, each on a line of its own one level further in. -/
def block (level : Nat) (opening : String) (parts : List String) (closing : String) : String :=
  if parts.isEmpty then opening ++ closing
  else
    opening ++ newLine (level + 1) ++ ("," ++ newLine (level + 1)).intercalate parts ++
      newLine level ++ closing

mutual

/-- A value on indented lines. -/
def indented (level : Nat) : Value → String
  | .scalar s => scalar s
  | .list items => block level "[" (indentedItems (level + 1) items) "]"
  | .table entries => block level "\x7b" (indentedEntries (level + 1) entries) "\x7d"

def indentedItems (level : Nat) : List Value → List String
  | [] => []
  | v :: rest => indented level v :: indentedItems level rest

def indentedEntries (level : Nat) : List (Scalar × Value) → List String
  | [] => []
  | (k, v) :: rest => (name k ++ ": " ++ indented level v) :: indentedEntries level rest

end

end Json
end AccountAudit
