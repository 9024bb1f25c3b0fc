import AccountAudit.Value.Basic

/-!
# Places in a YAML text

YAML nests by indentation, so that reading has to know the line and the column of every place. Text
is read after its line ends have been unified; three further characters end a line as well.
-/

namespace AccountAudit
namespace Yaml

/-- A character that ends a line. -/
def isBreak (c : Char) : Bool :=
  c == '\n' || c == '\x85' || c == '\u2028' || c == '\u2029'

/-- The end of the text, a blank or a line end: what has to follow an indicator. -/
def isGapStart : List Char → Bool
  | [] => true
  | c :: _ => c == ' ' || c == '\t' || isBreak c

/-- What is left to read, and where that starts. -/
structure Cursor where
  rest : List Char
  line : Nat := 0
  column : Nat := 0
  deriving DecidableEq, Repr

namespace Cursor

/-- Moves over some characters. -/
def advance : Nat → Cursor → Cursor
  | 0, cur => cur
  | n + 1, ⟨c :: rest, line, column⟩ =>
    if isBreak c then advance n ⟨rest, line + 1, 0⟩ else advance n ⟨rest, line, column + 1⟩
  | _ + 1, cur => cur

/-- Moves to the place where `rest` is left. -/
def moveTo (rest : List Char) (cur : Cursor) : Cursor :=
  advance (cur.rest.length - rest.length) cur

/-- Skips spaces, line ends and comments. -/
def skipGapFrom (comment : Bool) (line column : Nat) : List Char → Cursor
  | [] => ⟨[], line, column⟩
  | c :: rest =>
    if isBreak c then skipGapFrom false (line + 1) 0 rest
    else if comment || c == ' ' then skipGapFrom comment line (column + 1) rest
    else if c == '#' then skipGapFrom true line (column + 1) rest
    else ⟨c :: rest, line, column⟩

def skipGap (cur : Cursor) : Cursor :=
  skipGapFrom false cur.line cur.column cur.rest

/-- The text starts with an indicator, which has to stand alone. -/
def isIndicator (indicator : List Char) (rest : List Char) : Bool :=
  indicator.isPrefixOf rest && isGapStart (rest.drop indicator.length)

/-- A line that separates documents. -/
def isMarker (rest : List Char) : Bool :=
  isIndicator ['-', '-', '-'] rest || isIndicator ['.', '.', '.'] rest

/-- Nothing more of the document is left. -/
def isEnd (cur : Cursor) : Bool :=
  cur.rest.isEmpty || (cur.column == 0 && isMarker cur.rest)

/-- An entry of a block sequence starts here. -/
def isDash (cur : Cursor) : Bool :=
  isIndicator ['-'] cur.rest

end Cursor

end Yaml
end AccountAudit
