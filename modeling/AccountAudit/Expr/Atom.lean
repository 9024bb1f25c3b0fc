import AccountAudit.Number.Integer
import AccountAudit.Text.Word

/-!
# Atoms

The texts that stand for one thing and are never taken apart: paths, integers, string literals and
the names of called functions.
-/

namespace AccountAudit
namespace Expr

/-! ## Paths -/

/-- Where a place in a path text stands: a name has to start, may go on, or has ended with call
brackets. -/
inductive PathPlace where
  | start
  | name
  | called
  deriving DecidableEq, Repr

/-- The rest of a path text from a place in it. -/
def isPathFrom : PathPlace → List Char → Bool
  | .start, c :: rest => Text.startsWord c && isPathFrom .name rest
  | .start, [] => false
  | .name, '(' :: ')' :: rest => isPathFrom .called rest
  | _, ':' :: ':' :: rest => isPathFrom .start rest
  | _, '.' :: rest => isPathFrom .start rest
  | .name, c :: rest => Text.isWord c && isPathFrom .name rest
  | .called, _ :: _ => false
  | _, [] => true

/-- Names joined by `.` or `::`, each possibly followed by empty call brackets. -/
def isPath (cs : List Char) : Bool :=
  isPathFrom .start cs

/-! ## Integers -/

/-- The types that may be written behind the digits of an integer. -/
def integerTypes : List (List Char) :=
  [['u', '8'], ['u', '1', '6'], ['u', '3', '2'], ['u', '6', '4'], ['u', '1', '2', '8'],
    ['i', '8'], ['i', '1', '6'], ['i', '3', '2'], ['i', '6', '4'], ['i', '1', '2', '8'],
    ['u', 's', 'i', 'z', 'e']]

/-- The parts of an integer text. -/
structure IntegerText where
  negative : Bool
  digits : List Char
  deriving DecidableEq, Repr

/-- An integer text: perhaps a minus sign, a digit, digits and underscores, perhaps a type. -/
def integerText? (cs : List Char) : Option IntegerText :=
  let (negative, body) := match cs with
    | '-' :: rest => (true, rest)
    | _ => (false, cs)
  let isPart := fun c => Text.isDigit c || c == '_'
  let written := body.takeWhile isPart
  let type := body.dropWhile isPart
  if written.head?.any Text.isDigit && (type.isEmpty || integerTypes.contains type) then
    some ⟨negative, written.filter (· != '_')⟩
  else none

/-- The number that an integer text writes. -/
def IntegerText.value (t : IntegerText) : Except DigitExcess Int :=
  match readDigits t.digits with
  | .error excess => .error excess
  | .ok n => .ok (if t.negative then -n else n)

/-! ## String literals -/

/-- One string literal and nothing else, with or without the mark of a byte string. -/
def isStringLiteral (cs : List Char) : Bool :=
  let body := match cs with
    | 'b' :: rest => rest
    | _ => cs
  match body with
  | '"' :: rest => rest.getLast? == some '"' && !rest.dropLast.contains '"'
  | _ => false

/-! ## Called functions -/

/-- A character of a function's name; generic arguments belong to it. -/
def isNamePart (c : Char) : Bool :=
  Text.isWord c || [':', '.', '<', '>'].contains c

/-- The name of a called function and the brackets that follow it. -/
def callParts? (cs : List Char) : Option (List Char × List Char) :=
  if cs.head?.any Text.startsWord then
    some (cs.takeWhile isNamePart, cs.dropWhile isNamePart)
  else none

end Expr
end AccountAudit
