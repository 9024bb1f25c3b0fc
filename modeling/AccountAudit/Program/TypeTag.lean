import AccountAudit.Number.Integer
import AccountAudit.Text.Basic

/-!
# Type tags

The type of an account, an argument or a field is a text such as `Account<'info, Vault>`. What the
analysis asks of it is the outermost type (`typeKind`), the type of the data inside
(`innerType?`), and how many bytes a value takes when every value takes as many
(`FixedLayout`).
-/

namespace AccountAudit
namespace TypeTag

/-! ## Outer and inner type -/

/-- The two parts of a type text: the path of the type, and what stands between the angle brackets
behind it, if there are any. -/
def parts? (tag : List Char) : Option (List Char × Option (List Char)) :=
  let isPathChar := fun c => Text.isWord c || c == ':'
  let cs := Text.trim tag
  let path := cs.takeWhile isPathChar
  let rest := Text.trimStart (cs.dropWhile isPathChar)
  if path.isEmpty then none
  else
    match rest with
    | [] => some (path, none)
    | '<' :: inner =>
      if inner.getLast? = some '>' then some (path, some inner.dropLast) else none
    | _ => none

/-- The name at the end of a module path. -/
def lastName (path : List Char) : List Char :=
  Text.lastPiece [':', ':'] path

/-- The name of the outermost type without generics, such as `Account` or `Signer`. -/
def typeKind (tag : String) : String :=
  let path := match parts? tag.toList with
    | some (path, _) => path
    | none => Text.trim tag.toList
  String.ofList (lastName path)

/-- The name of the last generic argument that is no lifetime, such as `Vault` in
`Account<'info, Vault>`. -/
def innerType? (tag : String) : Option String :=
  match parts? tag.toList with
  | some (_, some inner) =>
    let generics := ((Text.splitOn [','] inner).map Text.trim).filter fun generic =>
      !generic.isEmpty && generic.head? != some '\''
    generics.getLast?.map fun generic => String.ofList (lastName generic)
  | _ => none

/-! ## Size -/

/-- The bytes of the primitive types. -/
def primitiveSizes : List (List Char × Nat) :=
  [(['b', 'o', 'o', 'l'], 1), (['u', '8'], 1), (['i', '8'], 1),
    (['u', '1', '6'], 2), (['i', '1', '6'], 2),
    (['u', '3', '2'], 4), (['i', '3', '2'], 4), (['f', '3', '2'], 4),
    (['u', '6', '4'], 8), (['i', '6', '4'], 8), (['f', '6', '4'], 8),
    (['u', '1', '2', '8'], 16), (['i', '1', '2', '8'], 16),
    (['P', 'u', 'b', 'k', 'e', 'y'], 32)]

/-- A type all of whose values take the same number of bytes. -/
inductive FixedLayout where
  | primitive (size : Nat)
  | array (element : FixedLayout) (count : List Char)
  | optional (content : FixedLayout)
  deriving DecidableEq, Repr

/-- A part of a type text, which is not empty and lies on one line. -/
def isPart (cs : List Char) : Bool :=
  !cs.isEmpty && !cs.contains '\n'

/-- The element type and the count of an array `[T; n]`. -/
def arrayParts? (cs : List Char) : Option (List Char × List Char) :=
  match cs with
  | '[' :: rest =>
    if rest.getLast? = some ']' then
      let inner := rest.dropLast.reverse
      let count := Text.trim (inner.takeWhile (· != ';')).reverse
      let element := Text.trim (inner.drop (inner.takeWhile (· != ';')).length.succ).reverse
      if inner.contains ';' && isPart element && !count.isEmpty && count.all Text.isDigit then
        some (element, count)
      else none
    else none
  | _ => none

/-- The content type of an `Option<T>`. -/
def optionPart? (cs : List Char) : Option (List Char) :=
  let name := ['O', 'p', 't', 'i', 'o', 'n']
  if name.isPrefixOf cs then
    match Text.trimStart (cs.drop name.length) with
    | '<' :: rest =>
      let content := Text.trim rest.dropLast
      if rest.getLast? = some '>' && isPart content then some content else none
    | _ => none
  else none

/-- The layout of a type whose parts are nested at most `depth` deep. -/
def layoutWithin : Nat → List Char → Option FixedLayout
  | 0, _ => none
  | depth + 1, tag =>
    let cs := Text.trim tag
    match primitiveSizes.find? (·.1 == cs) with
    | some (_, size) => some (.primitive size)
    | none =>
      match arrayParts? cs with
      | some (element, count) => (layoutWithin depth element).map (.array · count)
      | none => (optionPart? cs).bind fun content => (layoutWithin depth content).map .optional

/-- The layout of a type, unless its values differ in size or nothing is known of it. Its parts are
nested no deeper than the text is long. -/
def layout? (tag : String) : Option FixedLayout :=
  layoutWithin (tag.length + 1) tag.toList

/-- The bytes that a value takes. An option has one byte that tells whether there is a content. -/
def FixedLayout.size : FixedLayout → Except DigitExcess Nat
  | .primitive size => .ok size
  | .array element count => do
    let size ← element.size
    let count ← readDigits count
    pure (size * count)
  | .optional content => do
    let size ← content.size
    pure (size + 1)

/-- The bytes that a value of a type takes, if all values take as many. -/
def serializedSize? (tag : String) : Except DigitExcess (Option Nat) :=
  match layout? tag with
  | none => .ok none
  | some layout => layout.size.map some

end TypeTag
end AccountAudit
