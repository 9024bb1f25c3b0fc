import AccountAudit.Failure
import AccountAudit.Value.Literal

/-!
# Message templates

A template holds placeholders for values: `%s` for any value, `%r` for its literal form, `%d` for an
integer, `%.1f` for a number with one decimal, and `%%` for the percent sign. There have to be as many
values as placeholders.
-/

namespace AccountAudit
namespace Log

/-- Why a template cannot be filled in. -/
inductive TemplateFailure where
  | tooFewValues
  | tooManyValues
  | notNumber (placeholder typeName : String)
  | incomplete
  | unknown (letter : Char) (index : Nat)
  deriving DecidableEq, Repr

namespace TemplateFailure

def message : TemplateFailure → String
  | tooFewValues => "not enough arguments for format string"
  | tooManyValues => "not all arguments converted during string formatting"
  | notNumber "f" typeName => "must be real number, not " ++ typeName
  | notNumber placeholder typeName =>
    "%" ++ placeholder ++ " format: a real number is required, not " ++ typeName
  | incomplete => "incomplete format"
  | unknown letter index =>
    "unsupported format character '" ++ letter.toString ++ "' (0x" ++
      String.ofList (Nat.toDigits 16 letter.toNat) ++ ") at index " ++ toString index

def fault (f : TemplateFailure) : Fault :=
  match f with
  | incomplete | unknown _ _ => { kind := "ValueError", message := f.message }
  | _ => { kind := "TypeError", message := f.message }

end TemplateFailure

/-- The number that a value is. -/
def numberOf? : Value → Option Binary64
  | .scalar (.int i) => some (.ofInt i)
  | .scalar (.bool b) => some (.ofInt (if b then 1 else 0))
  | .scalar (.float x) => some x
  | _ => none

/-- The integer that a value is, without its fraction. -/
def integerOf? : Value → Option Int
  | .scalar (.int i) => some i
  | .scalar (.bool b) => some (if b then 1 else 0)
  | .scalar (.float x) => x.truncate?
  | _ => none

/-- What a placeholder gives, and the values that are left. -/
def place (index : Nat) (letters : List Char) (values : List Value) :
    Except TemplateFailure (List Char × List Char × List Value) :=
  match letters with
  | [] => .error .incomplete
  | '%' :: rest => .ok (['%'], rest, values)
  | letter :: rest =>
    match letter, rest, values with
    | 's', rest, v :: values => .ok (v.plain.toList, rest, values)
    | 'r', rest, v :: values => .ok (v.literal.toList, rest, values)
    | '.', '1' :: 'f' :: rest, v :: values =>
      match numberOf? v with
      | some x => .ok (x.renderTenths.toList, rest, values)
      | none => .error (.notNumber "f" v.typeName)
    | letter, rest, values =>
      if letter = 'd' ∨ letter = 'i' then
        match values with
        | [] => .error .tooFewValues
        | v :: values =>
          match integerOf? v with
          | some i => .ok ((toString i).toList, rest, values)
          | none => .error (.notNumber letter.toString v.typeName)
      else if (letter = 's' ∨ letter = 'r' ∨ letter = '.') ∧ values.isEmpty then
        .error .tooFewValues
      else .error (.unknown letter index)

/-- Fills in a template from a place on; `fuel` bounds the number of placeholders. -/
def fillFrom : Nat → Nat → List Char → List Value → Except TemplateFailure (List Char)
  | 0, _, _, _ => .error .incomplete
  | fuel + 1, index, template, values =>
    let plain := template.takeWhile (· != '%')
    match template.drop plain.length with
    | [] => if values.isEmpty then .ok plain else .error .tooManyValues
    | _ :: letters =>
      let index := index + plain.length + 1
      match place index letters values with
      | .error failure => .error failure
      | .ok (inserted, rest, values) =>
        (fillFrom fuel (index + (letters.length - rest.length)) rest values).map fun later =>
          plain ++ inserted ++ later

/-- A template with values in the place of its placeholders. -/
def fill (template : String) (values : List Value) : Except TemplateFailure String :=
  (fillFrom (template.length + 1) 0 template.toList values).map String.ofList

end Log
end AccountAudit
