import AccountAudit.Number.Decimal
import AccountAudit.Number.Integer
import AccountAudit.Text.Quoted
import AccountAudit.Value.Basic

/-!
# Literal forms of values

How messages show a value. In its literal form a text is quoted; in its plain form a text stands as
it is, and every other value is shown in its literal form. A value with an integer of too many digits
anywhere in it cannot be shown at all (`Value.isWritable`).
-/

namespace AccountAudit

/-- A scalar as a literal. -/
def Scalar.literal : Scalar → String
  | .null => "None"
  | .bool b => if b then "True" else "False"
  | .int i => toString i
  | .float x => x.render .plain
  | .text s => Text.quote s

namespace Value

mutual

/-- A value as a literal. -/
def literal : Value → String
  | .scalar s => s.literal
  | .list items => "[" ++ ", ".intercalate (literalItems items) ++ "]"
  | .table entries => "\x7b" ++ ", ".intercalate (literalEntries entries) ++ "\x7d"

def literalItems : List Value → List String
  | [] => []
  | v :: rest => v.literal :: literalItems rest

def literalEntries : List (Scalar × Value) → List String
  | [] => []
  | (k, v) :: rest => (k.literal ++ ": " ++ v.literal) :: literalEntries rest

end

/-- A value in running text. -/
def plain : Value → String
  | .scalar (.text s) => s
  | v => v.literal

/-! ## Long integers -/

mutual

/-- The scalars in a value, the keys of its tables among them. -/
def scalars : Value → List Scalar
  | .scalar s => [s]
  | .list items => scalarsOfItems items
  | .table entries => scalarsOfEntries entries

def scalarsOfItems : List Value → List Scalar
  | [] => []
  | v :: rest => v.scalars ++ scalarsOfItems rest

def scalarsOfEntries : List (Scalar × Value) → List Scalar
  | [] => []
  | (k, v) :: rest => k :: (v.scalars ++ scalarsOfEntries rest)

end

/-- No integer in a value has too many digits to be written. -/
def isWritable (v : Value) : Bool :=
  v.scalars.all fun
    | .int i => hasFewDigits i
    | _ => true

end Value

/-- The literal form of a list of texts. -/
def literalTexts (ss : List String) : String :=
  "[" ++ ", ".intercalate (ss.map Text.quote) ++ "]"

end AccountAudit
