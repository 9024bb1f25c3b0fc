import AccountAudit.Value.Literal

/-!
# Issues of a document

What can be wrong with a value of a document: its place, the cause, and the value found there. Each
cause has a code for programs and a message for people. Reading a document collects all its issues
in the order of the fields, so an unreadable document always has a first issue.
-/

namespace AccountAudit
namespace Schema

/-- One step from a value to a part of it. -/
inductive Step where
  | entry (name : String)
  | item (index : Nat)
  deriving DecidableEq, Repr

def Step.text : Step → String
  | .entry name => name
  | .item index => toString index

/-- Why a value is not accepted. -/
inductive Cause where
  | missing
  | notModel (model : String)
  | notFields
  | notText
  | notFlag
  | unreadableFlag
  | notInteger
  | unreadableInteger
  | fractionalInteger
  | unboundedInteger
  | infiniteInteger
  | notNumber
  | unreadableNumber
  | notTable
  | notTuple
  | notList
  | notSet
  | notMember (options : List String)
  | notOneOf (options : List String)
  | below (bound : Int)
  | notAbove (bound : Int)
  | noTag (field : String)
  | unknownTag (tag field : String) (known : List String)
  | rule (message : String)
  deriving DecidableEq, Repr

namespace Cause

def code : Cause → String
  | missing => "missing"
  | notModel _ => "model_type"
  | notFields => "model_attributes_type"
  | notText => "string_type"
  | notFlag => "bool_type"
  | unreadableFlag => "bool_parsing"
  | notInteger => "int_type"
  | unreadableInteger => "int_parsing"
  | fractionalInteger => "int_from_float"
  | unboundedInteger => "int_parsing_size"
  | infiniteInteger => "finite_number"
  | notNumber => "float_type"
  | unreadableNumber => "float_parsing"
  | notTable => "dict_type"
  | notTuple => "tuple_type"
  | notList => "list_type"
  | notSet => "set_type"
  | notMember _ => "enum"
  | notOneOf _ => "literal_error"
  | below _ => "greater_than_equal"
  | notAbove _ => "greater_than"
  | noTag _ => "union_tag_not_found"
  | unknownTag _ _ _ => "union_tag_invalid"
  | rule _ => "value_error"

private def apostrophed (s : String) : String :=
  "'" ++ s ++ "'"

/-- Options in running text: `'a', 'b' or 'c'`. -/
def alternatives (options : List String) : String :=
  match options.reverse with
  | [] => ""
  | [only] => apostrophed only
  | last :: others =>
    ", ".intercalate (others.reverse.map apostrophed) ++ " or " ++ apostrophed last

def message : Cause → String
  | missing => "Field required"
  | notModel model => "Input should be a valid dictionary or instance of " ++ model
  | notFields => "Input should be a valid dictionary or object to extract fields from"
  | notText => "Input should be a valid string"
  | notFlag => "Input should be a valid boolean"
  | unreadableFlag => "Input should be a valid boolean, unable to interpret input"
  | notInteger => "Input should be a valid integer"
  | unreadableInteger => "Input should be a valid integer, unable to parse string as an integer"
  | fractionalInteger => "Input should be a valid integer, got a number with a fractional part"
  | unboundedInteger => "Unable to parse input string as an integer, exceeded maximum size"
  | infiniteInteger => "Input should be a finite number"
  | notNumber => "Input should be a valid number"
  | unreadableNumber => "Input should be a valid number, unable to parse string as a number"
  | notTable => "Input should be a valid dictionary"
  | notTuple => "Input should be a valid tuple"
  | notList => "Input should be a valid list"
  | notSet => "Input should be a valid set"
  | notMember options => "Input should be " ++ alternatives options
  | notOneOf options => "Input should be " ++ alternatives options
  | below bound => "Input should be greater than or equal to " ++ toString bound
  | notAbove bound => "Input should be greater than " ++ toString bound
  | noTag field => "Unable to extract tag using discriminator " ++ apostrophed field
  | unknownTag tag field known =>
    "Input tag " ++ apostrophed tag ++ " found using " ++ apostrophed field ++
      " does not match any of the expected tags: " ++
      ", ".intercalate (known.map apostrophed)
  | rule message => "Value error, " ++ message

end Cause

/-- Something wrong at a place of a document. -/
structure Issue where
  path : List Step
  cause : Cause
  input : Value
  deriving DecidableEq, Repr

/-- The place of an issue, outermost step first. -/
def Issue.place (issue : Issue) : String :=
  ".".intercalate (issue.path.map Step.text)

/-- The issues of a document, of which there is at least one. -/
structure Issues where
  first : Issue
  more : List Issue := []
  deriving DecidableEq, Repr

namespace Issues

def toList (issues : Issues) : List Issue :=
  issues.first :: issues.more

def count (issues : Issues) : Nat :=
  issues.more.length + 1

def append (earlier later : Issues) : Issues :=
  { earlier with more := earlier.more ++ later.toList }

/-- The same issues seen from a value that holds the one they were found in. -/
def within (step : Step) (issues : Issues) : Issues :=
  let move := fun (issue : Issue) => { issue with path := step :: issue.path }
  { first := move issues.first, more := issues.more.map move }

@[simp]
theorem toList_append (earlier later : Issues) :
    (earlier.append later).toList = earlier.toList ++ later.toList := rfl

/-! ## A report of all issues -/

/-- The literal form of a value, with the middle of a long one left out. -/
def excerpt (v : Value) : String :=
  let literal := v.literal.toList
  if literal.length ≤ 50 then String.ofList literal
  else String.ofList (literal.take 25 ++ "...".toList ++ literal.drop (literal.length - 24))

/-- The version of the issue codes' reference. -/
def reference : String :=
  "https://errors.pydantic.dev/2.14/v/"

/-- The lines on one issue. -/
def describe (issue : Issue) : List String :=
  (if issue.path.isEmpty then [] else [issue.place]) ++
    ["  " ++ issue.cause.message ++ " [type=" ++ issue.cause.code ++ ", input_value=" ++
        excerpt issue.input ++ ", input_type=" ++ issue.input.typeName ++ "]",
      "    For further information visit " ++ reference ++ issue.cause.code]

/-- All issues of a value that was read as a `model`. -/
def report (model : String) (issues : Issues) : String :=
  let noun := if issues.count = 1 then " validation error for " else " validation errors for "
  "\n".intercalate ((toString issues.count ++ noun ++ model) :: issues.toList.flatMap describe)

end Issues

end Schema
end AccountAudit
