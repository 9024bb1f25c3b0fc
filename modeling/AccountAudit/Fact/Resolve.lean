import AccountAudit.Expr.Schema
import AccountAudit.Fact.Basic
import AccountAudit.Text.Quoted
import AccountAudit.Value.Literal

/-!
# Resolving attributes

What an attribute says is found from its kind and the raw value that the document gives it. Some
kinds are flags, some name accounts of the handler, all others state conditions; an attribute
without a value is a flag that is set. A value that does not fit its kind is unresolved, and every
account whose name stands among the words of its text counts as mentioned.

Two failures are not turned into an unresolved attribute: the name of an account that holds an integer
with too many digits to be read, and a value that holds an integer with too many digits to be shown.
-/

namespace AccountAudit

/-- Why facts cannot be extracted. -/
inductive ExtractionFailure where
  /-- The name of an account in an attribute cannot be read. -/
  | attribute (issues : Schema.Issues)
  /-- A number has too many digits. -/
  | digits (excess : DigitExcess)
  deriving DecidableEq, Repr

namespace ExtractionFailure

/-- The size of a layout cannot be read. -/
@[match_pattern]
abbrev layout (excess : DigitExcess) : ExtractionFailure :=
  .digits excess

/-- A value that was not understood cannot be shown. -/
abbrev unwritable : ExtractionFailure :=
  .digits .writing

end ExtractionFailure

/-! ## Accounts by name -/

/-- The positions of the accounts whose names are among some words, in ascending order. -/
def mentioned (names words : List String) : List Nat :=
  (names.zipIdx.filter fun (name, _) => words.contains name).map Prod.snd

theorem mem_mentioned {names words : List String} {index : Nat} :
    index ∈ mentioned names words ↔ ∃ name, names[index]? = some name ∧ name ∈ words := by
  simp only [mentioned, List.mem_map, List.mem_filter, List.contains_iff_mem, Prod.exists]
  constructor
  · rintro ⟨name, i, ⟨placed, inside⟩, rfl⟩
    exact ⟨name, List.mem_zipIdx_iff_getElem?.1 placed, inside⟩
  · rintro ⟨name, placed, inside⟩
    exact ⟨name, index, ⟨List.mem_zipIdx_iff_getElem?.2 placed, inside⟩, rfl⟩

/-- The accounts at which paths of an expression start. -/
def Expr.refs (names : List String) (e : Expr) : List Nat :=
  mentioned names (e.paths.map Expr.root)

/-- The texts in an expression that were not understood. -/
def Expr.unknownTexts (e : Expr) : List String :=
  (e.walk.filter (·.kind == .unknown)).map (·.head.raw)

/-- The words of the texts in an expression that were not understood. -/
def Expr.unknownWords (e : Expr) : List String :=
  e.unknownTexts.flatMap Text.identifiersOf

/-- The operators in an expression, in ascending order. -/
def Expr.operators (e : Expr) : List String :=
  Text.distinctSorted ((e.walk.filter fun node => node.kind == .binary || node.kind == .unary).map
    (·.head.op))

namespace Resolved

/-! ## Kinds of attributes -/

def flagKinds : List String :=
  ["signer", "mut", "init", "init_if_needed", "zero", "executable"]

def referenceKinds : List String :=
  ["has_one", "close", "payer"]

/-- Text without the remark on the error behind it, as in `a == b @ Error::Unauthorized`. -/
def beforeRemark (s : String) : String :=
  String.ofList (Text.before [' ', '@', ' '] s.toList)

/-- An attribute that was not understood. -/
def ofUnknown (names : List String) (raw : Value) (reason : String) :
    Except ExtractionFailure Resolved :=
  if raw.isWritable then .ok (.unresolved (mentioned names (Text.identifiersOf raw.plain)) reason)
  else .error .unwritable

theorem ofUnknown_eq_ok {names : List String} {raw : Value} {reason : String} {value : Resolved} :
    ofUnknown names raw reason = .ok value ↔
      raw.isWritable = true ∧
        value = .unresolved (mentioned names (Text.identifiersOf raw.plain)) reason := by
  unfold ofUnknown
  cases raw.isWritable <;> simp [eq_comm]

/-- The items of a list, or a single value as the only item. -/
def items : Value → List Value
  | .list items => items
  | v => [v]

/-! ## References -/

/-- The texts of values, if all are texts. -/
def allTexts? : List Value → Option (List String)
  | [] => some []
  | .text s :: rest => (allTexts? rest).map (s :: ·)
  | _ :: _ => none

/-- The accounts that texts name; `none` and the text for the first one that names no account. -/
def targets (names : List String) : List String → Schema.Checked (Except String (List Nat))
  | [] => .ok (.ok [])
  | s :: rest =>
    match Expr.readText (beforeRemark s) with
    | .error issues => .error issues
    | .ok e =>
      match if e.kind = .path then names.idxOf? e.root else none with
      | none => .ok (.error s)
      | some index => (targets names rest).map fun found => found.map (index :: ·)

def ofReference (names : List String) (raw : Value) : Except ExtractionFailure Resolved :=
  match allTexts? (items raw) with
  | none | some [] => ofUnknown names raw "expected account name(s)"
  | some texts =>
    match targets names texts with
    | .error issues => .error (.attribute issues)
    | .ok (.ok indices) => .ok (.reference indices)
    | .ok (.error s) => ofUnknown names raw ("parameter " ++ Text.quote s ++ " not found")

/-! ## Conditions -/

/-- A value without the remark behind it, if it is a text. -/
def withoutRemark : Value → Value
  | .text s => .text (beforeRemark s)
  | item => item

/-- The expressions of values; the reason why the first one that is not understood is not. -/
def conditions : List Value → Except String (List Expr)
  | [] => .ok []
  | item :: rest =>
    match Expr.read (withoutRemark item) with
    | .error _ => .error "malformed expression"
    | .ok e =>
      if e.hasUnknown then
        .error ("unrecognized expression `" ++ (withoutRemark item).plain ++ "`")
      else (conditions rest).map (e :: ·)

def ofCondition (names : List String) (raw : Value) : Except ExtractionFailure Resolved :=
  match conditions (items raw) with
  | .ok exprs =>
    .ok (.expression exprs (mentioned names (exprs.flatMap fun e => e.paths.map Expr.root)))
  | .error reason => ofUnknown names raw reason

/-! ## All kinds -/

/-- The flag that a value stands for: an attribute without a value is set. -/
def flag? : Value → Option Bool
  | .null => some true
  | .bool on => some on
  | _ => none

/-- What an attribute says, for a handler whose accounts have these names. -/
def ofAttribute (names : List String) (kind : String) (raw : Value) :
    Except ExtractionFailure Resolved :=
  if kind ∈ referenceKinds then ofReference names raw
  else
    match flag? raw with
    | some on => .ok (.flag on)
    | none =>
      if kind ∈ flagKinds then ofUnknown names raw ("expected a flag, got " ++ raw.typeName)
      else ofCondition names raw

end Resolved
end AccountAudit
