import AccountAudit.Number.Binary64

/-!
# Document values

What a JSON or YAML document holds: scalars, lists, and tables whose entries keep the order in which
their keys were first written. A key is any scalar, since YAML admits keys that are not texts; most
tables have text keys only.

A table never holds a key twice: `Value.put` replaces the value of a key that is there and leaves
the key in its place.
-/

namespace AccountAudit

/-- A value without parts. -/
inductive Scalar where
  | null
  | bool (b : Bool)
  | int (i : Int)
  | float (x : Binary64)
  | text (s : String)
  deriving DecidableEq, Repr, Inhabited

/-- A value of a document. -/
inductive Value where
  | scalar (s : Scalar)
  | list (items : List Value)
  | table (entries : List (Scalar × Value))
  deriving Repr, Inhabited

namespace Value

@[match_pattern] abbrev null : Value := .scalar .null
@[match_pattern] abbrev bool (b : Bool) : Value := .scalar (.bool b)
@[match_pattern] abbrev int (i : Int) : Value := .scalar (.int i)
@[match_pattern] abbrev float (x : Binary64) : Value := .scalar (.float x)
@[match_pattern] abbrev text (s : String) : Value := .scalar (.text s)

/-! ## Equality -/

mutual

/-- Equality of values is decided part by part. -/
def decEq : (a b : Value) → Decidable (a = b)
  | .scalar a, .scalar b =>
    if h : a = b then .isTrue (h ▸ rfl) else .isFalse (by simp [h])
  | .list a, .list b =>
    match decEqItems a b with
    | .isTrue h => .isTrue (h ▸ rfl)
    | .isFalse h => .isFalse (by simp [h])
  | .table a, .table b =>
    match decEqEntries a b with
    | .isTrue h => .isTrue (h ▸ rfl)
    | .isFalse h => .isFalse (by simp [h])
  | .scalar _, .list _ | .scalar _, .table _ | .list _, .scalar _
  | .list _, .table _ | .table _, .scalar _ | .table _, .list _ => .isFalse (by simp)

def decEqItems : (a b : List Value) → Decidable (a = b)
  | [], [] => .isTrue rfl
  | [], _ :: _ | _ :: _, [] => .isFalse (by simp)
  | a :: as, b :: bs =>
    match a.decEq b, decEqItems as bs with
    | .isTrue h, .isTrue h' => .isTrue (h ▸ h' ▸ rfl)
    | .isFalse h, _ => .isFalse (by simp [h])
    | _, .isFalse h => .isFalse (by simp [h])

def decEqEntries : (a b : List (Scalar × Value)) → Decidable (a = b)
  | [], [] => .isTrue rfl
  | [], _ :: _ | _ :: _, [] => .isFalse (by simp)
  | (k, a) :: as, (l, b) :: bs =>
    match instDecidableEqScalar k l, a.decEq b, decEqEntries as bs with
    | .isTrue hk, .isTrue h, .isTrue h' => .isTrue (hk ▸ h ▸ h' ▸ rfl)
    | .isFalse h, _, _ => .isFalse (by simp [h])
    | _, .isFalse h, _ => .isFalse (by simp [h])
    | _, _, .isFalse h => .isFalse (by simp [h])

end

instance : DecidableEq Value := decEq

/-! ## Tables -/

/-- The value of a key among the entries of a table. -/
def lookup (key : Scalar) : List (Scalar × Value) → Option Value
  | [] => none
  | (k, v) :: rest => if k = key then some v else lookup key rest

/-- Replaces the value of a key, or adds the key at the end. -/
def put (key : Scalar) (value : Value) : List (Scalar × Value) → List (Scalar × Value)
  | [] => [(key, value)]
  | (k, v) :: rest => if k = key then (k, value) :: rest else (k, v) :: put key value rest

/-- Writes the entries of `top` over those of `base`, one after the other. -/
def putAll (base top : List (Scalar × Value)) : List (Scalar × Value) :=
  top.foldl (fun table (k, v) => put k v table) base

/-- The table of entries written in this order; a later value of a key replaces an
earlier one. -/
def ofEntries (entries : List (Scalar × Value)) : Value :=
  .table (putAll [] entries)

/-- A table with text keys. -/
def ofFields (fields : List (String × Value)) : Value :=
  ofEntries (fields.map fun (k, v) => (.text k, v))

/-- The value of a text key of a table. -/
def field? (key : String) : Value → Option Value
  | .table entries => lookup (.text key) entries
  | _ => none

/-! ## Questions -/

/-- Whether a value counts as given: neither absent nor false, zero or empty. -/
def isGiven : Value → Bool
  | .scalar .null => false
  | .scalar (.bool b) => b
  | .scalar (.int i) => i != 0
  | .scalar (.float x) => !x.isZero
  | .scalar (.text s) => !s.isEmpty
  | .list items => !items.isEmpty
  | .table entries => !entries.isEmpty

/-- The number zero in any form, or the truth value that counts as it. -/
def isZero : Value → Bool
  | .scalar (.bool b) => !b
  | .scalar (.int i) => i == 0
  | .scalar (.float x) => x.isZero
  | _ => false

/-- How messages call the type of a value. -/
def typeName : Value → String
  | .scalar .null => "NoneType"
  | .scalar (.bool _) => "bool"
  | .scalar (.int _) => "int"
  | .scalar (.float _) => "float"
  | .scalar (.text _) => "str"
  | .list _ => "list"
  | .table _ => "dict"

end Value

end AccountAudit
