import AccountAudit.Value.Yaml.Scalar

/-!
# YAML documents

Reading of the part of YAML 1.1 that settings and program units are written in: block mappings and
sequences, flow collections, plain and quoted scalars and comments; JSON text is a special case.
Anchors, tags, block scalars and explicit keys are refused.

A key has to stand on one line together with its colon. Of several entries with one key the last one
counts.
-/

namespace AccountAudit
namespace Yaml

/-- What reading a part gives. -/
abbrev Reading (α : Type) := Except Failure (α × Cursor)

private def invalid {α : Type} : Except Failure α :=
  .error .invalid

/-- The colon of a key that started on a line; `flow` tells that the key stands between brackets,
where anything may follow the colon. -/
def takeColon? (flow : Bool) (line : Nat) (cur : Cursor) : Option Cursor :=
  let next := cur.skipGap
  match next.rest with
  | ':' :: rest =>
    if next.line == line && (flow || isGapStart rest) then some (next.advance 1) else none
  | _ => none

/-- A value as a key, which has to be a scalar. -/
def keyOf : Value → Except Failure Scalar
  | .scalar s => .ok s
  | _ => invalid

/-! ## Flow collections -/

mutual

/-- A node between the brackets of a flow collection. -/
def flowNode : Nat → Cursor → Reading Value
  | 0, _ => invalid
  | fuel + 1, cur =>
    match cur.rest with
    | '[' :: _ => flowItems fuel [] (cur.advance 1)
    | '\x7b' :: _ => flowEntries fuel [] (cur.advance 1)
    | _ => (scalar true 0 cur).map fun (s, next) => (.scalar s, next)

/-- The value behind a colon in a flow collection, null if nothing stands there. -/
def flowValue : Nat → Cursor → Reading Value
  | 0, _ => invalid
  | fuel + 1, cur =>
    let next := cur.skipGap
    match next.rest with
    | ',' :: _ | ']' :: _ | '\x7d' :: _ => .ok (.null, next)
    | _ => flowNode fuel next

/-- The items of a flow sequence from where an item may follow. An item with a colon is a mapping
with one entry. -/
def flowItems : Nat → List Value → Cursor → Reading Value
  | 0, _, _ => invalid
  | fuel + 1, read, cur =>
    let start := cur.skipGap
    match start.rest with
    | ']' :: _ => .ok (.list read.reverse, start.advance 1)
    | _ =>
      match flowNode fuel start with
      | .error e => .error e
      | .ok (item, next) =>
        let entry : Reading Value :=
          match takeColon? true start.line next with
          | none => .ok (item, next)
          | some behind =>
            match keyOf item, flowValue fuel behind with
            | .ok key, .ok (v, later) => .ok (.table [(key, v)], later)
            | .error e, _ | _, .error e => .error e
        match entry with
        | .error e => .error e
        | .ok (item, next) =>
          let next := next.skipGap
          match next.rest with
          | ',' :: _ => flowItems fuel (item :: read) (next.advance 1)
          | ']' :: _ => .ok (.list (item :: read).reverse, next.advance 1)
          | _ => invalid

/-- The entries of a flow mapping from where an entry may follow. -/
def flowEntries : Nat → List (Scalar × Value) → Cursor → Reading Value
  | 0, _, _ => invalid
  | fuel + 1, read, cur =>
    let start := cur.skipGap
    match start.rest with
    | '\x7d' :: _ => .ok (.ofEntries read.reverse, start.advance 1)
    | _ =>
      match flowNode fuel start with
      | .error e => .error e
      | .ok (item, next) =>
        let entry : Reading (Scalar × Value) :=
          match keyOf item, takeColon? true start.line next with
          | .error e, _ => .error e
          | .ok key, none => .ok ((key, .null), next)
          | .ok key, some behind =>
            match flowValue fuel behind with
            | .ok (v, later) => .ok ((key, v), later)
            | .error e => .error e
        match entry with
        | .error e => .error e
        | .ok (entry, next) =>
          let next := next.skipGap
          match next.rest with
          | ',' :: _ => flowEntries fuel (entry :: read) (next.advance 1)
          | '\x7d' :: _ => .ok (.ofEntries (entry :: read).reverse, next.advance 1)
          | _ => invalid

end

/-! ## Block collections -/

/-- What may follow an entry of a block collection in a column. -/
inductive Follow where
  /-- Another entry. -/
  | entry
  /-- Something that belongs to an outer collection, or nothing. -/
  | outer
  deriving DecidableEq, Repr

/-- What follows an entry that ended on a line. -/
def followOf (column line : Nat) (next : Cursor) : Except Failure Follow :=
  if next.isEnd || next.column < column then .ok .outer
  else if next.column == column && line < next.line then .ok .entry
  else invalid

mutual

/-- A node in a block whose collection stands in the column `indent`. Where `collections` does not
hold, the node follows a colon on its line and is no block collection itself. -/
def blockNode : Nat → Int → Bool → Cursor → Reading Value
  | 0, _, _, _ => invalid
  | fuel + 1, indent, collections, cur =>
    if cur.isDash then
      if collections then blockItems fuel false cur.column [] cur else invalid
    else
      match cur.rest with
      | '[' :: _ | '\x7b' :: _ => flowNode fuel cur
      | _ =>
        match scalar false indent cur with
        | .error e => .error e
        | .ok (s, next) =>
          match if collections then takeColon? false cur.line next else none with
          | none => .ok (.scalar s, next)
          | some behind => blockEntries fuel cur.column [] s behind

/-- What stands behind an indicator on `line` in a collection in a column; null if nothing does. -/
def blockContent : Nat → Bool → Nat → Nat → Cursor → Reading Value
  | 0, _, _, _, _ => invalid
  | fuel + 1, collections, column, line, cur =>
    let next := cur.skipGap
    if next.isEnd then .ok (.null, cur)
    else if next.line == line then blockNode fuel column collections next
    else if column < next.column then blockNode fuel column true next
    else .ok (.null, cur)

/-- The entries of a block sequence from the dash of one of them. A sequence that stands in the
column of the mapping around it may be followed by the mapping's next key. -/
def blockItems : Nat → Bool → Nat → List Value → Cursor → Reading Value
  | 0, _, _, _, _ => invalid
  | fuel + 1, inMapping, column, read, cur =>
    match blockContent fuel true column cur.line (cur.advance 1) with
    | .error e => .error e
    | .ok (item, ended) =>
      let next := ended.skipGap
      match followOf column ended.line next with
      | .error e => .error e
      | .ok .outer => .ok (.list (item :: read).reverse, ended)
      | .ok .entry =>
        if next.isDash then blockItems fuel inMapping column (item :: read) next
        else if inMapping then .ok (.list (item :: read).reverse, ended)
        else invalid

/-- The entries of a block mapping from behind the colon of a key. -/
def blockEntries : Nat → Nat → List (Scalar × Value) → Scalar → Cursor → Reading Value
  | 0, _, _, _, _ => invalid
  | fuel + 1, column, read, key, cur =>
    let first := cur.skipGap
    let content :=
      if !first.isEnd && first.line != cur.line && first.column == column && first.isDash then
        blockItems fuel true column [] first
      else blockContent fuel false column cur.line cur
    match content with
    | .error e => .error e
    | .ok (v, ended) =>
      let read := (key, v) :: read
      let next := ended.skipGap
      match followOf column ended.line next with
      | .error e => .error e
      | .ok .outer => .ok (.ofEntries read.reverse, ended)
      | .ok .entry =>
        if next.isDash then invalid
        else
          match scalar false column next with
          | .error e => .error e
          | .ok (key, behindKey) =>
            match takeColon? false next.line behindKey with
            | none => invalid
            | some behind => blockEntries fuel column read key behind

end

/-! ## Documents -/

/-- A character that may stand in a YAML text. -/
def isAllowed (c : Char) : Bool :=
  let n := c.toNat
  n == 0x09 || n == 0x0A || n == 0x0D || (0x20 ≤ n && n ≤ 0x7E) || n == 0x85 ||
    (0xA0 ≤ n && n ≤ 0xD7FF) || (0xE000 ≤ n && n ≤ 0xFFFD) || 0x10000 ≤ n

/-- Nothing but ends of documents is left. -/
def isFinished : Nat → Cursor → Bool
  | 0, _ => false
  | fuel + 1, cur =>
    let next := cur.skipGap
    next.rest.isEmpty ||
      (next.column == 0 && Cursor.isIndicator ['.', '.', '.'] next.rest &&
        isFinished fuel (next.advance 3))

/-- The value that a text writes; an empty text is null. -/
def parse (text : List Char) : Except Failure Value :=
  let cs := Text.unifyLineFeeds text
  let cs := match cs with
    | '\ufeff' :: rest => rest
    | _ => cs
  let fuel := 2 * cs.length + 4
  let start := Cursor.skipGap { rest := cs }
  if !cs.all isAllowed then invalid
  else
    let marked := start.column == 0 && Cursor.isIndicator ['-', '-', '-'] start.rest
    let body := if marked then (start.advance 3).skipGap else start
    if body.isEnd then
      if isFinished fuel body then .ok .null else invalid
    else
      match blockNode fuel (-1) (!marked || start.line < body.line) body with
      | .error e => .error e
      | .ok (v, ended) => if isFinished fuel ended then .ok v else invalid

end Yaml
end AccountAudit
