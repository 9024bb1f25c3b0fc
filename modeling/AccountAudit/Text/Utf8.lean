import AccountAudit.Text.Quoted

/-!
# UTF-8

Reading of characters from octets. The first octet of a character tells how many octets follow and,
since a character has only one form and surrogates have none, between which bounds the second one
lies. What is not UTF-8 is refused at the first character that cannot be read.
-/

namespace AccountAudit
namespace Text

/-- Why octets cannot be read as a character. -/
inductive Utf8Cause where
  /-- No character starts with this octet. -/
  | start
  /-- An octet that should go on with a character does not. -/
  | continuation
  /-- The octets end within a character. -/
  | ending
  deriving DecidableEq, Repr

def Utf8Cause.message : Utf8Cause → String
  | start => "invalid start byte"
  | continuation => "invalid continuation byte"
  | ending => "unexpected end of data"

/-- A place where octets are not UTF-8: the position and the value of the first octet of what cannot
be read, and how many octets that is. -/
structure Utf8Failure where
  position : Nat
  octet : Nat
  size : Nat
  cause : Utf8Cause
  deriving DecidableEq, Repr

def Utf8Failure.message (f : Utf8Failure) : String :=
  let place :=
    if f.size = 1 then
      "byte 0x" ++ String.ofList (hexadecimal 2 f.octet) ++ " in position " ++ toString f.position
    else
      "bytes in position " ++ toString f.position ++ "-" ++ toString (f.position + f.size - 1)
  "'utf-8' codec can't decode " ++ place ++ ": " ++ f.cause.message

/-- A character that has been read in part. -/
structure Utf8Pending where
  /-- The first octet. -/
  octet : Nat
  /-- How many octets have been read. -/
  taken : Nat
  /-- The bits of these octets. -/
  bits : Nat
  /-- How many octets are to follow. -/
  owed : Nat
  /-- The least value of the next octet. -/
  low : Nat := 0x80
  /-- The greatest value of the next octet. -/
  high : Nat := 0xBF
  deriving DecidableEq, Repr

/-- What the first octet of a longer character announces. -/
def utf8Lead? (octet : Nat) : Option Utf8Pending :=
  if octet < 0xC2 then none
  else if octet < 0xE0 then some { octet, taken := 1, bits := octet - 0xC0, owed := 1 }
  else if octet = 0xE0 then some { octet, taken := 1, bits := 0, owed := 2, low := 0xA0 }
  else if octet = 0xED then some { octet, taken := 1, bits := 0xD, owed := 2, high := 0x9F }
  else if octet < 0xF0 then some { octet, taken := 1, bits := octet - 0xE0, owed := 2 }
  else if octet = 0xF0 then some { octet, taken := 1, bits := 0, owed := 3, low := 0x90 }
  else if octet < 0xF4 then some { octet, taken := 1, bits := octet - 0xF0, owed := 3 }
  else if octet = 0xF4 then some { octet, taken := 1, bits := 4, owed := 3, high := 0x8F }
  else none

/-- Reads on at a position; `read` holds the characters before it, the last one first. -/
def decodeUtf8From : Nat → Option Utf8Pending → List Char → List UInt8 →
    Except Utf8Failure (List Char)
  | _, none, read, [] => .ok read.reverse
  | position, some p, _, [] => .error ⟨position - p.taken, p.octet, p.taken, .ending⟩
  | position, none, read, b :: rest =>
    let octet := b.toNat
    if octet < 0x80 then decodeUtf8From (position + 1) none (Char.ofNat octet :: read) rest
    else
      match utf8Lead? octet with
      | some p => decodeUtf8From (position + 1) (some p) read rest
      | none => .error ⟨position, octet, 1, .start⟩
  | position, some p, read, b :: rest =>
    let octet := b.toNat
    if p.low ≤ octet ∧ octet ≤ p.high then
      let bits := p.bits * 64 + (octet - 0x80)
      if p.owed = 1 then decodeUtf8From (position + 1) none (Char.ofNat bits :: read) rest
      else
        let next : Utf8Pending := { octet := p.octet, taken := p.taken + 1, bits, owed := p.owed - 1 }
        decodeUtf8From (position + 1) (some next) read rest
    else .error ⟨position - p.taken, p.octet, p.taken, .continuation⟩

/-- The characters that octets write. -/
def decodeUtf8 (octets : List UInt8) : Except Utf8Failure (List Char) :=
  decodeUtf8From 0 none [] octets

end Text
end AccountAudit
