import AccountAudit.Text.Printable

/-!
# Quoted text

How a text is quoted in a message. Apostrophes delimit it, unless it holds an apostrophe and no
double quote: then double quotes do. Inside, the delimiter, the backslash and whatever cannot be
shown are escaped.
-/

namespace AccountAudit
namespace Text

/-- The hexadecimal digits of `n`, in small letters, at least `width` of them. -/
def hexadecimal (width n : Nat) : List Char :=
  let digits := Nat.toDigits 16 n
  List.replicate (width - digits.length) '0' ++ digits

/-- The delimiter that needs the fewer escapes. -/
def delimiterFor (cs : List Char) : Char :=
  if '\'' ∈ cs ∧ '"' ∉ cs then '"' else '\''

/-- One character between delimiters. -/
def escapeWithin (delimiter c : Char) : List Char :=
  if c = delimiter ∨ c = '\\' then ['\\', c]
  else if c = '\t' then ['\\', 't']
  else if c = '\n' then ['\\', 'n']
  else if c = '\r' then ['\\', 'r']
  else if isPrintable c then [c]
  else if c.toNat ≤ 0xFF then '\\' :: 'x' :: hexadecimal 2 c.toNat
  else if c.toNat ≤ 0xFFFF then '\\' :: 'u' :: hexadecimal 4 c.toNat
  else '\\' :: 'U' :: hexadecimal 8 c.toNat

/-- The text between its delimiters. -/
def quoteChars (cs : List Char) : List Char :=
  let delimiter := delimiterFor cs
  delimiter :: (cs.flatMap (escapeWithin delimiter) ++ [delimiter])

/-- The string between its delimiters. -/
def quote (s : String) : String :=
  String.ofList (quoteChars s.toList)

end Text
end AccountAudit
