import AccountAudit.Text.CharRange

/-!
# Blanks

The characters that separate words: spaces of every width, line and paragraph ends, and the four
information separators of ASCII.
-/

namespace AccountAudit
namespace Text

/-- The ranges of blanks. -/
def blankRanges : CharRanges :=
  [(0x9, 0xD), (0x1C, 0x20), (0x85, 0x85), (0xA0, 0xA0), (0x1680, 0x1680), (0x2000, 0x200A),
   (0x2028, 0x2029), (0x202F, 0x202F), (0x205F, 0x205F), (0x3000, 0x3000)]

/-- A character that trimming removes. -/
def isBlank (c : Char) : Bool :=
  blankRanges.holds c.toNat

end Text
end AccountAudit
