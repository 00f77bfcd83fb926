import Audience.Text.Basic

/-!
# Blank characters

Two classes of blanks are in use. Dates and amounts are trimmed of every
character that Unicode treats as a space or a separator of lines or fields
(`isBlank`); a count in text is trimmed of the same class without the four
field separators U+001C to U+001F (`isSpace`). Neither holds the zero-width
space U+200B nor the byte order mark U+FEFF.
-/

namespace Audience

/-- Spaces, line ends and tabs, in any script. -/
def isSpace (c : Nat) : Bool :=
  (0x09 ≤ c && c ≤ 0x0D) || c == 0x20 || c == 0x85 || c == 0xA0 || c == 0x1680
    || (0x2000 ≤ c && c ≤ 0x200A) || c == 0x2028 || c == 0x2029 || c == 0x202F
    || c == 0x205F || c == 0x3000

/-- A space or one of the four field separators. -/
def isBlank (c : Nat) : Bool := isSpace c || (0x1C ≤ c && c ≤ 0x1F)

def Text.trim (t : Text) : Text := t.trimWhere isBlank

end Audience
