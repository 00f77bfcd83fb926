import Audience.Text.Basic
import Audience.Text.Printable

/-!
# Quoted text

How a text is shown inside a list or an object that is itself turned into
text. Single quotes surround it, or double quotes when it holds a single
quote and no double one. The quote in use and the backslash are escaped by
a backslash, line feed, carriage return and tab by their letters, and every
other character that is not printable by its number in two, four or eight
hexadecimal digits.
-/

namespace Audience

namespace Quoted

def numbered (c : Nat) : Text :=
  if c < 0x100 then code '\\' :: code 'x' :: Text.padded 16 2 c
  else if c < 0x10000 then code '\\' :: code 'u' :: Text.padded 16 4 c
  else code '\\' :: code 'U' :: Text.padded 16 8 c

def mark (t : Text) : Nat :=
  if t.elem (code '\'') && !t.elem (code '"') then code '"' else code '\''

/-- One character between quotes of the given kind. -/
def escape (quote c : Nat) : Text :=
  if c = quote ∨ c = code '\\' then [code '\\', c]
  else if c = code '\n' then Text.ofString "\\n"
  else if c = code '\r' then Text.ofString "\\r"
  else if c = code '\t' then Text.ofString "\\t"
  else if isPrintable c then [c]
  else numbered c

end Quoted

def Text.quoted (t : Text) : Text :=
  let quote := Quoted.mark t
  quote :: t.flatMap (Quoted.escape quote) ++ [quote]

end Audience
