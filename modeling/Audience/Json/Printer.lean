import Audience.Number.Shortest
import Audience.Value.Basic

/-!
# Writing the data format

The text of a value in JSON, on one line and in ASCII: every other character
is written by its number, in two halves beyond U+FFFF. Reals are written as
their shortest text.
-/

namespace Audience

namespace Json

def unit (c : Nat) : Text := code '\\' :: code 'u' :: Text.padded 16 4 c

def printChar (c : Nat) : Text :=
  if c = code '"' ∨ c = code '\\' then [code '\\', c]
  else if 0x20 ≤ c ∧ c < 0x7F then [c]
  else if c < 0x10000 then unit c
  else unit (0xD800 + (c - 0x10000) / 0x400) ++ unit (0xDC00 + (c - 0x10000) % 0x400)

def printText (t : Text) : Text := code '"' :: t.flatMap printChar ++ [code '"']

mutual

def print : Value → Text
  | .null => "null"
  | .bool b => if b then "true" else "false"
  | .int i => Text.ofInt i
  | .real .nan => "NaN"
  | .real (.infinite negative) => if negative then "-Infinity" else "Infinity"
  | .real x => x.toText
  | .text t => printText t
  | .list items => code '[' :: Text.joinWith ", " (printItems items) ++ [code ']']
  | .object fields => code '\x7b' :: Text.joinWith ", " (printFields fields) ++ [code '\x7d']

def printItems : List Value → List Text
  | [] => []
  | v :: rest => print v :: printItems rest

def printFields : List (Text × Value) → List Text
  | [] => []
  | (key, v) :: rest => (printText key ++ Text.ofString ": " ++ print v) :: printFields rest

end

end Json

end Audience
