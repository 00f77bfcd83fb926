import Audience.Number.Binary64
import Audience.Text.Blank
import Audience.Text.Digit

/-!
# Numbers written in text

Amounts, bounds and counts often arrive as text. This file reads them:

- digits of any script count as `0` to `9` (`Numeral.western`), and single
  underscores may stand between digits (`Numeral.joinGroups?`);
- `Decimal` is what a numeral with fraction and exponent denotes, exactly;
  `Decimal.toBinary64` is its one rounding;
- `Text.toBinary64?` reads an amount, which may also be spelled as an
  infinity or as not-a-number, and `Text.toInt?` reads a count, of at most
  `Numeral.maxDigits` digits.
-/

namespace Audience

namespace Numeral

/-- The longest run of digits that is read as an integer. -/
def maxDigits : Nat := 4300

/-- The text with every script's digits as the digits `0` to `9`. -/
def western (t : Text) : Text :=
  t.map fun c => match digit? c with
    | some d => 0x30 + d
    | none => c

/-- The text without underscores, each of which must stand between two
digits. `afterDigit` says whether a digit came just before. -/
def joinGroups? (afterDigit : Bool) : Text → Option Text
  | [] => some []
  | c :: rest =>
    if c = code '_' then
      if afterDigit && rest.head?.any isAsciiDigit then joinGroups? false rest else none
    else (joinGroups? (isAsciiDigit c) rest).map (c :: ·)

/-- The sign in front of a numeral, and what follows it. -/
def splitSign : Text → Bool × Text
  | [] => (false, [])
  | c :: rest =>
    if c = code '-' then (true, rest)
    else if c = code '+' then (false, rest)
    else (false, c :: rest)

def signedInt (negative : Bool) (n : Nat) : Int := if negative then -(n : Int) else n

end Numeral

/-! ## Decimals -/

/-- The number `digits · 10 ^ exponent`, with a sign. -/
structure Decimal where
  negative : Bool
  digits : Nat
  exponent : Int
deriving DecidableEq, Repr

namespace Decimal

/-- The exponent part of a numeral: nothing, or a mark and an integer. -/
def exponent? : Text → Option Int
  | [] => some 0
  | c :: rest =>
    let (negative, digits) := Numeral.splitSign rest
    if (c = code 'e' ∨ c = code 'E') ∧ digits ≠ [] ∧ digits.all isAsciiDigit then
      some (Numeral.signedInt negative (Text.decimalValue digits))
    else none

/-- An unsigned numeral: digits with at most one point among or around them,
then an optional exponent. -/
def ofUnsigned? (negative : Bool) (t : Text) : Option Decimal :=
  let whole := t.takeWhile isAsciiDigit
  let afterWhole := t.dropWhile isAsciiDigit
  let (places, rest) :=
    if afterWhole.head? = some (code '.') then
      (afterWhole.tail.takeWhile isAsciiDigit, afterWhole.tail.dropWhile isAsciiDigit)
    else ([], afterWhole)
  if whole = [] ∧ places = [] then none
  else
    (exponent? rest).map fun e =>
      { negative, digits := Text.decimalValue (whole ++ places), exponent := e - places.length }

/-- The nearest double. Exponents so large or so small that the result is
an infinity or a zero whatever the digits are decided without computing the
power. -/
def toBinary64 (d : Decimal) : Binary64 :=
  if d.digits = 0 then .zero d.negative
  else if 400 < d.exponent then .infinite d.negative
  else if d.exponent < -(400 + d.digits.log2) then .zero d.negative
  else .round d.negative (d.digits * Nat.pow 10 d.exponent.toNat * Binary64.unit)
    (Nat.pow 10 (-d.exponent).toNat)

end Decimal

/-! ## Reading amounts and counts -/

namespace Numeral

/-- A letter `A` to `Z` in lower case; anything else as it is. -/
def lowerAscii (c : Nat) : Nat := if 0x41 ≤ c ∧ c ≤ 0x5A then c + 0x20 else c

/-- The doubles that are spelled as a word, in any case. -/
def word? (negative : Bool) (t : Text) : Option Binary64 :=
  let word := t.map lowerAscii
  if word = Text.ofString "inf" ∨ word = Text.ofString "infinity" then some (.infinite negative)
  else if word = Text.ofString "nan" then some .nan
  else none

end Numeral

namespace Text

/-- The double that a text without blanks at its ends spells. -/
def toBinary64? (t : Text) : Option Binary64 := do
  let joined ← Numeral.joinGroups? false (Numeral.western t)
  let (negative, unsigned) := Numeral.splitSign joined
  match Numeral.word? negative unsigned with
  | some x => some x
  | none => (Decimal.ofUnsigned? negative unsigned).map Decimal.toBinary64

/-- The integer that a text spells: digits after an optional sign, with
spaces around it. -/
def toInt? (t : Text) : Option Int := do
  let (negative, unsigned) := Numeral.splitSign (Numeral.western (t.trimWhere isSpace))
  let digits ← Numeral.joinGroups? false unsigned
  if digits ≠ [] ∧ digits.all isAsciiDigit ∧ digits.length ≤ Numeral.maxDigits then
    some (Numeral.signedInt negative digits.decimalValue)
  else none

end Text

end Audience
