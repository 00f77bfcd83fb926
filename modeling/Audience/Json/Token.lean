import Audience.Number.Decimal
import Audience.Value.Basic

/-!
# Tokens of the data format

The first half of reading JSON text: from characters to brackets, marks,
texts and scalars. `Token.ofText` passes over the text once, one character
at a time, and what it has seen of an unfinished token is its `Scan` state.
A character that no token can hold ends the list with `Token.malformed`, so
that the reader (`Audience.Json.Reader`) meets the faults of a text in the
order in which they stand there.

Two liberties beyond the standard are taken: `NaN`, `Infinity` and
`-Infinity` are numbers, and an escaped half of a surrogate pair may stand
alone.
-/

namespace Audience

namespace Json

/-- A token, or the reason why there is none. -/
inductive Token where
  | openList | closeList | openObject | closeObject | colon | comma
  | text (t : Text)
  | scalar (v : Value)
  | tooLong (digits : Nat)
  | malformed

/-! ## Bare words -/

def isBare (c : Nat) : Bool :=
  isAsciiDigit c || (0x41 ≤ c && c ≤ 0x5A) || (0x61 ≤ c && c ≤ 0x7A)
    || c == code '+' || c == code '-' || c == code '.'

def beginsFraction : Text → Bool
  | c :: d :: _ => c == code '.' && isAsciiDigit d
  | _ => false

/-- An exponent mark with digits after it and at most a sign between. -/
def beginsExponent : Text → Bool
  | c :: rest =>
    (c == code 'e' || c == code 'E') && (Numeral.splitSign rest).2.head?.any isAsciiDigit
  | [] => false

/-- The token of a word that is no keyword. A numeral with neither fraction
nor exponent is an integer, whose digits are counted before anything after
them is looked at. -/
def numeral (word : Text) : Token :=
  let negative := word.head? = some (code '-')
  let body := if negative then word.tail else word
  let whole := body.takeWhile isAsciiDigit
  let rest := body.dropWhile isAsciiDigit
  if whole = [] ∨ (whole.head? = some (code '0') ∧ 1 < whole.length) then .malformed
  else if beginsFraction rest || beginsExponent rest then
    match Decimal.ofUnsigned? negative body with
    | some d => .scalar (.real d.toBinary64)
    | none => .malformed
  else if Numeral.maxDigits < whole.length then .tooLong whole.length
  else if rest = [] then .scalar (.int (Numeral.signedInt negative (Text.decimalValue whole)))
  else .malformed

def keywords : List (Text × Value) :=
  [("null", .null), ("true", .bool true), ("false", .bool false), ("NaN", .real .nan),
    ("Infinity", .real (.infinite false)), ("-Infinity", .real (.infinite true))]

def word (w : Text) : Token :=
  match Fields.get? keywords w with
  | some v => .scalar v
  | none => numeral w

/-! ## Texts -/

/-- The character that a letter after a backslash stands for. -/
def escaped? (c : Nat) : Option Nat :=
  if c = code '"' ∨ c = code '\\' ∨ c = code '/' then some c
  else if c = code 'b' then some 0x08
  else if c = code 'f' then some 0x0C
  else if c = code 'n' then some 0x0A
  else if c = code 'r' then some 0x0D
  else if c = code 't' then some 0x09
  else none

def hexDigit? (c : Nat) : Option Nat :=
  if 0x30 ≤ c ∧ c ≤ 0x39 then some (c - 0x30)
  else if 0x41 ≤ c ∧ c ≤ 0x46 then some (c - 0x41 + 10)
  else if 0x61 ≤ c ∧ c ≤ 0x66 then some (c - 0x61 + 10)
  else none

/-- The characters so far, last one first, with one more that was given by
its number. The second half of a surrogate pair joins the first. -/
def addNumbered (chars : Text) (c : Nat) : Text :=
  match chars with
  | high :: rest =>
    if 0xD800 ≤ high ∧ high ≤ 0xDBFF ∧ 0xDC00 ≤ c ∧ c ≤ 0xDFFF then
      (0x10000 + (high - 0xD800) * 0x400 + (c - 0xDC00)) :: rest
    else c :: chars
  | [] => [c]

/-! ## Scanning -/

/-- What has been seen of an unfinished token. Characters are kept last one
first. -/
inductive Scan where
  | between
  | word (chars : Text)
  | quoted (chars : Text)
  | escape (chars : Text)
  | number (chars : Text) (left : Nat) (value : Nat)
  | stopped

def isSeparator (c : Nat) : Bool := c == 0x20 || c == 0x09 || c == 0x0A || c == 0x0D

def Scan.start (c : Nat) : List Token × Scan :=
  if isSeparator c then ([], .between)
  else if c = code '"' then ([], .quoted [])
  else if c = code '[' then ([.openList], .between)
  else if c = code ']' then ([.closeList], .between)
  else if c = code '\x7b' then ([.openObject], .between)
  else if c = code '\x7d' then ([.closeObject], .between)
  else if c = code ':' then ([.colon], .between)
  else if c = code ',' then ([.comma], .between)
  else if isBare c then ([], .word [c])
  else ([.malformed], .stopped)

/-- The tokens that a character completes, and the state after it. -/
def Scan.step (s : Scan) (c : Nat) : List Token × Scan :=
  match s with
  | .between => start c
  | .word chars =>
    if isBare c then ([], .word (c :: chars))
    else
      let (tokens, next) := start c
      (Json.word chars.reverse :: tokens, next)
  | .quoted chars =>
    if c = code '"' then ([.text chars.reverse], .between)
    else if c = code '\\' then ([], .escape chars)
    else if c < 0x20 then ([.malformed], .stopped)
    else ([], .quoted (c :: chars))
  | .escape chars =>
    if c = code 'u' then ([], .number chars 4 0)
    else match escaped? c with
      | some e => ([], .quoted (e :: chars))
      | none => ([.malformed], .stopped)
  | .number chars left value =>
    match hexDigit? c with
    | none => ([.malformed], .stopped)
    | some d =>
      let value := value * 16 + d
      if left ≤ 1 then ([], .quoted (addNumbered chars value))
      else ([], .number chars (left - 1) value)
  | .stopped => ([], .stopped)

def Scan.finish : Scan → List Token
  | .between | .stopped => []
  | .word chars => [Json.word chars.reverse]
  | .quoted _ | .escape _ | .number .. => [.malformed]

def Scan.run (s : Scan) : Text → List Token
  | [] => s.finish
  | c :: rest =>
    let (tokens, next) := s.step c
    tokens ++ next.run rest

def Token.ofText (t : Text) : List Token := Scan.between.run t

end Json

end Audience
