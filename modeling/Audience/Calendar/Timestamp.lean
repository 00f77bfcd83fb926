import Audience.Calendar.Stamp
import Audience.Text.Blank

/-!
# Timestamps in data

Dates in records and criteria are texts, and anything else counts as no
date. `Text.toInstant?` brings a text to an instant: blanks are trimmed, a
final `Z` of either case is the offset of universal time, and the fraction
of a second is brought to six places before `Stamp.ofText?` reads the rest.
A text that is not a date has no instant; one whose instant lies outside the
calendar fails.
-/

namespace Audience

namespace Timestamp

/-- The places that a fraction of a second is brought to. -/
def places : Nat := 6

/-- A fraction cut or filled with zeros to `places` digits. -/
def fitFraction (digits : Text) : Text :=
  let kept := digits.take places
  kept ++ List.replicate (places - kept.length) (code '0')

/-- The form of a time of day with a fraction: `d` stands for a digit of any
script, `T` for a separator, and the rest for itself. -/
def fractionForm : Text := "Tdd:dd:dd.d"

def fits (form c : Nat) : Bool :=
  if form = code 'd' then isDigit c
  else if form = code 'T' then c == code 'T' || c == code ' '
  else c == form

/-- Whether a text begins with characters that fit the form. -/
def beginsLike : Text → Text → Bool
  | [], _ => true
  | _ :: _, [] => false
  | f :: form, c :: rest => fits f c && beginsLike form rest

/-- The text with the fraction of every time of day fitted. The first `done`
characters are written already. -/
def fitFractions : Nat → Text → Text
  | _, [] => []
  | done + 1, _ :: rest => fitFractions done rest
  | 0, c :: rest =>
    if beginsLike fractionForm (c :: rest) then
      let whole := (c :: rest).take 10
      let digits := ((c :: rest).drop 10).takeWhile isDigit
      whole ++ fitFraction digits ++ fitFractions (9 + digits.length) rest
    else c :: fitFractions 0 rest

/-- A final `Z` of either case written as an offset. -/
def spellOutZ (t : Text) : Text :=
  match t.getLast? with
  | some c =>
    if c = code 'Z' ∨ c = code 'z' then t.dropLast ++ Text.ofString "+00:00" else t
  | none => t

/-- The stamp that a text in the data spells. -/
def stamp? (t : Text) : Option Stamp :=
  Stamp.ofText? (fitFractions 0 (spellOutZ t.trim))

end Timestamp

/-- The instant that a text names, if it is a date. -/
def Text.toInstant? (t : Text) : Attempt (Option Instant) :=
  match Timestamp.stamp? t with
  | none => .ok none
  | some s => s.instant.map some

/-- The instant that a value names, if it is a date. -/
def Value.toInstant? : Value → Attempt (Option Instant)
  | .text t => t.toInstant?
  | _ => .ok none

end Audience
