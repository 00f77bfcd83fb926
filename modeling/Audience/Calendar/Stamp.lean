import Audience.Calendar.Instant
import Audience.Text.Digit

/-!
# Written dates and times

The reader of ISO 8601 dates and times, as far as saved data uses them. A
`Stamp` is what a text says: a date, a time, and the offset from universal
time if one is written.

- The date is `YYYY-MM-DD`, `YYYYMMDD`, or by week `YYYY-Www-d`, `YYYYWwwd`,
  where the weekday may be missing. `Stamp.dateLength` finds its end before
  anything is read.
- One character of any kind separates the time, `HH`, `HH:MM`, `HH:MM:SS` or
  the same without colons, with a fraction after a point or a comma that
  counts to the microsecond.
- The offset is `Z`, or a sign and a time of the same form.

`Stamp.ofText?` is lenient in two ways that data has come to rely on: one
stray character may stand between a time and an offset, and what follows
a NUL after a complete time is not read.
-/

namespace Audience

/-- A date and time as written, with the offset from universal time in
microseconds. -/
structure Stamp where
  date : Date
  time : TimeOfDay
  offset : Option Int
deriving DecidableEq, Repr

namespace Stamp

/-- The point in time that a stamp names; without an offset it is universal
time. -/
def instant (s : Stamp) : Attempt Instant :=
  Instant.ofMicros (s.date.ordinal * microsPerDay + s.time.micros - s.offset.getD 0)

/-! ## The date -/

def twoDigits? : Text → Option (Nat × Text)
  | a :: b :: rest => (Text.decimalValue? [a, b]).map (·, rest)
  | _ => none

/-- What follows the year of a date by week: the week, then the weekday
unless the text ends. -/
def weekDate? (year : Nat) (dashed : Bool) (t : Text) : Option Date := do
  let (week, rest) ← twoDigits? t
  match rest with
  | [] => Date.ofWeek? year week 1
  | [d] => if dashed then none else Date.ofWeek? year week (← Text.decimalValue? [d])
  | [dash, d] =>
    if dashed && dash == code '-' then Date.ofWeek? year week (← Text.decimalValue? [d]) else none
  | _ => none

/-- What follows the year of a date by month: two digits of each, with a dash
between if there was one before. -/
def monthDate? (year : Nat) (dashed : Bool) (t : Text) : Option Date := do
  let (month, rest) ← twoDigits? t
  let days ← if dashed then (if rest.head? = some (code '-') then some rest.tail else none)
    else some rest
  match ← twoDigits? days with
  | (day, []) => Date.check? { year, month, day }
  | _ => none

def date? (t : Text) : Option Date := do
  let (century, rest) ← twoDigits? t
  let (years, rest) ← twoDigits? rest
  let year := century * 100 + years
  let dashed := rest.head? = some (code '-')
  let rest := if dashed then rest.tail else rest
  if rest.head? = some (code 'W') then weekDate? year dashed rest.tail
  else monthDate? year dashed rest

/-- Where the date of a text ends. A date by week is told from its follower
by a digit in the eleventh place, or without dashes by the parity of the
run of digits it stands in. -/
def dateLength (t : Text) : Nat :=
  let isAt := fun (i : Nat) (c : Char) => t[i]? == some (code c)
  if t.length = 7 then 7
  else if isAt 4 '-' then
    if isAt 5 'W' then
      if isAt 8 '-' then (if (t[10]?).any isAsciiDigit then 8 else 10) else 8
    else 10
  else if isAt 4 'W' then
    let stop := 7 + ((t.drop 7).takeWhile isAsciiDigit).length
    if stop < 9 then stop else if stop % 2 = 0 then 7 else 8
  else 8

/-! ## The time -/

/-- A time of the day as far as it was read, and whether nothing follows it
but the end or a NUL. -/
structure ClockReading where
  fields : List Nat
  micro : Nat
  complete : Bool

/-- The fraction of a second: up to six digits count, further ones are
passed over. -/
def fraction? (t : Text) : Option ClockReading :=
  let digits := t.take 6
  (Text.decimalValue? digits).map fun n =>
    { fields := [], micro := n * Nat.pow 10 (6 - digits.length)
      complete := ((t.drop 6).dropWhile isAsciiDigit).head?.getD 0 == 0 }

/-- The fields of a time, at most `n` of them, and its fraction. Whether
colons stand between the fields is settled after the first one. A single
character after a field ends the reading. -/
def clock? (separated : Option Bool) : Nat → Text → Option ClockReading
  | 0, t => fraction? t
  | n + 1, t => do
    let (field, rest) ← twoDigits? t
    let more := fun (r : Option ClockReading) =>
      r.map fun r => { r with fields := field :: r.fields }
    match rest with
    | [] => some ⟨[field], 0, true⟩
    | [c] => if c < 0x80 then some ⟨[field], 0, c == 0⟩ else none
    | c :: after =>
      let colons := separated.getD (c == code ':')
      if colons && c == code ':' then more (clock? (some colons) n after)
      else if c = code '.' ∨ c = code ',' then more (fraction? after)
      else if colons then none
      else more (clock? (some colons) n (c :: after))

/-- The time of the day that the fields of a reading make; missing ones are
zero. -/
def ClockReading.time (r : ClockReading) : TimeOfDay :=
  { hour := r.fields[0]?.getD 0, minute := r.fields[1]?.getD 0
    second := r.fields[2]?.getD 0, micro := r.micro }

def beginsOffset (c : Nat) : Bool := c == code '+' || c == code '-' || c == code 'Z'

/-- The offset that a sign and a text spell, in microseconds. It is shorter
than a day, and one of no whole second is zero. -/
def offset? (negative : Bool) (t : Text) : Option Int := do
  let r ← clock? none 3 t
  if !r.complete then none
  let size := if r.time.seconds = 0 then 0 else r.time.micros
  if size < microsPerDay then some (if negative then -(size : Int) else size) else none

/-- The time and the offset that a whole text spells. -/
def timeAndOffset? (t : Text) : Option (TimeOfDay × Option Int) := do
  let r ← clock? none 3 (t.takeWhile (!beginsOffset ·))
  let offset ← match t.dropWhile (!beginsOffset ·) with
    | [] => if r.complete then some none else none
    | c :: rest =>
      if c = code 'Z' then (if rest.head?.getD 0 = 0 then some (some 0) else none)
      else (offset? (c == code '-') rest).map some
  if r.time.IsValid then some (r.time, offset) else none

/-! ## The whole -/

/-- The text with a surrogate that stands where the separator may stand
replaced by a `T`. -/
def settleSeparator (t : Text) : Text :=
  match [7, 8, 10].find? fun i => (t[i]?).any isSurrogate with
  | some i => t.set i (code 'T')
  | none => t

def ofText? (t : Text) : Option Stamp := do
  if t.length < 7 then none
  let t := settleSeparator t
  if t.any isSurrogate then none
  let n := dateLength t
  let date ← date? (t.take n)
  match t.drop n with
  | [] => some { date, time := .midnight, offset := none }
  | _ :: rest =>
    let (time, offset) ← timeAndOffset? rest
    some { date, time, offset }

end Stamp

end Audience
