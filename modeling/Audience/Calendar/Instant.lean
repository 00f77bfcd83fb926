import Audience.Calendar.Date
import Audience.Failure

/-!
# Instants

Every date rule compares points in time, so all of them are brought to one
scale: microseconds of universal time since the beginning of the year 1. The
scale ends with the year 9999; that is the field `Instant.inRange`, and
arithmetic that would leave the scale fails.
-/

namespace Audience

/-- A time of the day, to the microsecond. -/
structure TimeOfDay where
  hour : Nat
  minute : Nat
  second : Nat
  micro : Nat
deriving DecidableEq, Repr

namespace TimeOfDay

def IsValid (t : TimeOfDay) : Prop :=
  t.hour < 24 ∧ t.minute < 60 ∧ t.second < 60 ∧ t.micro < 1000000

instance (t : TimeOfDay) : Decidable t.IsValid := inferInstanceAs (Decidable (_ ∧ _))

def midnight : TimeOfDay := ⟨0, 0, 0, 0⟩

def seconds (t : TimeOfDay) : Nat := t.hour * 3600 + t.minute * 60 + t.second

def micros (t : TimeOfDay) : Nat := t.seconds * 1000000 + t.micro

/-- The time that lies so many microseconds after midnight. -/
def ofMicros (n : Nat) : TimeOfDay :=
  let s := n / 1000000
  { hour := s / 3600, minute := s / 60 % 60, second := s % 60, micro := n % 1000000 }

end TimeOfDay

def microsPerDay : Nat := 86400000000

/-- A point in time: the microseconds since the beginning of the year 1. -/
structure Instant where
  micros : Nat
  inRange : micros < dayLimit * microsPerDay
deriving DecidableEq, Repr

namespace Instant

def ofMicros (n : Int) : Attempt Instant :=
  if h : 0 ≤ n ∧ n.toNat < dayLimit * microsPerDay then .ok ⟨n.toNat, h.2⟩
  else .error .dateOutOfRange

def daysBefore (i : Instant) (days : Nat) : Attempt Instant :=
  ofMicros ((i.micros : Int) - days * microsPerDay)

def before (i j : Instant) : Bool := i.micros < j.micros

/-- The text of an instant: date, time and the offset of universal time. The
fraction has six places and is left out when it is zero. -/
def toText (i : Instant) : Text :=
  let date := Date.ofOrdinal (i.micros / microsPerDay)
  let time := TimeOfDay.ofMicros (i.micros % microsPerDay)
  let digits := Text.padded 10
  digits 4 date.year ++ code '-' :: digits 2 date.month ++ code '-' :: digits 2 date.day
    ++ code 'T' :: digits 2 time.hour ++ code ':' :: digits 2 time.minute
    ++ code ':' :: digits 2 time.second
    ++ (if time.micro = 0 then [] else code '.' :: digits 6 time.micro)
    ++ Text.ofString "+00:00"

end Instant

end Audience
