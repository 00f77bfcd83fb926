/-!
# Civil dates

Dates of the Gregorian calendar, extended back to the year 1, and their
numbering by days: day 0 is the first of January of the year 1, a Monday.
`Date.ordinal` counts the days before a date and `Date.ofOrdinal` finds the
date again; `Date.ofWeek?` is the same for dates given by week and weekday.
-/

namespace Audience

/-- A year, a month and a day, each counted from one. -/
structure Date where
  year : Nat
  month : Nat
  day : Nat
deriving DecidableEq, Repr

def maxYear : Nat := 9999

/-- The number of days in the years 1 to `maxYear`. -/
def dayLimit : Nat := 3652059

def isLeapYear (year : Nat) : Bool :=
  year % 4 == 0 && (year % 100 != 0 || year % 400 == 0)

def monthLengths (year : Nat) : List Nat :=
  [31, if isLeapYear year then 29 else 28, 31, 30, 31, 30, 31, 31, 30, 31, 30, 31]

/-- The number of days before the first of January of a year. -/
def daysBeforeYear (year : Nat) : Nat :=
  let past := year - 1
  past * 365 + past / 4 - past / 100 + past / 400

namespace Date

/-- The fields name a day of the calendar, in the years 1 to `maxYear`. -/
def IsValid (d : Date) : Prop :=
  1 ≤ d.year ∧ d.year ≤ maxYear ∧ 1 ≤ d.month ∧ 1 ≤ d.day
    ∧ d.day ≤ ((monthLengths d.year)[d.month - 1]?).getD 0

instance (d : Date) : Decidable d.IsValid := inferInstanceAs (Decidable (_ ∧ _))

def check? (d : Date) : Option Date := if d.IsValid then some d else none

/-- The number of days before a date. -/
def ordinal (d : Date) : Nat :=
  daysBeforeYear d.year + ((monthLengths d.year).take (d.month - 1)).foldl (· + ·) 0
    + (d.day - 1)

/-- The year of a day. The estimate by the mean length of a year is at most
one too high or too low. -/
def yearOf (n : Nat) : Nat :=
  let estimate := n * 400 / 146097 + 1
  if n < daysBeforeYear estimate then estimate - 1
  else if daysBeforeYear (estimate + 1) ≤ n then estimate + 1
  else estimate

/-- The month and the day of the month that lie `n` days after the first day
of month `month`, given the lengths of the months from there on. -/
def walkMonths (month : Nat) : List Nat → Nat → Nat × Nat
  | [], n => (month, n + 1)
  | length :: rest, n =>
    if n < length then (month, n + 1) else walkMonths (month + 1) rest (n - length)

def ofOrdinal (n : Nat) : Date :=
  let year := yearOf n
  let (month, day) := walkMonths 1 (monthLengths year) (n - daysBeforeYear year)
  { year, month, day }

/-! ## Weeks

Weeks begin on Monday, and a year's first week is the one that holds its
first Thursday. -/

/-- The day of the week of a day, Monday being 0. -/
def weekday (n : Nat) : Nat := n % 7

def firstMonday (year : Nat) : Nat :=
  let first := daysBeforeYear year
  if weekday first ≤ 3 then first - weekday first else first + 7 - weekday first

def weeksIn (year : Nat) : Nat :=
  let first := weekday (daysBeforeYear year)
  if first = 3 ∨ (first = 2 ∧ isLeapYear year = true) then 53 else 52

/-- The date of a weekday (Monday is 1) in a week of a year. -/
def ofWeek? (year week day : Nat) : Option Date :=
  if 1 ≤ year ∧ 1 ≤ week ∧ week ≤ weeksIn year ∧ 1 ≤ day ∧ day ≤ 7 then
    let n := firstMonday year + (week - 1) * 7 + (day - 1)
    if n < dayLimit then some (ofOrdinal n) else none
  else none

end Date

end Audience
