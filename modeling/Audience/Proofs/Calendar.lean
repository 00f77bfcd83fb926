import Audience.Calendar.Date

/-!
# The days of the calendar

Days are numbered by `Date.ordinal` and found again by `Date.ofOrdinal`, both
in closed form. This file shows that the numbering is that of the calendar:

- `Date.ordinal_ofOrdinal` and `Date.ofOrdinal_ordinal`: between the numbers
  below `dayLimit` and the valid dates, each of the two is the inverse of the
  other;
- `Date.ordinal_tomorrow`: the number goes up by one from a date to the next.

So the number of a date counts the steps to it from the first day
(`Date.afterDays_ordinal`), where a step from a date to the next knows nothing
but the lengths of the months.

The one computation with an idea is the year of a day. `Date.yearOf` starts
from the mean length of a year, 146097 days in 400 years, and is off by at
most one because the leap years never gain or lose two days against the mean
(`daysBeforeYear_near`).
-/

namespace Audience

/-! ## Years -/

def yearLength (year : Nat) : Nat := if isLeapYear year then 366 else 365

/-- A quotient goes up by one where the remainder is zero again. -/
theorem succ_div_eq (n d : Nat) : (n + 1) / d = n / d + if (n + 1) % d = 0 then 1 else 0 := by
  rw [Nat.succ_div]
  simp only [Nat.dvd_iff_mod_eq_zero]

theorem daysBeforeYear_succ {year : Nat} (h : 1 ≤ year) :
    daysBeforeYear (year + 1) = daysBeforeYear year + yearLength year := by
  obtain ⟨past, rfl⟩ : ∃ past, year = past + 1 := ⟨year - 1, by omega⟩
  have hless : past / 100 ≤ past / 4 := Nat.div_le_div_left (by decide) (by decide)
  simp only [daysBeforeYear, yearLength, isLeapYear, Nat.add_sub_cancel, succ_div_eq past]
  generalize past / 4 = q4 at *
  generalize past / 100 = q100 at *
  generalize past / 400 = q400 at *
  by_cases h4 : (past + 1) % 4 = 0
  · by_cases h100 : (past + 1) % 100 = 0
    · by_cases h400 : (past + 1) % 400 = 0
      · simp [h4, h100, h400]
        omega
      · simp [h4, h100, h400]
        omega
    · have h400 : (past + 1) % 400 ≠ 0 := by omega
      simp [h4, h100, h400]
      omega
  · have h100 : (past + 1) % 100 ≠ 0 := by omega
    have h400 : (past + 1) % 400 ≠ 0 := by omega
    simp [h4, h100, h400]
    omega

theorem daysBeforeYear_mono {year later : Nat} (h : 1 ≤ year) (hle : year ≤ later) :
    daysBeforeYear year ≤ daysBeforeYear later := by
  induction hle with
  | refl => exact Nat.le_refl _
  | @step later hle ih =>
      rw [Nat.succ_eq_add_one, daysBeforeYear_succ (Nat.le_trans h hle)]
      omega

/-- The days before a year are those of as many mean years, up to less than
two days. -/
theorem daysBeforeYear_near (past : Nat) :
    400 * daysBeforeYear (past + 1) ≤ 146097 * past + 396
      ∧ 146097 * past ≤ 400 * daysBeforeYear (past + 1) + 699 := by
  have h4 := Nat.div_add_mod past 4
  have h100 := Nat.div_add_mod past 100
  have h400 := Nat.div_add_mod past 400
  have l4 := Nat.mod_lt past (show 0 < 4 by decide)
  have l100 := Nat.mod_lt past (show 0 < 100 by decide)
  have l400 := Nat.mod_lt past (show 0 < 400 by decide)
  have hless : past / 100 ≤ past / 4 := Nat.div_le_div_left (by decide) (by decide)
  simp only [daysBeforeYear, Nat.add_sub_cancel]
  generalize past / 4 = q4 at *
  generalize past / 100 = q100 at *
  generalize past / 400 = q400 at *
  generalize past % 4 = r4 at *
  generalize past % 100 = r100 at *
  generalize past % 400 = r400 at *
  omega

/-- The year that is found for a day is the one that it lies in. -/
theorem yearOf_spec (n : Nat) :
    1 ≤ Date.yearOf n ∧ daysBeforeYear (Date.yearOf n) ≤ n
      ∧ n < daysBeforeYear (Date.yearOf n + 1) := by
  have hfloor := Nat.div_add_mod (n * 400) 146097
  have hrest := Nat.mod_lt (n * 400) (show 0 < 146097 by decide)
  unfold Date.yearOf
  generalize n * 400 % 146097 = rest at *
  generalize n * 400 / 146097 = mean at *
  have hafter := (daysBeforeYear_near (mean + 2)).2
  dsimp only
  split
  · -- the estimate is one too high, and not by two
    rename_i hearly
    cases mean with
    | zero => simp [daysBeforeYear] at hearly
    | succ mean =>
        have hbefore := (daysBeforeYear_near mean).1
        simp only [Nat.add_sub_cancel]
        omega
  · rename_i hlate
    split
    · -- one too low, and not by two
      rename_i hnext
      rw [show mean + 1 + 1 + 1 = mean + 2 + 1 from rfl]
      omega
    · rename_i hnext
      exact ⟨by omega, by omega, by omega⟩

/-- Only one year holds a day. -/
theorem yearOf_eq {year n : Nat} (hle : daysBeforeYear year ≤ n)
    (hlt : n < daysBeforeYear (year + 1)) : Date.yearOf n = year := by
  obtain ⟨hone, hfrom, hto⟩ := yearOf_spec n
  rcases Nat.lt_trichotomy (Date.yearOf n) year with hbefore | heq | hafter
  · have hmono := daysBeforeYear_mono (Nat.le_add_left 1 _) hbefore
    omega
  · exact heq
  · have hmono := daysBeforeYear_mono (Nat.le_add_left 1 _) hafter
    omega

/-! ## Months

The days of a year are laid out month after month, so a day of the year is a
month and the days that have passed in it. This holds of any list of
lengths. -/

namespace Date

theorem sum_cons (length : Nat) (lengths : List Nat) :
    (length :: lengths).foldl (· + ·) 0 = length + lengths.foldl (· + ·) 0 := by
  rw [List.foldl_cons, Nat.zero_add]
  exact @List.foldl_assoc Nat (· + ·) _ lengths length 0

theorem sum_take_succ {lengths : List Nat} {i length : Nat} (h : lengths[i]? = some length) :
    (lengths.take (i + 1)).foldl (· + ·) 0 = (lengths.take i).foldl (· + ·) 0 + length := by
  rw [List.take_add_one, h, Option.toList_some, List.foldl_append]
  rfl

theorem sum_take_le (lengths : List Nat) (i : Nat) :
    (lengths.take i).foldl (· + ·) 0 ≤ lengths.foldl (· + ·) 0 := by
  induction lengths generalizing i with
  | nil => simp
  | cons length lengths ih =>
      cases i with
      | zero => exact Nat.zero_le _
      | succ i =>
          rw [List.take_succ_cons, sum_cons, sum_cons]
          exact Nat.add_le_add_left (ih i) length

/-- Walking through the months ends in the one that a day lies in. -/
theorem walkMonths_sum {lengths : List Nat} {i length : Nat} (hi : lengths[i]? = some length)
    (month : Nat) {day : Nat} (hday : day < length) :
    walkMonths month lengths ((lengths.take i).foldl (· + ·) 0 + day) = (month + i, day + 1) := by
  induction lengths generalizing i month with
  | nil => simp at hi
  | cons first lengths ih =>
      cases i with
      | zero =>
          simp only [List.getElem?_cons_zero, Option.some.injEq] at hi
          subst hi
          simp [walkMonths, hday]
      | succ i =>
          rw [List.getElem?_cons_succ] at hi
          rw [List.take_succ_cons, sum_cons, walkMonths, if_neg (by omega),
            show first + (lengths.take i).foldl (· + ·) 0 + day - first
              = (lengths.take i).foldl (· + ·) 0 + day by omega, ih hi]
          simp only [Prod.mk.injEq, and_true]
          omega

/-- Every day of the year lies in some month. -/
theorem exists_month {lengths : List Nat} {n : Nat} (h : n < lengths.foldl (· + ·) 0) :
    ∃ i length day, lengths[i]? = some length ∧ day < length
      ∧ n = (lengths.take i).foldl (· + ·) 0 + day := by
  induction lengths generalizing n with
  | nil => simp at h
  | cons first lengths ih =>
      by_cases hfirst : n < first
      · exact ⟨0, first, n, rfl, hfirst, by simp⟩
      · rw [sum_cons] at h
        obtain ⟨i, length, day, hi, hday, hn⟩ := ih (n := n - first) (by omega)
        refine ⟨i + 1, length, day, hi, hday, ?_⟩
        rw [List.take_succ_cons, sum_cons]
        omega

theorem sum_monthLengths (year : Nat) :
    (monthLengths year).foldl (· + ·) 0 = yearLength year := by
  unfold monthLengths yearLength
  cases isLeapYear year <;> rfl

theorem length_monthLengths (year : Nat) : (monthLengths year).length = 12 := rfl

theorem mem_monthLengths {year length : Nat} (h : length ∈ monthLengths year) :
    28 ≤ length ∧ length ≤ 31 := by
  revert length
  unfold monthLengths
  cases isLeapYear year <;> decide

/-! ## Dates -/

/-- The days of a date's month. -/
def monthLength (d : Date) : Nat := ((monthLengths d.year)[d.month - 1]?).getD 0

/-- The date after a date. -/
def tomorrow (d : Date) : Date :=
  if d.day < d.monthLength then { d with day := d.day + 1 }
  else if d.month < 12 then { d with month := d.month + 1, day := 1 }
  else { year := d.year + 1, month := 1, day := 1 }

def first : Date := { year := 1, month := 1, day := 1 }

/-- The date that lies so many days after the first one. -/
def afterDays : Nat → Date
  | 0 => first
  | n + 1 => (afterDays n).tomorrow

variable {d : Date}

theorem IsValid.monthLength_eq (h : d.IsValid) :
    (monthLengths d.year)[d.month - 1]? = some d.monthLength := by
  obtain ⟨-, -, hmonth, hday, hlength⟩ := h
  unfold monthLength
  cases hm : (monthLengths d.year)[d.month - 1]? with
  | some length => rfl
  | none =>
      rw [hm, Option.getD_none] at hlength
      omega

theorem IsValid.month_le (h : d.IsValid) : d.month ≤ 12 := by
  have hmonth := (List.getElem?_eq_some_iff.1 h.monthLength_eq).1
  rw [length_monthLengths] at hmonth
  omega

theorem IsValid.day_le (h : d.IsValid) : d.day ≤ 31 :=
  Nat.le_trans h.2.2.2.2 (mem_monthLengths (List.mem_of_getElem? h.monthLength_eq)).2

/-- A date lies in its year. -/
theorem IsValid.ordinal_lt (h : d.IsValid) : d.ordinal < daysBeforeYear (d.year + 1) := by
  obtain ⟨hyear, -, hmonth, hday, hlength⟩ := id h
  have hsum := sum_take_le (monthLengths d.year) (d.month - 1 + 1)
  rw [sum_take_succ h.monthLength_eq, sum_monthLengths] at hsum
  rw [daysBeforeYear_succ hyear, ordinal]
  change d.day ≤ d.monthLength at hlength
  omega

theorem IsValid.ordinal_lt_dayLimit (h : d.IsValid) : d.ordinal < dayLimit := by
  have hyear : d.year + 1 ≤ 10000 := Nat.succ_le_succ h.2.1
  exact Nat.lt_of_lt_of_le h.ordinal_lt (daysBeforeYear_mono (Nat.le_add_left 1 _) hyear)

/-- The date of a date's number is that date. -/
theorem ofOrdinal_ordinal (h : d.IsValid) : ofOrdinal d.ordinal = d := by
  obtain ⟨hyear, -, hmonth, hday, hlength⟩ := id h
  change d.day ≤ d.monthLength at hlength
  have hfrom : daysBeforeYear d.year ≤ d.ordinal := by
    unfold ordinal
    omega
  have hfound : yearOf d.ordinal = d.year := yearOf_eq hfrom h.ordinal_lt
  have hpassed : d.ordinal - daysBeforeYear d.year
      = ((monthLengths d.year).take (d.month - 1)).foldl (· + ·) 0 + (d.day - 1) := by
    unfold ordinal
    omega
  have hwalk := @walkMonths_sum _ _ _ h.monthLength_eq 1 (d.day - 1) (by omega)
  simp only [ofOrdinal, hfound, hpassed, hwalk]
  rw [show 1 + (d.month - 1) = d.month by omega, show d.day - 1 + 1 = d.day by omega]

/-- A number below the limit belongs to a valid date, and is that date's
number. -/
theorem isValid_ofOrdinal {n : Nat} (h : n < dayLimit) :
    (ofOrdinal n).IsValid ∧ (ofOrdinal n).ordinal = n := by
  obtain ⟨hyear, hfrom, hto⟩ := yearOf_spec n
  have hmax : yearOf n ≤ maxYear := by
    rcases Nat.lt_or_ge maxYear (yearOf n) with hbeyond | hwithin
    · have hlimit : daysBeforeYear (maxYear + 1) ≤ daysBeforeYear (yearOf n) :=
        daysBeforeYear_mono (by decide) hbeyond
      have hdays : daysBeforeYear (maxYear + 1) = dayLimit := by decide
      omega
    · exact hwithin
  have hdays : n - daysBeforeYear (yearOf n) < (monthLengths (yearOf n)).foldl (· + ·) 0 := by
    rw [sum_monthLengths]
    rw [daysBeforeYear_succ hyear] at hto
    omega
  obtain ⟨i, length, day, hi, hday, hn⟩ := exists_month hdays
  have hwalk := walkMonths_sum hi 1 hday
  have hdate : ofOrdinal n = { year := yearOf n, month := 1 + i, day := day + 1 } := by
    simp only [ofOrdinal, hn, hwalk]
  rw [hdate]
  have hmonth : 1 + i - 1 = i := by omega
  refine ⟨⟨hyear, hmax, by simp only; omega, by simp only; omega, ?_⟩, ?_⟩
  · simp only [hmonth, hi, Option.getD_some]
    omega
  · simp only [ordinal, hmonth]
    omega

theorem ordinal_ofOrdinal {n : Nat} (h : n < dayLimit) : (ofOrdinal n).ordinal = n :=
  (isValid_ofOrdinal h).2

/-- The next date has the next number. -/
theorem ordinal_tomorrow (h : d.IsValid) : d.tomorrow.ordinal = d.ordinal + 1 := by
  obtain ⟨hyear, -, hmonth, hday, hlength⟩ := id h
  change d.day ≤ d.monthLength at hlength
  have hnext := sum_take_succ h.monthLength_eq
  unfold tomorrow
  split
  · simp only [ordinal]
    omega
  · have hlast : d.day = d.monthLength := by omega
    rw [show d.month - 1 + 1 = d.month by omega] at hnext
    split
    · simp only [ordinal, Nat.add_sub_cancel, hnext]
      omega
    · have hdecember : d.month = 12 := by
        have := h.month_le
        omega
      have hyearEnd : ((monthLengths d.year).take d.month).foldl (· + ·) 0 = yearLength d.year := by
        rw [hdecember, ← sum_monthLengths]
        rfl
      simp only [ordinal, daysBeforeYear_succ hyear, Nat.sub_self, List.take_zero, List.foldl_nil]
      omega

theorem one_le_monthLengths (year : Nat) {i : Nat} (h : i < 12) :
    1 ≤ ((monthLengths year)[i]?).getD 0 := by
  rw [List.getElem?_eq_getElem h, Option.getD_some]
  exact Nat.le_trans (by decide) (mem_monthLengths (List.getElem_mem h)).1

/-- The next date is valid unless the calendar ends. -/
theorem IsValid.tomorrow (h : d.IsValid) (hlimit : d.ordinal + 1 < dayLimit) :
    d.tomorrow.IsValid := by
  obtain ⟨hyear, hmax, hmonth, hday, hlength⟩ := id h
  unfold Date.tomorrow
  split
  · rename_i hshort
    exact ⟨hyear, hmax, hmonth, Nat.le_add_left 1 _, hshort⟩
  · split
    · rename_i hmid
      refine ⟨hyear, hmax, Nat.le_add_left 1 _, Nat.le_refl _, ?_⟩
      exact one_le_monthLengths d.year hmid
    · rename_i hlast hmid
      have hnext := ordinal_tomorrow h
      rw [Date.tomorrow, if_neg hlast, if_neg hmid] at hnext
      have hnew : (Date.mk (d.year + 1) 1 1).ordinal = daysBeforeYear (d.year + 1) := rfl
      refine ⟨Nat.le_add_left 1 _, ?_, Nat.le_refl _, Nat.le_refl _,
        one_le_monthLengths _ (i := 0) (by decide)⟩
      rcases Nat.lt_or_ge maxYear (d.year + 1) with hbeyond | hwithin
      · have hmono : daysBeforeYear (maxYear + 1) ≤ daysBeforeYear (d.year + 1) :=
          daysBeforeYear_mono (by decide) hbeyond
        have hdays : daysBeforeYear (maxYear + 1) = dayLimit := by decide
        omega
      · exact hwithin

/-- Every number below the limit is the number of steps from the first day. -/
theorem afterDays_eq {n : Nat} (h : n < dayLimit) : afterDays n = ofOrdinal n := by
  induction n with
  | zero => rfl
  | succ n ih =>
      obtain ⟨hvalid, hordinal⟩ := isValid_ofOrdinal (n := n) (by omega)
      have hnext := ordinal_tomorrow hvalid
      rw [hordinal] at hnext
      rw [afterDays, ih (by omega), ← hnext, ofOrdinal_ordinal]
      exact hvalid.tomorrow (by omega)

/-- **The numbering of days.** The number of a date counts the days from the
first one to it. -/
theorem afterDays_ordinal (h : d.IsValid) : afterDays d.ordinal = d := by
  rw [afterDays_eq h.ordinal_lt_dayLimit, ofOrdinal_ordinal h]

end Date

end Audience
