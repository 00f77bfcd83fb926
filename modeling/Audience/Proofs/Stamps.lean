import Audience.Calendar.Stamp
import Audience.Proofs.Calendar

/-!
# Stamps as they are written

`Stamp.ofText?` reads many forms of a date and time. This file writes one of
them, the common one, and shows that it is read back:

- numbers of a fixed width are runs of digits that denote them
  (`Text.decimalValue_padded`), two digits at a time (`Stamp.twoDigits?_padded`);
- a date `YYYY-MM-DD` is read to that date (`Stamp.date?_dateText`);
- a time `HH:MM:SS` (`Stamp.Clock`), with a fraction of six places or without
  one, and an offset `+HH:MM` or `-HH:MM` (`Stamp.Offset`), or none, are read
  to these (`Stamp.timeAndOffset?_text`).

Together: `Stamp.ofText?_text`, for any separator that is no surrogate.
-/

namespace Audience

/-! ## Runs of digits -/

namespace Text

theorem foldl_digits (t : Text) (n : Nat) :
    t.foldl (fun n c => n * 10 + (c - 0x30)) n = n * Nat.pow 10 t.length + decimalValue t := by
  unfold decimalValue
  induction t generalizing n with
  | nil => simp
  | cons c rest ih =>
      rw [List.foldl_cons, List.foldl_cons, ih, ih (0 * 10 + (c - 0x30)), List.length_cons,
        show Nat.pow 10 (rest.length + 1) = Nat.pow 10 rest.length * 10 from rfl,
        Nat.zero_mul, Nat.zero_add, Nat.add_mul, Nat.mul_assoc, Nat.add_assoc,
        Nat.mul_comm 10 (Nat.pow 10 rest.length)]

/-- A run of digits put before another counts by the places behind it. -/
theorem decimalValue_append (t u : Text) :
    decimalValue (t ++ u) = decimalValue t * Nat.pow 10 u.length + decimalValue u := by
  rw [decimalValue, List.foldl_append, foldl_digits]
  rfl

theorem decimalValue_lt {t : Text} (h : ∀ c ∈ t, isAsciiDigit c = true) :
    decimalValue t < Nat.pow 10 t.length := by
  induction t with
  | nil => decide
  | cons c rest ih =>
      obtain ⟨hc, hrest⟩ := List.forall_mem_cons.1 h
      have hdigit : c - 0x30 ≤ 9 := by
        simp only [isAsciiDigit, Bool.and_eq_true, decide_eq_true_eq] at hc
        omega
      have hlead : (c - 0x30) * Nat.pow 10 rest.length ≤ 9 * Nat.pow 10 rest.length :=
        Nat.mul_le_mul_right _ hdigit
      have hless := ih hrest
      rw [show c :: rest = [c] ++ rest from rfl, decimalValue_append]
      have hone : decimalValue [c] = c - 0x30 := by simp [decimalValue]
      rw [hone]
      change _ < Nat.pow 10 rest.length * 10
      omega

/-- Zeros behind a run of digits. -/
theorem decimalValue_zeros (k : Nat) : decimalValue (List.replicate k (code '0')) = 0 := by
  induction k with
  | zero => rfl
  | succ k ih =>
      rw [List.replicate_succ', decimalValue_append, ih]
      rfl

theorem digit_of_lt {d : Nat} (h : d < 10) : digit d = 0x30 + d := if_pos h

theorem length_padded (base width n : Nat) : (padded base width n).length = width := by
  induction width generalizing n with
  | zero => rfl
  | succ width ih => rw [padded, List.length_append, ih, List.length_singleton]

theorem isAsciiDigit_padded (width n : Nat) :
    ∀ c ∈ padded 10 width n, isAsciiDigit c = true := by
  induction width generalizing n with
  | zero => simp [padded]
  | succ width ih =>
      intro c hc
      rw [padded, List.mem_append, List.mem_singleton] at hc
      rcases hc with hc | rfl
      · exact ih _ c hc
      · have hdigit := Nat.mod_lt n (show 0 < 10 by decide)
        rw [digit_of_lt hdigit]
        simp only [isAsciiDigit, Bool.and_eq_true, decide_eq_true_eq]
        omega

/-- The last digits of a number denote its rest. -/
theorem decimalValue_padded (width n : Nat) :
    decimalValue (padded 10 width n) = n % Nat.pow 10 width := by
  induction width generalizing n with
  | zero => exact (Nat.mod_one n).symm
  | succ width ih =>
      have hdigit := Nat.mod_lt n (show 0 < 10 by decide)
      have hone : decimalValue [digit (n % 10)] = n % 10 := by
        rw [digit_of_lt hdigit]
        simp [decimalValue]
      rw [padded, decimalValue_append, ih, hone,
        show Nat.pow 10 [digit (n % 10)].length = 10 from rfl,
        show Nat.pow 10 (width + 1) = 10 * Nat.pow 10 width from Nat.mul_comm _ _, Nat.mod_mul]
      omega

theorem decimalValue?_of_digits {t : Text} (hne : t ≠ []) (h : ∀ c ∈ t, isAsciiDigit c = true) :
    decimalValue? t = some t.decimalValue :=
  if_pos ⟨hne, List.all_eq_true.2 h⟩

/-- Two digits in full. -/
theorem padded_two (n : Nat) : padded 10 2 n = [digit (n / 10 % 10), digit (n % 10)] := rfl

theorem padded_four (n : Nat) : padded 10 4 n = padded 10 2 (n / 100) ++ padded 10 2 n := by
  simp only [padded, List.nil_append, List.append_assoc, Nat.div_div_eq_div_mul]

theorem digit_ne {d c : Nat} (hd : d < 10) (hc : isAsciiDigit c = false) : digit d ≠ c := by
  rintro rfl
  rw [digit_of_lt hd] at hc
  simp only [isAsciiDigit, Bool.and_eq_false_iff, decide_eq_false_iff_not] at hc
  omega

end Text

namespace Stamp

theorem twoDigits?_padded (n : Nat) (rest : Text) :
    twoDigits? (Text.padded 10 2 n ++ rest) = some (n % 100, rest) := by
  have hread : Text.decimalValue? (Text.padded 10 2 n) = some (n % 100) := by
    have hne : Text.padded 10 2 n ≠ [] := by simp [Text.padded_two]
    rw [Text.decimalValue?_of_digits hne (Text.isAsciiDigit_padded 2 n),
      Text.decimalValue_padded]
  change (Text.decimalValue? (Text.padded 10 2 n)).map (·, rest) = _
  rw [hread]
  rfl

/-! ## The forms

A stamp is written with the digits `0` to `9` and a few marks. -/

/-- The text `YYYY-MM-DD` of a date. -/
def dateText (d : Date) : Text :=
  Text.padded 10 4 d.year
    ++ code '-' :: (Text.padded 10 2 d.month ++ code '-' :: Text.padded 10 2 d.day)

theorem length_dateText (d : Date) : (dateText d).length = 10 := by
  simp [dateText, Text.length_padded]

/-- A time of the day as it is written, with the digits of the fraction of its
second, if there are any. -/
structure Clock where
  hour : Fin 24
  minute : Fin 60
  second : Fin 60
  fraction : Text
  fraction_digits : ∀ c ∈ fraction, isAsciiDigit c = true

/-- An offset as it is written, shorter than a day. -/
structure Offset where
  negative : Bool
  hours : Fin 24
  minutes : Fin 60

namespace Clock

/-- The text `HH:MM:SS` of a time. -/
def wholeText (k : Clock) : Text :=
  Text.padded 10 2 k.hour
    ++ code ':' :: (Text.padded 10 2 k.minute ++ code ':' :: Text.padded 10 2 k.second)

theorem length_wholeText (k : Clock) : k.wholeText.length = 8 := by
  simp only [wholeText, List.length_append, List.length_cons, Text.length_padded]

/-- The fraction, behind a point. -/
def fractionText (k : Clock) : Text := if k.fraction = [] then [] else code '.' :: k.fraction

def text (k : Clock) : Text := k.wholeText ++ k.fractionText

/-- The fraction has the six places to which it counts, or is missing. -/
def IsFitted (k : Clock) : Prop := k.fraction = [] ∨ k.fraction.length = 6

/-- The time that a fitted one is. -/
def time (k : Clock) : TimeOfDay := ⟨k.hour, k.minute, k.second, k.fraction.decimalValue⟩

theorem IsFitted.isValid_time {k : Clock} (h : k.IsFitted) : k.time.IsValid := by
  refine ⟨k.hour.isLt, k.minute.isLt, k.second.isLt, ?_⟩
  change k.fraction.decimalValue < 1000000
  rcases h with hnone | hsix
  · rw [hnone]
    decide
  · have hless := Text.decimalValue_lt k.fraction_digits
    rw [hsix] at hless
    exact hless

end Clock

namespace Offset

def sign (o : Offset) : Nat := if o.negative then code '-' else code '+'

/-- The text `+HH:MM` or `-HH:MM` of an offset. -/
def text (o : Offset) : Text :=
  o.sign :: (Text.padded 10 2 o.hours ++ code ':' :: Text.padded 10 2 o.minutes)

/-- The length of an offset in microseconds. -/
def size (o : Offset) : Nat := (o.hours * 60 + o.minutes) * 60000000

def micros (o : Offset) : Int := if o.negative then -(o.size : Int) else o.size

theorem size_lt (o : Offset) : o.size < microsPerDay := by
  have hhours := o.hours.isLt
  have hminutes := o.minutes.isLt
  unfold size microsPerDay
  omega

end Offset

/-- What stands behind a time: an offset, or nothing. -/
def zoneText (zone : Option Offset) : Text := (zone.map Offset.text).getD []

/-! ## Their characters -/

/-- A digit or a mark of a written date, time or offset. -/
def isPlain (c : Nat) : Bool :=
  isAsciiDigit c || c == code '-' || c == code '+' || c == code ':' || c == code '.'

theorem isPlain_iff {c : Nat} :
    isPlain c = true ↔
      (0x30 ≤ c ∧ c ≤ 0x39) ∨ c = 0x2D ∨ c = 0x2B ∨ c = 0x3A ∨ c = 0x2E := by
  simp only [isPlain, isAsciiDigit, Bool.or_eq_true, Bool.and_eq_true, decide_eq_true_eq,
    beq_iff_eq, or_assoc]
  rfl

theorem isSurrogate_of_isPlain {c : Nat} (h : isPlain c = true) : isSurrogate c = false := by
  rw [isPlain_iff] at h
  simp only [isSurrogate, Bool.and_eq_false_iff, decide_eq_false_iff_not]
  omega

theorem isPlain_of_isAsciiDigit {c : Nat} (h : isAsciiDigit c = true) : isPlain c = true := by
  simp [isPlain, h]

theorem isPlain_padded (width n : Nat) : ∀ c ∈ Text.padded 10 width n, isPlain c = true :=
  fun c hc => isPlain_of_isAsciiDigit (Text.isAsciiDigit_padded width n c hc)

theorem isPlain_dateText (d : Date) : ∀ c ∈ dateText d, isPlain c = true := by
  have hdash : isPlain (code '-') = true := rfl
  simp only [dateText, List.forall_mem_append, List.forall_mem_cons, hdash, true_and]
  exact ⟨isPlain_padded 4 _, isPlain_padded 2 _, isPlain_padded 2 _⟩

theorem Clock.isPlain_wholeText (k : Clock) : ∀ c ∈ k.wholeText, isPlain c = true := by
  have hcolon : isPlain (code ':') = true := rfl
  simp only [wholeText, List.forall_mem_append, List.forall_mem_cons, hcolon, true_and]
  exact ⟨isPlain_padded 2 _, isPlain_padded 2 _, isPlain_padded 2 _⟩

theorem Clock.isPlain_text (k : Clock) : ∀ c ∈ k.text, isPlain c = true := by
  refine List.forall_mem_append.2 ⟨k.isPlain_wholeText, ?_⟩
  unfold fractionText
  split
  · exact List.forall_mem_nil _
  · refine List.forall_mem_cons.2 ⟨rfl, fun c hc => ?_⟩
    exact isPlain_of_isAsciiDigit (k.fraction_digits c hc)

theorem Offset.isPlain_text (o : Offset) : ∀ c ∈ o.text, isPlain c = true := by
  have hcolon : isPlain (code ':') = true := rfl
  have hsign : isPlain o.sign = true := by
    unfold sign
    split <;> rfl
  simp only [text, List.forall_mem_append, List.forall_mem_cons, hcolon, hsign, true_and]
  exact ⟨isPlain_padded 2 _, isPlain_padded 2 _⟩

theorem isPlain_zoneText (zone : Option Offset) : ∀ c ∈ zoneText zone, isPlain c = true := by
  cases zone with
  | none => exact List.forall_mem_nil _
  | some o => exact o.isPlain_text

/-! ## Reading a date -/

theorem monthDate?_dateText {d : Date} (h : d.IsValid) :
    monthDate? d.year true (Text.padded 10 2 d.month ++ code '-' :: Text.padded 10 2 d.day)
      = some d := by
  have hmonth : d.month % 100 = d.month := Nat.mod_eq_of_lt (by have := h.month_le; omega)
  have hday : d.day % 100 = d.day := Nat.mod_eq_of_lt (by have := h.day_le; omega)
  have hread := twoDigits?_padded d.day []
  rw [List.append_nil, hday] at hread
  simp [monthDate?, twoDigits?_padded, hmonth, hread, Date.check?, h]

theorem date?_dateText {d : Date} (h : d.IsValid) : date? (dateText d) = some d := by
  have hmax : d.year ≤ 9999 := h.2.1
  have hyear : d.year / 100 % 100 * 100 + d.year % 100 = d.year := by omega
  have hweek : (Text.padded 10 2 d.month ++ code '-' :: Text.padded 10 2 d.day).head?
      ≠ some (code 'W') := by
    rw [Text.padded_two, List.cons_append, List.head?_cons, ne_eq, Option.some.injEq]
    exact Text.digit_ne (Nat.mod_lt _ (by decide)) rfl
  rw [dateText, Text.padded_four, List.append_assoc]
  simp only [date?, twoDigits?_padded, Option.bind_eq_bind, Option.bind_some, hyear,
    List.head?_cons, decide_true, if_true, List.tail_cons, hweek, if_false]
  exact monthDate?_dateText h

/-! ## Reading a time

The reader of a time takes two digits and then looks at what follows them. -/

theorem clock?_last (separated : Option Bool) (n field : Nat) :
    clock? separated (n + 1) (Text.padded 10 2 field) = some ⟨[field % 100], 0, true⟩ := by
  have hread := twoDigits?_padded field []
  rw [List.append_nil] at hread
  rw [clock?, hread]
  rfl

/-- A colon and more: the field comes before what is read from there on. -/
theorem clock?_colon {separated : Option Bool} (hsep : separated ≠ some false) (n field : Nat)
    {more : Text} (hmore : more ≠ []) :
    clock? separated (n + 1) (Text.padded 10 2 field ++ code ':' :: more)
      = (clock? (some true) n more).map fun r => { r with fields := field % 100 :: r.fields } := by
  obtain ⟨c, rest, rfl⟩ := List.exists_cons_of_ne_nil hmore
  have hcolons : separated.getD true = true := by
    cases separated with
    | none => rfl
    | some b =>
        cases b with
        | true => rfl
        | false => exact absurd rfl hsep
  rw [clock?, twoDigits?_padded]
  simp [hcolons]

/-- A point and more: the field comes before the fraction. -/
theorem clock?_point (n field : Nat) {more : Text} (hmore : more ≠ []) :
    clock? (some true) (n + 1) (Text.padded 10 2 field ++ code '.' :: more)
      = (fraction? more).map fun r => { r with fields := field % 100 :: r.fields } := by
  obtain ⟨c, rest, rfl⟩ := List.exists_cons_of_ne_nil hmore
  have hne : code '.' ≠ code ':' := by decide
  rw [clock?, twoDigits?_padded]
  simp [hne]

theorem fraction?_six {digits : Text} (hlength : digits.length = 6)
    (h : ∀ c ∈ digits, isAsciiDigit c = true) :
    fraction? digits = some ⟨[], digits.decimalValue, true⟩ := by
  have htake : digits.take 6 = digits := List.take_of_length_le (Nat.le_of_eq hlength)
  have hdrop : digits.drop 6 = [] := List.drop_of_length_le (Nat.le_of_eq hlength)
  have hne : digits ≠ [] := by
    rintro rfl
    cases hlength
  have hread := Text.decimalValue?_of_digits hne h
  simp [fraction?, htake, hdrop, hread, hlength]

theorem clock?_text {k : Clock} (h : k.IsFitted) :
    clock? none 3 k.text
      = some ⟨[k.hour, k.minute, k.second], k.fraction.decimalValue, true⟩ := by
  have hhour : (k.hour : Nat) % 100 = k.hour := Nat.mod_eq_of_lt (by omega)
  have hminute : (k.minute : Nat) % 100 = k.minute := Nat.mod_eq_of_lt (by omega)
  have hsecond : (k.second : Nat) % 100 = k.second := Nat.mod_eq_of_lt (by omega)
  rcases h with hnone | hsix
  · rw [Clock.text, Clock.wholeText, Clock.fractionText, if_pos hnone, List.append_nil,
      clock?_colon (by decide) _ _ (by simp [Text.padded_two]),
      clock?_colon (by decide) _ _ (by simp [Text.padded_two]), clock?_last]
    simp only [Option.map_some, hhour, hminute, hsecond, hnone]
    rfl
  · have hne : k.fraction ≠ [] := by
      intro hnone
      rw [hnone] at hsix
      cases hsix
    rw [Clock.text, Clock.wholeText, Clock.fractionText, if_neg hne, List.append_assoc,
      List.cons_append, List.append_assoc, List.cons_append,
      clock?_colon (by decide) _ _ (by simp [Text.padded_two]),
      clock?_colon (by decide) _ _ (by simp [Text.padded_two]), clock?_point _ _ hne,
      fraction?_six hsix k.fraction_digits]
    simp only [Option.map_some, hhour, hminute, hsecond]

/-! ## Reading an offset -/

theorem offset?_hoursMinutes (o : Offset) :
    offset? o.negative (Text.padded 10 2 o.hours ++ code ':' :: Text.padded 10 2 o.minutes)
      = some o.micros := by
  have hhours : (o.hours : Nat) % 100 = o.hours := Nat.mod_eq_of_lt (by omega)
  have hminutes : (o.minutes : Nat) % 100 = o.minutes := Nat.mod_eq_of_lt (by omega)
  have hread : clock? none 3 (Text.padded 10 2 o.hours ++ code ':' :: Text.padded 10 2 o.minutes)
      = some ⟨[o.hours, o.minutes], 0, true⟩ := by
    rw [clock?_colon (by decide) _ _ (by simp [Text.padded_two]), clock?_last]
    simp only [Option.map_some, hhours, hminutes]
  have hmicros : (TimeOfDay.mk o.hours o.minutes 0 0).micros = o.size := by
    simp only [TimeOfDay.micros, TimeOfDay.seconds, Offset.size]
    omega
  have hsize : (if (TimeOfDay.mk o.hours o.minutes 0 0).seconds = 0 then 0
      else (TimeOfDay.mk o.hours o.minutes 0 0).micros) = o.size := by
    split
    · rename_i hzero
      rw [← hmicros, TimeOfDay.micros, hzero]
      rfl
    · exact hmicros
  have htime : ClockReading.time ⟨[o.hours, o.minutes], 0, true⟩ = ⟨o.hours, o.minutes, 0, 0⟩ := rfl
  rw [offset?, hread]
  simp only [Option.bind_eq_bind, Option.bind_some, htime, hsize, o.size_lt, if_true, Bool.not_true,
    Bool.false_eq_true, if_false, Offset.micros]

theorem beginsOffset_sign (o : Offset) : beginsOffset o.sign = true := by
  unfold Offset.sign
  split <;> rfl

theorem beginsOffset_of_isAsciiDigit {c : Nat} (h : isAsciiDigit c = true) :
    beginsOffset c = false := by
  have hplus : code '+' = 0x2B := rfl
  have hminus : code '-' = 0x2D := rfl
  have hz : code 'Z' = 0x5A := rfl
  simp only [isAsciiDigit, Bool.and_eq_true, decide_eq_true_eq] at h
  simp only [beginsOffset, Bool.or_eq_false_iff, beq_eq_false_iff_ne, ne_eq, hplus, hminus, hz]
  omega

theorem beginsOffset_padded (width n : Nat) :
    ∀ c ∈ Text.padded 10 width n, beginsOffset c = false :=
  fun c hc => beginsOffset_of_isAsciiDigit (Text.isAsciiDigit_padded width n c hc)

/-- No offset begins within a time. -/
theorem Clock.beginsOffset_text (k : Clock) : ∀ c ∈ k.text, beginsOffset c = false := by
  have hcolon : beginsOffset (code ':') = false := rfl
  have hfraction : ∀ c ∈ k.fractionText, beginsOffset c = false := by
    unfold fractionText
    split
    · exact List.forall_mem_nil _
    · refine List.forall_mem_cons.2 ⟨rfl, fun c hc => ?_⟩
      exact beginsOffset_of_isAsciiDigit (k.fraction_digits c hc)
  simp only [text, wholeText, List.forall_mem_append, List.forall_mem_cons, hcolon, true_and]
  exact ⟨⟨beginsOffset_padded 2 _, beginsOffset_padded 2 _, beginsOffset_padded 2 _⟩, hfraction⟩

/-- A time and what stands behind it are read apart. -/
theorem timeAndOffset?_text {k : Clock} (h : k.IsFitted) (zone : Option Offset) :
    timeAndOffset? (k.text ++ zoneText zone) = some (k.time, zone.map Offset.micros) := by
  have hclock : ∀ c ∈ k.text, (!beginsOffset c) = true := by
    intro c hc
    rw [k.beginsOffset_text c hc]
    rfl
  have htime : ClockReading.time ⟨[k.hour, k.minute, k.second], k.fraction.decimalValue, true⟩
      = k.time := rfl
  rw [timeAndOffset?, List.takeWhile_append_of_pos hclock, List.dropWhile_append_of_pos hclock]
  cases zone with
  | none =>
      simp only [zoneText, Option.map_none, Option.getD_none, List.takeWhile_nil, List.append_nil,
        List.dropWhile_nil, clock?_text h, Option.bind_eq_bind, Option.bind_some, if_true, htime,
        h.isValid_time]
  | some o =>
      have hz : o.sign ≠ code 'Z' := by
        unfold Offset.sign
        split <;> decide
      have hnegative : (o.sign == code '-') = o.negative := by
        unfold Offset.sign
        cases o.negative <;> rfl
      simp only [zoneText, Option.map_some, Option.getD_some, Offset.text, List.takeWhile_cons,
        List.dropWhile_cons, beginsOffset_sign, Bool.not_true, Bool.false_eq_true, if_false,
        List.append_nil, clock?_text h, Option.bind_eq_bind, Option.bind_some, hz, hnegative,
        offset?_hoursMinutes, htime, h.isValid_time, if_true]

/-! ## The whole -/

theorem settleSeparator_eq_self {t : Text} (h : ∀ c ∈ t, isSurrogate c = false) :
    settleSeparator t = t := by
  have hnone : [7, 8, 10].find? (fun i => (t[i]?).any isSurrogate) = none := by
    refine List.find?_eq_none.2 fun i _ hi => ?_
    cases hc : t[i]? with
    | none => simp [hc] at hi
    | some c =>
        rw [hc, Option.any_some, h c (List.mem_of_getElem? hc)] at hi
        cases hi
  rw [settleSeparator, hnone]

/-- The date ends after ten characters. -/
theorem dateLength_dateText (d : Date) (separator : Nat) (rest : Text) :
    dateLength (dateText d ++ separator :: rest) = 10 := by
  have hlength : (dateText d ++ separator :: rest).length ≠ 7 := by
    rw [List.length_append, length_dateText]
    omega
  have hdash : (dateText d ++ separator :: rest)[4]? = some (code '-') := rfl
  have hmonth : (dateText d ++ separator :: rest)[5]? = some (Text.digit (d.month / 10 % 10)) := rfl
  have hweek : Text.digit (d.month / 10 % 10) ≠ code 'W' :=
    Text.digit_ne (Nat.mod_lt _ (by decide)) rfl
  simp only [dateLength, hlength, if_false, hdash, hmonth, beq_self_eq_true, if_true,
    Option.some_beq_some, beq_eq_false_iff_ne.2 hweek, Bool.false_eq_true]

/-- A date, a separator and a time are read one after the other. -/
theorem ofText?_of_parts {d : Date} (hdate : d.IsValid) {separator : Nat} {rest : Text}
    (hplain : ∀ c ∈ dateText d ++ separator :: rest, isSurrogate c = false)
    {time : TimeOfDay} {offset : Option Int} (hrest : timeAndOffset? rest = some (time, offset)) :
    ofText? (dateText d ++ separator :: rest) = some { date := d, time, offset } := by
  have hlong : ¬ (dateText d ++ separator :: rest).length < 7 := by
    rw [List.length_append, length_dateText]
    omega
  have hsurrogate : (dateText d ++ separator :: rest).any isSurrogate = false := by
    rw [List.any_eq_false]
    intro c hc
    rw [hplain c hc]
    exact Bool.false_ne_true
  have htake : (dateText d ++ separator :: rest).take 10 = dateText d :=
    List.take_left' (length_dateText d)
  have hdrop : (dateText d ++ separator :: rest).drop 10 = separator :: rest :=
    List.drop_left' (length_dateText d)
  simp only [ofText?, hlong, if_false, settleSeparator_eq_self hplain, hsurrogate,
    Bool.false_eq_true, dateLength_dateText, htake, hdrop, date?_dateText hdate, hrest,
    Option.bind_eq_bind, Option.bind_some]

/-- **A written stamp is read back.** -/
theorem ofText?_text {d : Date} (hdate : d.IsValid) {separator : Nat}
    (hseparator : isSurrogate separator = false) {k : Clock} (h : k.IsFitted)
    (zone : Option Offset) :
    ofText? (dateText d ++ separator :: (k.text ++ zoneText zone))
      = some { date := d, time := k.time, offset := zone.map Offset.micros } := by
  refine ofText?_of_parts hdate ?_ (timeAndOffset?_text h zone)
  simp only [List.forall_mem_append, List.forall_mem_cons, hseparator, true_and]
  exact ⟨fun c hc => isSurrogate_of_isPlain (isPlain_dateText d c hc),
    fun c hc => isSurrogate_of_isPlain (k.isPlain_text c hc),
    fun c hc => isSurrogate_of_isPlain (isPlain_zoneText zone c hc)⟩

end Stamp

end Audience
