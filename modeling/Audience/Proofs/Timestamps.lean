import Audience.Proofs.Quiet
import Audience.Proofs.Stamps

/-!
# Timestamps are read as instants

A timestamp in the data may be written in many ways: with a `T` or a space
between date and time, with any number of places behind the second, with `Z`,
an offset or nothing at its end, and with blanks around it. `Timestamp.Written`
is one of these ways, and `Timestamp.Written.position` is the point in time
that it means, which is arithmetic on its date, its time and its offset alone.

Reading goes through three cleaning steps before the stamp is read, and each
turns a written timestamp into a written stamp of the same time:

- blanks are trimmed (`trim_text`);
- a final `Z` becomes an offset (`spellOutZ_core`);
- the fraction is cut or filled to six places, which is rounding down to the
  microsecond (`fitFractions_spelled`, `decimalValue_fitFraction`).

So a written timestamp is read as the point in time that it means, and as
nothing if that lies off the calendar (`Written.toInstant?_text`). The text of
an instant is one of these ways to write it (`Written.ofInstant`), and so reads
back. `Audience.Proofs.Interchange` draws the conclusion for the rules.
-/

namespace Audience

namespace Timestamp

/-! ## The ways to write a timestamp -/

/-- How a timestamp says what its time is measured from. -/
inductive Zone where
  | unsaid
  | zulu (small : Bool)
  | offset (o : Stamp.Offset)

namespace Zone

def text : Zone → Text
  | .unsaid => []
  | .zulu small => [if small then code 'z' else code 'Z']
  | .offset o => o.text

/-- By how much the time is ahead of universal time, in microseconds. -/
def micros : Zone → Int
  | .unsaid | .zulu _ => 0
  | .offset o => o.micros

/-- The same with `Z` spelled as an offset. -/
def spelled : Zone → Option Stamp.Offset
  | .unsaid => none
  | .zulu _ => some ⟨false, 0, 0⟩
  | .offset o => some o

theorem micros_spelled (z : Zone) : (z.spelled.map Stamp.Offset.micros).getD 0 = z.micros := by
  cases z <;> rfl

end Zone

/-- A timestamp as it is written. -/
structure Written where
  before : Text
  date : Date
  spaced : Bool
  clock : Stamp.Clock
  zone : Zone
  after : Text
  date_valid : date.IsValid
  before_blank : ∀ c ∈ before, isBlank c = true
  after_blank : ∀ c ∈ after, isBlank c = true

/-- The whole microseconds of a fraction of a second. -/
def fractionMicros (digits : Text) : Nat :=
  digits.decimalValue * 1000000 / Nat.pow 10 digits.length

namespace Written

def separator (w : Written) : Nat := if w.spaced then code ' ' else code 'T'

/-- The timestamp without the blanks around it. -/
def core (w : Written) : Text :=
  Stamp.dateText w.date ++ w.separator :: (w.clock.text ++ w.zone.text)

def text (w : Written) : Text := w.before ++ w.core ++ w.after

/-- The point in time that is meant, in microseconds since the beginning of
the year 1: the local time less its offset. -/
def position (w : Written) : Int :=
  w.date.ordinal * microsPerDay
    + (((w.clock.hour * 60 + w.clock.minute) * 60 + w.clock.second) * 1000000
      + fractionMicros w.clock.fraction : Nat)
    - w.zone.micros

end Written

/-! ## Trimming -/

theorem dropWhile_eq_self {p : Nat → Bool} {t : Text}
    (h : ∀ c, t.head? = some c → p c = false) : t.dropWhile p = t := by
  cases t with
  | nil => rfl
  | cons c rest => rw [List.dropWhile_cons, h c rfl, if_neg Bool.false_ne_true]

theorem trim_surrounded {before core after : Text} (hbefore : ∀ c ∈ before, isBlank c = true)
    (hafter : ∀ c ∈ after, isBlank c = true) (hne : core ≠ [])
    (hfirst : ∀ c, core.head? = some c → isBlank c = false)
    (hlast : ∀ c, core.getLast? = some c → isBlank c = false) :
    (before ++ core ++ after).trim = core := by
  have hfront : (before ++ core ++ after).dropWhile isBlank = core ++ after := by
    rw [List.append_assoc, List.dropWhile_append_of_pos hbefore]
    obtain ⟨first, rest, rfl⟩ := List.exists_cons_of_ne_nil hne
    exact dropWhile_eq_self fun c hc => hfirst c hc
  have hback : (core ++ after).reverse.dropWhile isBlank = core.reverse := by
    rw [List.reverse_append,
      List.dropWhile_append_of_pos fun c hc => hafter c (List.mem_reverse.1 hc)]
    refine dropWhile_eq_self fun c hc => hlast c ?_
    rwa [List.head?_reverse] at hc
  rw [Text.trim, Text.trimWhere, hfront, hback, List.reverse_reverse]

/-- The last character of two texts put together belongs to the second. -/
theorem mem_of_getLast?_append {t u : Text} (hu : u ≠ []) {c : Nat}
    (h : (t ++ u).getLast? = some c) : c ∈ u := by
  rw [List.getLast?_append] at h
  cases hlast : u.getLast? with
  | none => exact absurd (List.getLast?_eq_none_iff.1 hlast) hu
  | some last =>
      rw [hlast, Option.some_or] at h
      exact Option.some.inj h ▸ List.mem_of_getLast? hlast

theorem isBlank_of_isPlain {c : Nat} (h : Stamp.isPlain c = true) : isBlank c = false := by
  rw [Stamp.isPlain_iff] at h
  simp only [isBlank, isSpace, Bool.or_eq_false_iff, Bool.and_eq_false_iff,
    decide_eq_false_iff_not, beq_eq_false_iff_ne, ne_eq]
  omega

namespace Written

variable (w : Written)

theorem clock_ne_nil (rest : Text) : w.clock.text ++ rest ≠ [] := by
  simp [Stamp.Clock.text, Stamp.Clock.wholeText, Text.padded_two]

theorem isBlank_zone : ∀ c ∈ w.zone.text, isBlank c = false := by
  cases w.zone with
  | unsaid => exact List.forall_mem_nil _
  | zulu small => cases small <;> exact List.forall_mem_singleton.2 rfl
  | offset o => exact fun c hc => isBlank_of_isPlain (o.isPlain_text c hc)

/-- What is left after trimming are no blanks. -/
theorem trim_text : w.text.trim = w.core := by
  have hends : ∀ c ∈ w.clock.text ++ w.zone.text, isBlank c = false :=
    List.forall_mem_append.2
      ⟨fun c hc => isBlank_of_isPlain (w.clock.isPlain_text c hc), w.isBlank_zone⟩
  refine trim_surrounded w.before_blank w.after_blank ?_ ?_ ?_
  · simp [core]
  · intro c hc
    have hhead : w.core.head? = (Stamp.dateText w.date).head? := rfl
    rw [hhead] at hc
    exact isBlank_of_isPlain (Stamp.isPlain_dateText w.date c (List.mem_of_head? hc))
  · intro c hc
    rw [core, List.append_cons] at hc
    exact hends c (mem_of_getLast?_append (w.clock_ne_nil _) hc)

end Written

/-! ## Spelling out a final `Z` -/

theorem spellOutZ_concat {c : Nat} (h : c = code 'Z' ∨ c = code 'z') (t : Text) :
    spellOutZ (t ++ [c]) = t ++ Text.ofString "+00:00" := by
  rw [spellOutZ, List.getLast?_concat]
  simp only
  rw [if_pos h, List.dropLast_concat]

theorem spellOutZ_eq_self {t : Text} (h : ∀ c, t.getLast? = some c → Stamp.isPlain c = true) :
    spellOutZ t = t := by
  unfold spellOutZ
  cases hlast : t.getLast? with
  | none => rfl
  | some c =>
      have hplain := Stamp.isPlain_iff.1 (h c hlast)
      have hbig : code 'Z' = 0x5A := rfl
      have hsmall : code 'z' = 0x7A := rfl
      simp only
      rw [if_neg (by omega)]

namespace Written

variable (w : Written)

/-- The timestamp with an offset in the place of `Z`. -/
def spelled : Text :=
  Stamp.dateText w.date ++ w.separator :: (w.clock.text ++ Stamp.zoneText w.zone.spelled)

theorem spellOutZ_core : spellOutZ w.core = w.spelled := by
  have hplain : ∀ zone : Option Stamp.Offset, ∀ c,
      (Stamp.dateText w.date ++ w.separator :: (w.clock.text ++ Stamp.zoneText zone)).getLast?
        = some c → Stamp.isPlain c = true := by
    intro zone c hc
    rw [List.append_cons] at hc
    refine List.forall_mem_append.2 ⟨w.clock.isPlain_text, Stamp.isPlain_zoneText zone⟩ c ?_
    exact mem_of_getLast?_append (w.clock_ne_nil _) hc
  cases hz : w.zone with
  | unsaid | offset _ =>
      have hsame : w.core = w.spelled := by
        unfold core spelled
        rw [hz]
        rfl
      rw [hsame]
      exact spellOutZ_eq_self (hplain w.zone.spelled)
  | zulu small =>
      have hend : w.core = (Stamp.dateText w.date ++ w.separator :: w.clock.text)
          ++ [if small then code 'z' else code 'Z'] := by
        unfold core
        rw [hz]
        simp only [Zone.text, List.append_assoc, List.cons_append]
      rw [hend, spellOutZ_concat (by cases small <;> simp)]
      unfold spelled
      rw [hz, List.append_assoc, List.cons_append]
      rfl

end Written

/-! ## Fitting the fraction -/

theorem isDigit_of_isAsciiDigit {c : Nat} (h : isAsciiDigit c = true) : isDigit c = true := by
  simp only [isAsciiDigit, Bool.and_eq_true, decide_eq_true_eq] at h
  refine List.any_eq_true.2 ⟨0x30, List.mem_cons_self, ?_⟩
  simp only [Bool.and_eq_true, decide_eq_true_eq]
  omega

theorem fits_of_isPlain {c : Nat} (h : Stamp.isPlain c = true) : fits (code 'T') c = false := by
  have hplain := Stamp.isPlain_iff.1 h
  have hbig : code 'T' = 0x54 := rfl
  have hspace : code ' ' = 0x20 := rfl
  rw [fits, if_neg (by decide), if_pos rfl, hbig, hspace]
  simp only [Bool.or_eq_false_iff, beq_eq_false_iff_ne, ne_eq]
  omega

/-- The form of a time of day: the separator and the whole seconds, then the
point and a digit. -/
theorem fractionForm_eq :
    fractionForm = code 'T' :: (Text.ofString "dd:dd:dd" ++ Text.ofString ".d") := rfl

/-- A text without separators holds no time of day, so nothing is fitted in
it. -/
theorem fitFractions_append {t : Text} (h : ∀ c ∈ t, Stamp.isPlain c = true) (rest : Text) :
    fitFractions 0 (t ++ rest) = t ++ fitFractions 0 rest := by
  induction t with
  | nil => rfl
  | cons c t ih =>
      obtain ⟨hc, ht⟩ := List.forall_mem_cons.1 h
      have hform : beginsLike fractionForm (c :: (t ++ rest)) = false := by
        rw [fractionForm_eq, beginsLike, fits_of_isPlain hc, Bool.false_and]
      rw [List.cons_append, fitFractions, hform, if_neg Bool.false_ne_true, ih ht,
        List.cons_append]

/-- What is written already is passed over. -/
theorem fitFractions_done (t rest : Text) :
    fitFractions t.length (t ++ rest) = fitFractions 0 rest := by
  induction t with
  | nil => rfl
  | cons c t ih => rw [List.length_cons, List.cons_append, fitFractions, ih]

theorem beginsLike_append {form t : Text} (h : form.length = t.length) (form' t' : Text) :
    beginsLike (form ++ form') (t ++ t') = (beginsLike form t && beginsLike form' t') := by
  induction form generalizing t with
  | nil =>
      obtain rfl := List.eq_nil_of_length_eq_zero h.symm
      rfl
  | cons f form ih =>
      cases t with
      | nil => cases h
      | cons c t =>
          rw [List.cons_append, List.cons_append, beginsLike, beginsLike,
            ih (Nat.succ.inj h), Bool.and_assoc]

theorem fits_digit {c : Nat} (h : isAsciiDigit c = true) : fits (code 'd') c = true := by
  rw [fits, if_pos rfl, isDigit_of_isAsciiDigit h]

theorem beginsLike_padded (n : Nat) :
    beginsLike (Text.ofString "dd") (Text.padded 10 2 n) = true := by
  have hdigits := Text.isAsciiDigit_padded 2 n
  rw [Text.padded_two] at hdigits ⊢
  obtain ⟨hten, hone⟩ := List.forall_mem_cons.1 hdigits
  have hform : Text.ofString "dd" = [code 'd', code 'd'] := rfl
  rw [hform, beginsLike, beginsLike, beginsLike, fits_digit hten,
    fits_digit (hone _ List.mem_cons_self)]
  rfl

theorem beginsLike_colon (form t : Text) :
    beginsLike (code ':' :: form) (code ':' :: t) = beginsLike form t := by
  rw [beginsLike, fits, if_neg (by decide), if_neg (by decide), beq_self_eq_true, Bool.true_and]

namespace Written

variable (w : Written)

theorem fits_separator : fits (code 'T') w.separator = true := by
  unfold separator
  split <;> rfl

theorem beginsLike_wholeText :
    beginsLike (Text.ofString "dd:dd:dd") w.clock.wholeText = true := by
  have hform : Text.ofString "dd:dd:dd" = Text.ofString "dd" ++ code ':' ::
      (Text.ofString "dd" ++ code ':' :: Text.ofString "dd") := rfl
  have hlength : ∀ n, (Text.ofString "dd").length = (Text.padded 10 2 n).length :=
    fun n => (Text.length_padded 10 2 n).symm
  rw [hform, Stamp.Clock.wholeText, beginsLike_append (hlength _), beginsLike_padded,
    beginsLike_colon, beginsLike_append (hlength _), beginsLike_padded, beginsLike_colon,
    beginsLike_padded]
  rfl

/-- Whether a time of day with a fraction stands at the separator is decided
behind the whole seconds. -/
theorem beginsLike_fractionForm (rest : Text) :
    beginsLike fractionForm (w.separator :: (w.clock.wholeText ++ rest))
      = beginsLike (Text.ofString ".d") rest := by
  have hlength : (Text.ofString "dd:dd:dd").length = w.clock.wholeText.length :=
    w.clock.length_wholeText.symm
  rw [fractionForm_eq, beginsLike, w.fits_separator, beginsLike_append hlength,
    w.beginsLike_wholeText, Bool.true_and, Bool.true_and]

end Written

/-! ### The fitted fraction -/

theorem length_fitFraction (digits : Text) : (fitFraction digits).length = 6 := by
  simp only [fitFraction, List.length_append, List.length_replicate, List.length_take, places]
  omega

theorem isAsciiDigit_fitFraction {digits : Text} (h : ∀ c ∈ digits, isAsciiDigit c = true) :
    ∀ c ∈ fitFraction digits, isAsciiDigit c = true := by
  refine List.forall_mem_append.2 ⟨fun c hc => h c (List.mem_of_mem_take hc), fun c hc => ?_⟩
  rw [(List.mem_replicate.1 hc).2]
  rfl

/-- **Fitting rounds down.** Cut or filled to six places, a fraction denotes
its whole microseconds. -/
theorem decimalValue_fitFraction {digits : Text} (h : ∀ c ∈ digits, isAsciiDigit c = true) :
    (fitFraction digits).decimalValue = fractionMicros digits := by
  have hpowers : ∀ m n, Nat.pow 10 m * Nat.pow 10 n = Nat.pow 10 (m + n) :=
    fun m n => (Nat.pow_add 10 m n).symm
  have hpositive : ∀ n, 0 < Nat.pow 10 n := fun n => Nat.pow_pos (by decide)
  unfold fractionMicros
  rcases Nat.le_total digits.length 6 with hshort | hlong
  · have hfit : fitFraction digits = digits ++ List.replicate (6 - digits.length) (code '0') := by
      rw [fitFraction, places, List.take_of_length_le hshort]
    have hmillion : 1000000 = Nat.pow 10 (6 - digits.length) * Nat.pow 10 digits.length := by
      rw [hpowers, Nat.sub_add_cancel hshort]
    rw [hfit, Text.decimalValue_append, Text.decimalValue_zeros, List.length_replicate, hmillion,
      ← Nat.mul_assoc, Nat.mul_div_cancel _ (hpositive _), Nat.add_zero]
  · -- the places cut off are less than one microsecond
    have hfit : fitFraction digits = digits.take 6 := by
      rw [fitFraction, places, List.length_take, Nat.min_eq_left hlong]
      exact List.append_nil _
    have hless := Text.decimalValue_lt fun c hc => h c (List.mem_of_mem_drop (i := 6) hc)
    have hvalue := Text.decimalValue_append (digits.take 6) (digits.drop 6)
    have hplaces : Nat.pow 10 digits.length = Nat.pow 10 (digits.drop 6).length * 1000000 := by
      rw [List.length_drop]
      exact (congrArg (Nat.pow 10) (Nat.sub_add_cancel hlong).symm).trans (hpowers _ 6).symm
    rw [List.take_append_drop] at hvalue
    rw [hfit, hvalue, hplaces, Nat.mul_div_mul_right _ _ (by decide), Nat.add_comm,
      Nat.add_mul_div_right _ _ (hpositive _), Nat.div_eq_of_lt hless, Nat.zero_add]

/-- A time with its fraction fitted, if it has one. -/
def fitted (k : Stamp.Clock) : Stamp.Clock where
  hour := k.hour
  minute := k.minute
  second := k.second
  fraction := if k.fraction = [] then [] else fitFraction k.fraction
  fraction_digits := by
    split
    · exact List.forall_mem_nil _
    · exact isAsciiDigit_fitFraction k.fraction_digits

theorem isFitted_fitted (k : Stamp.Clock) : (fitted k).IsFitted := by
  unfold Stamp.Clock.IsFitted fitted
  split
  · exact .inl rfl
  · exact .inr (length_fitFraction k.fraction)

theorem micro_fitted (k : Stamp.Clock) : (fitted k).time.micro = fractionMicros k.fraction := by
  change Text.decimalValue (if k.fraction = [] then [] else fitFraction k.fraction) = _
  split
  · rename_i hnone
    rw [hnone]
    rfl
  · exact decimalValue_fitFraction k.fraction_digits

theorem takeWhile_isDigit {digits : Text} (h : ∀ c ∈ digits, isAsciiDigit c = true)
    (zone : Option Stamp.Offset) :
    (digits ++ Stamp.zoneText zone).takeWhile isDigit = digits := by
  rw [List.takeWhile_append_of_pos fun c hc => isDigit_of_isAsciiDigit (h c hc)]
  cases zone with
  | none => simp [Stamp.zoneText]
  | some o =>
      have hsign : isDigit o.sign = false := by
        unfold Stamp.Offset.sign
        split <;> decide
      simp [Stamp.zoneText, Stamp.Offset.text, hsign]

namespace Written

variable (w : Written)

theorem fitFractions_zone (zone : Option Stamp.Offset) :
    fitFractions 0 (Stamp.zoneText zone) = Stamp.zoneText zone := by
  have h := fitFractions_append (Stamp.isPlain_zoneText zone) []
  rwa [List.append_nil, fitFractions, List.append_nil] at h

theorem fitFractions_fraction (h : w.clock.fraction ≠ []) (zone : Option Stamp.Offset) :
    fitFractions 0 (w.separator :: (w.clock.text ++ Stamp.zoneText zone))
      = w.separator :: ((fitted w.clock).text ++ Stamp.zoneText zone) := by
  have htext : w.clock.text = w.clock.wholeText ++ code '.' :: w.clock.fraction := by
    rw [Stamp.Clock.text, Stamp.Clock.fractionText, if_neg h]
  have hfit : fitFraction w.clock.fraction ≠ [] :=
    List.ne_nil_of_length_pos (by rw [length_fitFraction]; decide)
  have hfitted : (fitted w.clock).text
      = w.clock.wholeText ++ code '.' :: fitFraction w.clock.fraction := by
    simp only [Stamp.Clock.text, Stamp.Clock.fractionText, fitted, h, hfit, if_false]
    rfl
  have hform : beginsLike fractionForm
      (w.separator :: (w.clock.text ++ Stamp.zoneText zone)) = true := by
    have hpoint : Text.ofString ".d" = [code '.', code 'd'] := rfl
    obtain ⟨c, rest, hc⟩ := List.exists_cons_of_ne_nil h
    have hdigit : isAsciiDigit c = true :=
      w.clock.fraction_digits c (hc ▸ List.mem_cons_self)
    rw [htext, hc, List.append_assoc, beginsLike_fractionForm, hpoint, List.cons_append,
      List.cons_append, beginsLike, beginsLike, fits_digit hdigit]
    rfl
  have hten : (w.separator :: (w.clock.wholeText ++ [code '.'])).length = 10 := by
    simp [w.clock.length_wholeText]
  have hdone : 9 + w.clock.fraction.length = w.clock.text.length := by
    rw [htext, List.length_append, List.length_cons, w.clock.length_wholeText]
    omega
  -- ten characters, then the digits, then what stands behind the time
  have hfront : w.separator :: (w.clock.text ++ Stamp.zoneText zone)
      = (w.separator :: (w.clock.wholeText ++ [code '.']))
        ++ (w.clock.fraction ++ Stamp.zoneText zone) := by
    simp only [htext, List.cons_append, List.append_assoc, List.nil_append]
  have htake : (w.separator :: (w.clock.text ++ Stamp.zoneText zone)).take 10
      = w.separator :: (w.clock.wholeText ++ [code '.']) := by
    rw [hfront, List.take_left' hten]
  have hdigits : ((w.separator :: (w.clock.text ++ Stamp.zoneText zone)).drop 10).takeWhile isDigit
      = w.clock.fraction := by
    rw [hfront, List.drop_left' hten, takeWhile_isDigit w.clock.fraction_digits]
  rw [fitFractions, hform, if_pos rfl]
  simp only
  rw [htake, hdigits, hdone, fitFractions_done, fitFractions_zone, hfitted]
  simp only [List.cons_append, List.append_assoc, List.nil_append]

theorem fitFractions_whole (h : w.clock.fraction = []) (zone : Option Stamp.Offset) :
    fitFractions 0 (w.separator :: (w.clock.text ++ Stamp.zoneText zone))
      = w.separator :: ((fitted w.clock).text ++ Stamp.zoneText zone) := by
  have htext : w.clock.text = w.clock.wholeText := by
    rw [Stamp.Clock.text, Stamp.Clock.fractionText, if_pos h, List.append_nil]
  have hfitted : (fitted w.clock).text = w.clock.wholeText := by
    simp only [Stamp.Clock.text, Stamp.Clock.fractionText, fitted, h, if_true,
      List.append_nil]
    rfl
  have hpoint : beginsLike (Text.ofString ".d") (Stamp.zoneText zone) = false := by
    cases zone with
    | none => rfl
    | some o =>
        have hsign : fits (code '.') o.sign = false := by
          unfold Stamp.Offset.sign
          split <;> rfl
        have hform : Text.ofString ".d" = code '.' :: [code 'd'] := rfl
        rw [hform, Stamp.zoneText, Option.map_some, Option.getD_some, Stamp.Offset.text,
          beginsLike, hsign, Bool.false_and]
  rw [htext, hfitted, fitFractions, w.beginsLike_fractionForm, hpoint,
    if_neg Bool.false_ne_true, fitFractions_append w.clock.isPlain_wholeText, fitFractions_zone]

/-- Behind the date, the fraction is fitted and nothing else changes. -/
theorem fitFractions_time (zone : Option Stamp.Offset) :
    fitFractions 0 (w.separator :: (w.clock.text ++ Stamp.zoneText zone))
      = w.separator :: ((fitted w.clock).text ++ Stamp.zoneText zone) := by
  by_cases h : w.clock.fraction = []
  · exact w.fitFractions_whole h zone
  · exact w.fitFractions_fraction h zone

theorem fitFractions_spelled :
    fitFractions 0 w.spelled
      = Stamp.dateText w.date
        ++ w.separator :: ((fitted w.clock).text ++ Stamp.zoneText w.zone.spelled) := by
  rw [spelled, fitFractions_append (Stamp.isPlain_dateText w.date), fitFractions_time]

/-! ## Reading -/

/-- The stamp of a written timestamp. -/
theorem stamp?_text :
    stamp? w.text
      = some ⟨w.date, (fitted w.clock).time, w.zone.spelled.map Stamp.Offset.micros⟩ := by
  have hseparator : isSurrogate w.separator = false := by
    unfold separator
    split <;> rfl
  rw [stamp?, trim_text, spellOutZ_core, fitFractions_spelled,
    Stamp.ofText?_text w.date_valid hseparator (isFitted_fitted w.clock)]

/-- The stamp lies where the timestamp means. -/
theorem stamp_position :
    (Stamp.mk w.date (fitted w.clock).time (w.zone.spelled.map Stamp.Offset.micros)).position
      = w.position := by
  have hmicro := micro_fitted w.clock
  have htime : (fitted w.clock).time.micros
      = ((w.clock.hour * 60 + w.clock.minute) * 60 + w.clock.second) * 1000000
        + fractionMicros w.clock.fraction := by
    have hseconds : (fitted w.clock).time.seconds
        = w.clock.hour * 3600 + w.clock.minute * 60 + w.clock.second := rfl
    rw [TimeOfDay.micros, hseconds, hmicro]
    omega
  rw [Stamp.position, Zone.micros_spelled, htime, position]

/-- **Reading.** What a timestamp is read as depends on nothing but the point
in time that it means. -/
theorem toInstant?_text :
    (Value.text w.text).toInstant? = (Instant.ofMicros w.position).map some := by
  rw [Value.toInstant?, Text.toInstant?, stamp?_text]
  simp only
  rw [Stamp.instant_eq, stamp_position]

theorem toInstant?_eq_ok {i : Instant} (h : (i.micros : Int) = w.position) :
    (Value.text w.text).toInstant? = .ok (some i) := by
  have hscale : 0 ≤ (i.micros : Int) ∧ (i.micros : Int).toNat < dayLimit * microsPerDay :=
    ⟨Int.natCast_nonneg _, i.inRange⟩
  rw [toInstant?_text, ← h, Instant.ofMicros, dif_pos hscale]
  rfl

theorem text_ne_nil : w.text ≠ [] := by
  simp [text, core]

end Written

/-! ## The text of an instant -/

/-- A time of the day as it is written in the text of an instant, where a
fraction of zero is left out. -/
def clockOf (t : TimeOfDay) (h : t.IsValid) : Stamp.Clock where
  hour := ⟨t.hour, h.1⟩
  minute := ⟨t.minute, h.2.1⟩
  second := ⟨t.second, h.2.2.1⟩
  fraction := if t.micro = 0 then [] else Text.padded 10 6 t.micro
  fraction_digits := by
    split
    · exact List.forall_mem_nil _
    · exact Text.isAsciiDigit_padded 6 t.micro

theorem fractionMicros_clockOf {t : TimeOfDay} (h : t.IsValid) :
    fractionMicros (clockOf t h).fraction = t.micro := by
  change fractionMicros (if t.micro = 0 then [] else Text.padded 10 6 t.micro) = t.micro
  split
  · rename_i hzero
    rw [hzero]
    rfl
  · have hsix : t.micro % Nat.pow 10 6 = t.micro := Nat.mod_eq_of_lt h.2.2.2
    rw [fractionMicros, Text.length_padded, Text.decimalValue_padded, hsix]
    exact Nat.mul_div_cancel _ (by decide)

theorem isValid_ofMicros {n : Nat} (h : n < microsPerDay) : (TimeOfDay.ofMicros n).IsValid := by
  unfold microsPerDay at h
  simp only [TimeOfDay.IsValid, TimeOfDay.ofMicros]
  omega

theorem micros_mod_lt (n : Nat) : n % microsPerDay < microsPerDay := Nat.mod_lt _ (by decide)

theorem isValid_dateOf (i : Instant) : (Date.ofOrdinal (i.micros / microsPerDay)).IsValid :=
  (Date.isValid_ofOrdinal (Nat.div_lt_of_lt_mul (Nat.mul_comm _ _ ▸ i.inRange))).1

/-- The text of an instant, as one of the ways to write a timestamp. -/
def Written.ofInstant (i : Instant) : Written where
  before := []
  date := Date.ofOrdinal (i.micros / microsPerDay)
  spaced := false
  clock := clockOf (.ofMicros (i.micros % microsPerDay)) (isValid_ofMicros (micros_mod_lt _))
  zone := .offset ⟨false, 0, 0⟩
  after := []
  date_valid := isValid_dateOf i
  before_blank := List.forall_mem_nil _
  after_blank := List.forall_mem_nil _

theorem fractionText_clockOf {t : TimeOfDay} (h : t.IsValid) :
    (clockOf t h).fractionText
      = if t.micro = 0 then [] else code '.' :: Text.padded 10 6 t.micro := by
  by_cases hzero : t.micro = 0
  · simp only [Stamp.Clock.fractionText, clockOf, hzero, if_true]
  · have hne : Text.padded 10 6 t.micro ≠ [] :=
      List.ne_nil_of_length_pos (by rw [Text.length_padded]; decide)
    simp only [Stamp.Clock.fractionText, clockOf, hzero, hne, if_false]

theorem Written.text_ofInstant (i : Instant) : (ofInstant i).text = i.toText := by
  have hzone : (ofInstant i).zone.text = Text.ofString "+00:00" := rfl
  have hseparator : (ofInstant i).separator = code 'T' := rfl
  have hfraction := fractionText_clockOf (isValid_ofMicros (micros_mod_lt i.micros))
  rw [text, core, hzone, hseparator]
  simp only [ofInstant, Stamp.Clock.text, hfraction]
  simp only [Stamp.Clock.wholeText, clockOf, Stamp.dateText, Instant.toText, List.nil_append,
    List.append_nil, List.append_assoc, List.cons_append]

theorem Written.position_ofInstant (i : Instant) : (ofInstant i).position = i.micros := by
  have htime := isValid_ofMicros (micros_mod_lt i.micros)
  have hordinal : (Date.ofOrdinal (i.micros / microsPerDay)).ordinal = i.micros / microsPerDay :=
    Date.ordinal_ofOrdinal (Nat.div_lt_of_lt_mul (Nat.mul_comm _ _ ▸ i.inRange))
  have hzone : (ofInstant i).zone.micros = 0 := rfl
  have hfraction := fractionMicros_clockOf htime
  rw [position, hzone]
  simp only [ofInstant, hordinal, hfraction]
  simp only [clockOf, TimeOfDay.ofMicros, microsPerDay]
  omega

end Timestamp

end Audience
