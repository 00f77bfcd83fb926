import Audience.Proofs.Timestamps
import Audience.Proofs.WholeAmounts

/-!
# Integers written in text

The decimal digits of an integer, after a minus sign if it is negative, are read
back as the double nearest to it, whatever blanks stand around them
(`Numeral.Written.toAmount_text`). The reader knows much more than this form, so
most of what it does has nothing to do here:

- the digits are western ones already and no underscores stand between them
  (`Numeral.western_eq_self`, `Numeral.joinGroups?_eq_some`);
- they spell no word (`Numeral.word?_eq_none`) and have neither point nor
  exponent (`Decimal.ofUnsigned?_eq_some`).

What is left is a decimal with the exponent zero, and that is rounded as an
integer is (`Decimal.toBinary64_whole`).
-/

namespace Audience

/-! ## The digits of an integer -/

namespace Text

theorem isAsciiDigit_ofNat (n : Nat) : ∀ c ∈ ofNat n, isAsciiDigit c = true := by
  intro c hc
  obtain ⟨d, hd, rfl⟩ := List.mem_map.1 hc
  have hdigit := Char.isDigit_iff_toNat.1
    (Nat.isDigit_of_mem_toDigits (by decide) (by decide) hd)
  simpa [isAsciiDigit] using hdigit

theorem decimalValue_ofNat (n : Nat) : (ofNat n).decimalValue = n := by
  have hread := Nat.ofDigitChars_toDigits (b := 10) (n := n) (by decide) (by decide)
  rw [Nat.ofDigitChars_eq_foldl] at hread
  rw [decimalValue, ofNat, List.foldl_map]
  simp only [Nat.mul_comm 10] at hread
  exact hread

theorem isPlain_ofInt (i : Int) : ∀ c ∈ ofInt i, Stamp.isPlain c = true := by
  have hdigits : ∀ c ∈ ofNat i.natAbs, Stamp.isPlain c = true := fun c hc =>
    Stamp.isPlain_of_isAsciiDigit (isAsciiDigit_ofNat _ c hc)
  unfold ofInt
  split
  · exact List.forall_mem_cons.2 ⟨by decide, hdigits⟩
  · exact hdigits

/-- The blanks around an integer are what trimming takes away. -/
theorem trim_ofInt {before after : Text} (hbefore : ∀ c ∈ before, isBlank c = true)
    (hafter : ∀ c ∈ after, isBlank c = true) (i : Int) :
    (before ++ ofInt i ++ after).trim = ofInt i := by
  have hcore : ∀ c ∈ ofInt i, isBlank c = false := fun c hc =>
    Timestamp.isBlank_of_isPlain (isPlain_ofInt i c hc)
  refine Timestamp.trim_surrounded hbefore hafter (ofInt_ne_nil i) ?_ ?_
  · intro c hc
    exact hcore c (List.mem_of_head? hc)
  · intro c hc
    exact hcore c (List.mem_of_getLast? hc)

end Text

/-! ## Reading a run of digits -/

theorem digit?_of_isAsciiDigit {c : Nat} (h : isAsciiDigit c = true) :
    digit? c = some (c - 0x30) := by
  simp only [isAsciiDigit, Bool.and_eq_true, decide_eq_true_eq] at h
  have hfirst : (decide (0x30 ≤ c) && decide (c < 0x30 + 10)) = true := by
    simp only [Bool.and_eq_true, decide_eq_true_eq]
    omega
  have hzeros : digitZeros = 0x30 :: digitZeros.tail := rfl
  rw [digit?, hzeros, List.find?_cons, hfirst, Option.map_some]

namespace Numeral

variable {t : Text}

theorem western_eq_self (h : ∀ c ∈ t, isAsciiDigit c = true) : western t = t := by
  refine (List.map_congr_left fun c hc => ?_).trans (List.map_id t)
  have hdigit := h c hc
  rw [digit?_of_isAsciiDigit hdigit]
  simp only [isAsciiDigit, Bool.and_eq_true, decide_eq_true_eq] at hdigit
  exact Nat.add_sub_cancel' hdigit.1

theorem joinGroups?_eq_some (h : ∀ c ∈ t, isAsciiDigit c = true) (afterDigit : Bool) :
    joinGroups? afterDigit t = some t := by
  induction t generalizing afterDigit with
  | nil => rfl
  | cons c rest ih =>
      obtain ⟨hc, hrest⟩ := List.forall_mem_cons.1 h
      have hscore : c ≠ code '_' := by
        rintro rfl
        cases hc
      rw [joinGroups?, if_neg hscore, ih hrest, Option.map_some]

theorem splitSign_eq_self (h : ∀ c ∈ t, isAsciiDigit c = true) : splitSign t = (false, t) := by
  cases t with
  | nil => rfl
  | cons c rest =>
      have hc := h c List.mem_cons_self
      have hminus : c ≠ code '-' := by
        rintro rfl
        cases hc
      have hplus : c ≠ code '+' := by
        rintro rfl
        cases hc
      rw [splitSign, if_neg hminus, if_neg hplus]

/-- A word begins with a letter. -/
theorem word?_eq_none (h : ∀ c ∈ t, isAsciiDigit c = true) (hne : t ≠ []) (negative : Bool) :
    word? negative t = none := by
  obtain ⟨c, rest, rfl⟩ := List.exists_cons_of_ne_nil hne
  have hc := h c List.mem_cons_self
  simp only [isAsciiDigit, Bool.and_eq_true, decide_eq_true_eq] at hc
  have hfirst : lowerAscii c = c := if_neg (by omega)
  have hword : ∀ (letter : Nat) (word : Text), 0x39 < letter →
      (c :: rest).map lowerAscii ≠ letter :: word := by
    intro letter word hletter heq
    rw [List.map_cons, hfirst] at heq
    obtain ⟨hsame, -⟩ := List.cons.inj heq
    omega
  have hinf : (c :: rest).map lowerAscii ≠ Text.ofString "inf" := hword _ _ (by decide)
  have hinfinity : (c :: rest).map lowerAscii ≠ Text.ofString "infinity" := hword _ _ (by decide)
  have hnan : (c :: rest).map lowerAscii ≠ Text.ofString "nan" := hword _ _ (by decide)
  rw [word?, if_neg (not_or.2 ⟨hinf, hinfinity⟩), if_neg hnan]

end Numeral

namespace Decimal

theorem ofUnsigned?_eq_some {t : Text} (h : ∀ c ∈ t, isAsciiDigit c = true) (hne : t ≠ [])
    (negative : Bool) :
    ofUnsigned? negative t = some { negative, digits := t.decimalValue, exponent := 0 } := by
  have htake : (t ++ []).takeWhile isAsciiDigit = t ++ [] := List.takeWhile_append_of_pos h
  have hdrop : (t ++ []).dropWhile isAsciiDigit = [] := List.dropWhile_append_of_pos h
  rw [List.append_nil] at htake hdrop
  simp [ofUnsigned?, htake, hdrop, hne, exponent?]

/-- A decimal without places is rounded as an integer is. -/
theorem toBinary64_whole (negative : Bool) (n : Nat) :
    toBinary64 { negative, digits := n, exponent := 0 }
      = .round negative (n * Binary64.unit) 1 := by
  unfold toBinary64
  by_cases hn : n = 0
  · rw [if_pos hn, hn, Nat.zero_mul, Binary64.round_zero]
  · rw [if_neg hn, if_neg (by dsimp only; omega), if_neg (by dsimp only; omega)]
    have hone : Nat.pow 10 (0 : Int).toNat = 1 := rfl
    rw [Int.neg_zero, hone, Nat.mul_one]

end Decimal

/-! ## Reading an integer -/

/-- The decimal text of an integer is read as the double nearest to it. -/
theorem Text.toBinary64?_ofInt (i : Int) : (ofInt i).toBinary64? = some (.ofInt i) := by
  have hdigits := isAsciiDigit_ofNat i.natAbs
  have hne := ofNat_ne_nil i.natAbs
  have hjoined : Numeral.joinGroups? false (Numeral.western (ofInt i)) = some (ofInt i) := by
    unfold ofInt
    split
    · have hminus : Numeral.western (code '-' :: ofNat i.natAbs)
          = code '-' :: Numeral.western (ofNat i.natAbs) := rfl
      rw [hminus, Numeral.western_eq_self hdigits, Numeral.joinGroups?, if_neg (by decide),
        Numeral.joinGroups?_eq_some hdigits, Option.map_some]
    · rw [Numeral.western_eq_self hdigits, Numeral.joinGroups?_eq_some hdigits]
  have hsplit : Numeral.splitSign (ofInt i) = (decide (i < 0), ofNat i.natAbs) := by
    unfold ofInt
    split
    · rename_i hnegative
      rw [decide_eq_true hnegative]
      rfl
    · rename_i hnegative
      rw [decide_eq_false hnegative]
      exact Numeral.splitSign_eq_self hdigits
  unfold toBinary64?
  simp only [hjoined, hsplit, Option.bind_eq_bind, Option.bind_some,
    Numeral.word?_eq_none hdigits hne, Decimal.ofUnsigned?_eq_some hdigits hne,
    decimalValue_ofNat, Option.map_some, Decimal.toBinary64_whole, Binary64.ofInt]

/-- An integer within the doubles that is written out, with blanks around it. -/
structure Numeral.Written where
  before : Text
  value : Int
  after : Text
  value_finite : (Binary64.ofInt value).isFinite = true
  before_blank : ∀ c ∈ before, isBlank c = true
  after_blank : ∀ c ∈ after, isBlank c = true

namespace Numeral.Written

def text (w : Written) : Text := w.before ++ Text.ofInt w.value ++ w.after

variable (w : Written)

theorem text_ne_nil : w.text ≠ [] :=
  List.append_ne_nil_of_left_ne_nil
    (List.append_ne_nil_of_right_ne_nil _ (Text.ofInt_ne_nil w.value)) _

theorem toAmount_int : (Value.int w.value).toAmount = .ok (.ofInt w.value) :=
  Value.toAmount_int ((Binary64.isFinite_ofInt w.value).1 w.value_finite)

/-- The text is the same amount as the integer. -/
theorem toAmount_text : (Value.text w.text).toAmount = .ok (.ofInt w.value) := by
  have hgiven : ¬ (Text.ofInt w.value).isEmpty = true := fun h =>
    Text.ofInt_ne_nil w.value (List.isEmpty_iff.1 h)
  unfold Value.toAmount
  dsimp only
  rw [text, Text.trim_ofInt w.before_blank w.after_blank, if_neg hgiven, Text.toBinary64?_ofInt,
    Option.getD_some]

end Numeral.Written

end Audience
