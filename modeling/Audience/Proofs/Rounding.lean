import Audience.Proofs.Coercions
import Mathlib.Tactic.Linarith
import Mathlib.Tactic.Ring

/-!
# How far rounding goes

A double is the rounding of an exact quotient, and this file says what is kept
of the quotient.

- `roundQuanta_near`: the result is at most half a step away, and the step is
  known from any power of two above the quotient.
- `roundQuanta_self`: what is a double already stays as it is.
- `roundQuanta_congr`: equal quotients have the same double, however they are
  written.
- `roundQuanta_mono`: the double of a greater quotient is not less.

The distance of two integers is kept as an absolute value and doubled, so half
steps are whole. `Binary64.round_near` is the form for doubles, and
`Binary64.add_near` that for sums and `Binary64.mul_int_near` that for products
with whole numbers. Integers keep their order (`Binary64.ofInt_le_ofInt`), and
those of at most 53 bits stay apart too (`Binary64.ofInt_le_eq`). Sums, products
and floors keep it as well (`Binary64.add_le_add_right`,
`Binary64.mul_le_mul_right`, `Binary64.floor_le_floor`). The powers stay closed:
they are too large to be written out.
-/

namespace Audience

/-! ## Rounding a quotient -/

theorem roundHalfEven_near (n : Nat) {d : Nat} (hd : 0 < d) :
    2 * ((d * roundHalfEven n d : Nat) - n : Int).natAbs ≤ d := by
  have hn := Nat.div_add_mod n d
  have hr := Nat.mod_lt n hd
  unfold roundHalfEven
  generalize n / d = q at hn ⊢
  generalize n % d = r at hn hr ⊢
  have hnext : d * (q + 1) = d * q + d := Nat.mul_succ d q
  dsimp only
  split
  · omega
  · split
    · omega
    · split <;> omega

theorem roundHalfEven_mul_right (n d : Nat) {m : Nat} (hm : 0 < m) :
    roundHalfEven (n * m) (d * m) = roundHalfEven n d := by
  have hlt : ∀ a b : Nat, a * m < b * m ↔ a < b := fun a b => Nat.mul_lt_mul_right hm
  unfold roundHalfEven
  simp only [Nat.mul_div_mul_right _ _ hm, Nat.mul_mod_mul_right, ← Nat.mul_assoc, hlt]

theorem roundHalfEven_self {d : Nat} (hd : 0 < d) (q : Nat) : roundHalfEven (d * q) d = q := by
  unfold roundHalfEven
  simp only [Nat.mul_mod_right, Nat.mul_div_cancel_left q hd, Nat.mul_zero, hd, if_true]

theorem roundHalfEven_mono {n n' : Nat} (d : Nat) (h : n ≤ n') :
    roundHalfEven n d ≤ roundHalfEven n' d := by
  have hquotient : n / d ≤ n' / d := Nat.div_le_div_right h
  rcases Nat.lt_or_eq_of_le hquotient with hlt | heq
  · exact Nat.le_trans (roundHalfEven_le hlt) (le_roundHalfEven n' d)
  · have hn := Nat.div_add_mod n d
    have hn' := Nat.div_add_mod n' d
    have hremainder : n % d ≤ n' % d := by
      rw [heq] at hn
      omega
    unfold roundHalfEven
    rw [heq]
    generalize n % d = r at hremainder ⊢
    generalize n' % d = r' at hremainder ⊢
    dsimp only
    split_ifs <;> omega

/-! ## Steps -/

namespace Quanta

theorem step_pos (q : Nat) : 0 < step q := Nat.two_pow_pos _

theorem step_le {q k : Nat} (h : q < 2 ^ (k + 53)) : step q ≤ 2 ^ k := by
  refine Nat.pow_le_pow_right Nat.zero_lt_two ?_
  by_cases hz : q = 0
  · simp [hz]
  · have hlog := (Nat.log2_lt hz).2 h
    omega

/-- The step widens at powers of two, so numbers with different steps have one of
them between them. -/
theorem step_eq_or_pow_between {q q' : Nat} (h : q ≤ q') :
    step q = step q' ∨ ∃ k, q < 2 ^ (k + 53) ∧ q'.log2 = k + 53 := by
  by_cases hstep : step q = step q'
  · exact .inl hstep
  · have hexponent : q.log2 + 1 - 53 ≠ q'.log2 + 1 - 53 := fun heq =>
      hstep (congrArg (Nat.pow 2) heq)
    by_cases hzero : q = 0
    · subst hzero
      rw [Nat.log2_zero] at hexponent
      exact .inr ⟨q'.log2 - 53, Nat.two_pow_pos _, by omega⟩
    · have hne : q' ≠ 0 := fun hnone => hzero (Nat.le_zero.1 (hnone ▸ h))
      have hlog : q.log2 ≤ q'.log2 :=
        (Nat.le_log2 hne).2 (Nat.le_trans (Nat.log2_self_le hzero) h)
      obtain ⟨k, hk⟩ : ∃ k, q'.log2 = k + 53 := ⟨q'.log2 - 53, by omega⟩
      exact .inr ⟨k, (Nat.log2_lt hzero).1 (by omega), hk⟩

theorem pow_lt_limit {k : Nat} (hk : k < 2098) : 2 ^ k < limit := by
  unfold limit
  generalize 2098 = m at hk ⊢
  exact Nat.pow_lt_pow_right Nat.one_lt_two hk

/-- A multiple of a power of two with at most 53 bits in front is a double. -/
theorem isRepresentable_of_dvd {k q : Nat} (hk : k + 53 < 2098) (hdvd : 2 ^ k ∣ q)
    (hle : q ≤ 2 ^ (k + 53)) : IsRepresentable q := by
  obtain ⟨m, rfl⟩ := hdvd
  rw [Nat.pow_add, Nat.mul_le_mul_left_iff (Nat.two_pow_pos k)] at hle
  rw [Nat.mul_comm]
  refine ⟨?_, step_dvd_of_le hle⟩
  calc m * 2 ^ k ≤ 2 ^ 53 * 2 ^ k := Nat.mul_le_mul_right _ hle
    _ = 2 ^ (k + 53) := by rw [← Nat.pow_add, Nat.add_comm]
    _ < limit := pow_lt_limit hk

end Quanta

/-! ## Rounding to a double -/

theorem roundQuanta_near {n d k : Nat} (hd : 0 < d) (h : n / d < 2 ^ (k + 53)) :
    2 * ((d * roundQuanta n d : Nat) - n : Int).natAbs ≤ d * 2 ^ k := by
  have hstep := Quanta.step_pos (n / d)
  have hnear := roundHalfEven_near n (Nat.mul_pos hd hstep)
  have hassoc : d * roundQuanta n d
      = d * Quanta.step (n / d) * roundHalfEven n (d * Quanta.step (n / d)) := by
    rw [roundQuanta]
    ring
  rw [hassoc]
  exact Nat.le_trans hnear (Nat.mul_le_mul_left d (Quanta.step_le h))

theorem roundQuanta_le {n d k : Nat} (h : n / d < 2 ^ (k + 53)) :
    roundQuanta n d ≤ 2 ^ (k + 53) := by
  rw [roundQuanta, Nat.add_comm, Nat.pow_add]
  exact Nat.mul_le_mul (significand_le n d) (Quanta.step_le h)

theorem roundQuanta_congr {n d n' d' : Nat} (hd : 0 < d) (hd' : 0 < d')
    (h : n * d' = n' * d) : roundQuanta n d = roundQuanta n' d' := by
  have hscale : ∀ n d m : Nat, 0 < m → roundQuanta (n * m) (d * m) = roundQuanta n d := by
    intro n d m hm
    have hcomm : d * m * Quanta.step (n / d) = d * Quanta.step (n / d) * m := by ring
    rw [roundQuanta, roundQuanta, Nat.mul_div_mul_right _ _ hm, hcomm,
      roundHalfEven_mul_right n _ hm]
  rw [← hscale n d d' hd', h, Nat.mul_comm d d', hscale n' d' d hd]

theorem roundQuanta_self {q d : Nat} (hd : 0 < d) (hq : Quanta.step q ∣ q) :
    roundQuanta (d * q) d = q := by
  obtain ⟨m, hm⟩ := hq
  have hstep := Quanta.step_pos q
  have hquotient : d * q = d * Quanta.step q * m := by rw [Nat.mul_assoc, ← hm]
  rw [roundQuanta, Nat.mul_div_cancel_left q hd, hquotient,
    roundHalfEven_self (Nat.mul_pos hd hstep), Nat.mul_comm, ← hm]

/-- A power of two is not passed on the way down. -/
theorem pow_le_roundQuanta {n d k : Nat} (h : (n / d).log2 = k + 53) :
    2 ^ (k + 53) ≤ roundQuanta n d := by
  have hstep : Quanta.step (n / d) = 2 ^ (k + 1) := step_of_log2 h
  have hpow : 2 ^ (k + 53) = 2 ^ 52 * 2 ^ (k + 1) := by
    rw [← Nat.pow_add]
    congr 1
    omega
  have hne : n / d ≠ 0 := by
    intro hzero
    simp [hzero] at h
  have hlow : 2 ^ (k + 53) ≤ n / d := h ▸ Nat.log2_self_le hne
  have hsignificand : 2 ^ 52 ≤ n / d / 2 ^ (k + 1) := by
    rw [Nat.le_div_iff_mul_le (Nat.two_pow_pos _), ← hpow]
    exact hlow
  rw [roundQuanta, hstep, hpow]
  refine Nat.mul_le_mul_right _ (Nat.le_trans ?_ (le_roundHalfEven n (d * 2 ^ (k + 1))))
  rwa [← Nat.div_div_eq_div_mul]

/-- Rounding keeps the order of quotients. One with a wider step lies beyond the
power of two at which the step widens, and the other one stays below it. -/
theorem roundQuanta_mono {n d n' d' : Nat} (hd : 0 < d) (hd' : 0 < d') (h : n * d' ≤ n' * d) :
    roundQuanta n d ≤ roundQuanta n' d' := by
  -- over a common denominator
  have hscaled : roundQuanta n d = roundQuanta (n * d') (d * d') :=
    roundQuanta_congr hd (Nat.mul_pos hd hd') (by ring)
  have hscaled' : roundQuanta n' d' = roundQuanta (n' * d) (d * d') :=
    roundQuanta_congr hd' (Nat.mul_pos hd hd') (by ring)
  rw [hscaled, hscaled']
  generalize n * d' = a at h ⊢
  generalize n' * d = b at h ⊢
  generalize d * d' = c
  have hquotient : a / c ≤ b / c := Nat.div_le_div_right h
  rcases Quanta.step_eq_or_pow_between hquotient with hstep | ⟨k, hbelow, hk⟩
  · rw [roundQuanta, roundQuanta, hstep]
    exact Nat.mul_le_mul_right _ (roundHalfEven_mono _ h)
  · exact Nat.le_trans (roundQuanta_le hbelow) (pow_le_roundQuanta hk)

namespace Binary64

theorem unit_eq_mul {i j : Nat} (h : i + j = 1074) : unit = 2 ^ i * 2 ^ j := by
  unfold unit
  rw [← h, Nat.pow_eq, Nat.pow_add]

theorem unit_pos : 0 < unit := by
  unfold unit
  generalize 1074 = k
  exact Nat.two_pow_pos k

/-- The quanta of a finite double with their sign, zero for any other. -/
def toQuanta : Binary64 → Int
  | .finite s q _ => signed s q
  | _ => 0

/-- The double nearest to a number of quanta. -/
def ofQuanta (i : Int) : Binary64 := round (i < 0) i.natAbs 1

theorem natAbs_signed (s : Bool) (q : Nat) : (signed s q).natAbs = q := by
  cases s <;> simp [signed]

theorem signed_natAbs (i : Int) : signed (i < 0) i.natAbs = i := by
  unfold signed
  split
  · rename_i h
    rw [decide_eq_true_eq] at h
    omega
  · rename_i h
    rw [decide_eq_true_eq] at h
    omega

/-- The sign of a result is that of the operand, and does not count for their
distance. -/
theorem natAbs_mul_signed_sub (s : Bool) (d q n : Nat) :
    (d * signed s q - signed s n).natAbs = ((d * q : Nat) - n : Int).natAbs := by
  rw [Int.natCast_mul]
  cases s with
  | false => rfl
  | true =>
      change (d * -(q : Int) - -(n : Int)).natAbs = _
      rw [Int.mul_neg]
      generalize (d * q : Int) = product
      omega

theorem toQuanta_finite (s : Bool) {q : Nat} (h : Quanta.IsRepresentable q) :
    (finite s q h).toQuanta = signed s q := rfl

theorem toQuanta_round {n d : Nat} (s : Bool) (h : roundQuanta n d < Quanta.limit) :
    (round s n d).toQuanta = signed s (roundQuanta n d) := by
  rw [round, dif_pos h]
  exact toQuanta_finite s ⟨h, step_dvd_roundQuanta n d⟩

/-- Rounding a quotient below a power of two gives a double within half a step
of it. -/
theorem round_near {n d k : Nat} (s : Bool) (hd : 0 < d) (h : n / d < 2 ^ (k + 53))
    (hk : k + 53 < 2098) :
    (round s n d).isFinite = true
      ∧ 2 * (d * (round s n d).toQuanta - signed s n).natAbs ≤ d * 2 ^ k := by
  have hlt : roundQuanta n d < Quanta.limit :=
    Nat.lt_of_le_of_lt (roundQuanta_le h) (Quanta.pow_lt_limit hk)
  rw [toQuanta_round s hlt, natAbs_mul_signed_sub]
  exact ⟨isFinite_round.2 hlt, roundQuanta_near hd h⟩

theorem round_congr {n d n' d' : Nat} (s : Bool) (hd : 0 < d) (hd' : 0 < d')
    (h : n * d' = n' * d) : round s n d = round s n' d' := by
  simp only [round, roundQuanta_congr hd hd' h]

theorem ofRatio_congr {n d n' d' : Nat} (hd : 0 < d) (hd' : 0 < d') (h : n * d' = n' * d) :
    ofRatio n d = ofRatio n' d' := by
  refine round_congr false hd hd' ?_
  rw [Nat.mul_right_comm, h, Nat.mul_right_comm]

theorem round_self {q : Nat} (s : Bool) (hq : Quanta.IsRepresentable q) :
    round s q 1 = .finite s q hq := by
  have hround : roundQuanta q 1 = q := by
    simpa using roundQuanta_self Nat.one_pos hq.2
  simp only [round, hround, hq.1, dif_pos]

theorem round_zero (s : Bool) (d : Nat) : round s 0 d = zero s := by
  have hround : roundQuanta 0 d = 0 := by simp [roundQuanta, roundHalfEven]
  simp only [round, hround, Quanta.limit_pos, dif_pos]
  rfl

theorem ofQuanta_of_isRepresentable {i : Int} (h : Quanta.IsRepresentable i.natAbs) :
    ofQuanta i = .finite (i < 0) i.natAbs h := round_self _ h

theorem ofQuanta_zero : ofQuanta 0 = zero false :=
  ofQuanta_of_isRepresentable (i := 0) representable_zero

theorem ofInt_eq_ofQuanta (i : Int) : ofInt i = ofQuanta (i * unit) := by
  have hunit : (0 : Int) < unit := Int.natCast_pos.2 unit_pos
  have hsign : i * unit < 0 ↔ i < 0 := by
    rw [← Int.zero_mul unit, Int.mul_lt_mul_right hunit, Int.zero_mul]
  rw [ofInt, ofQuanta, decide_eq_decide.2 hsign, Int.natAbs_mul, Int.natAbs_natCast]

/-! ## Arithmetic -/

theorem isFinite_iff {x : Binary64} : x.isFinite = true ↔ ∃ s q h, x = .finite s q h := by
  cases x with
  | finite s q h => exact iff_of_true rfl ⟨s, q, h, rfl⟩
  | _ => simp [isFinite]

theorem ofQuanta_near {i : Int} {k : Nat} (h : i.natAbs < 2 ^ (k + 53)) (hk : k + 53 < 2098) :
    (ofQuanta i).isFinite = true ∧ 2 * ((ofQuanta i).toQuanta - i).natAbs ≤ 2 ^ k := by
  have hquotient : i.natAbs / 1 < 2 ^ (k + 53) := by rwa [Nat.div_one]
  have hnear := round_near (i < 0) Nat.one_pos hquotient hk
  rwa [signed_natAbs, Int.natCast_one, Int.one_mul, Nat.one_mul] at hnear

theorem add_finite (s t : Bool) {a b : Nat} (ha : Quanta.IsRepresentable a)
    (hb : Quanta.IsRepresentable b) :
    finite s a ha + finite t b hb
      = if signed s a + signed t b = 0 then zero (s && t)
        else ofQuanta (signed s a + signed t b) := rfl

theorem mul_finite (s t : Bool) {a b : Nat} (ha : Quanta.IsRepresentable a)
    (hb : Quanta.IsRepresentable b) :
    finite s a ha * finite t b hb = round (s != t) (a * b) unit := by
  change mul (finite s a ha) (finite t b hb) = _
  rw [mul]

/-- A sum is the rounding of the exact sum, unless that is zero; then it is a
zero. -/
theorem add_cases {x y : Binary64} (hx : x.isFinite = true) (hy : y.isFinite = true) :
    (x.toQuanta + y.toQuanta = 0 ∧ ∃ s, x + y = zero s)
      ∨ x + y = ofQuanta (x.toQuanta + y.toQuanta) := by
  obtain ⟨s, a, ha, rfl⟩ := isFinite_iff.1 hx
  obtain ⟨t, b, hb, rfl⟩ := isFinite_iff.1 hy
  rw [add_finite, toQuanta_finite, toQuanta_finite]
  split
  · rename_i hzero
    exact .inl ⟨hzero, _, rfl⟩
  · exact .inr rfl

theorem add_near {x y : Binary64} {k : Nat} (hx : x.isFinite = true) (hy : y.isFinite = true)
    (h : (x.toQuanta + y.toQuanta).natAbs < 2 ^ (k + 53)) (hk : k + 53 < 2098) :
    (x + y).isFinite = true
      ∧ 2 * ((x + y).toQuanta - (x.toQuanta + y.toQuanta)).natAbs ≤ 2 ^ k := by
  rcases add_cases hx hy with ⟨hzero, s, hsum⟩ | hsum
  · have hquanta : (zero s).toQuanta = 0 := by cases s <;> rfl
    rw [hsum, hzero, hquanta]
    exact ⟨rfl, Nat.zero_le _⟩
  · rw [hsum]
    exact ofQuanta_near h hk

theorem mul_near {x y : Binary64} {k : Nat} (hx : x.isFinite = true) (hy : y.isFinite = true)
    (h : (x.toQuanta * y.toQuanta).natAbs / unit < 2 ^ (k + 53)) (hk : k + 53 < 2098) :
    (x * y).isFinite = true
      ∧ 2 * (unit * (x * y).toQuanta - x.toQuanta * y.toQuanta).natAbs ≤ unit * 2 ^ k := by
  obtain ⟨s, a, ha, rfl⟩ := isFinite_iff.1 hx
  obtain ⟨t, b, hb, rfl⟩ := isFinite_iff.1 hy
  have hsigned : signed s a * signed t b = signed (s != t) (a * b) := by
    cases s <;> cases t <;> simp [signed]
  rw [toQuanta_finite, toQuanta_finite, hsigned] at h ⊢
  rw [natAbs_signed] at h
  rw [mul_finite]
  exact round_near _ unit_pos h hk

/-- Multiplying by a whole number is as near as adding. -/
theorem mul_int_near {x y : Binary64} {m : Int} {k : Nat} (hx : x.isFinite = true)
    (hy : y.isFinite = true) (hm : y.toQuanta = m * unit)
    (h : (m * x.toQuanta).natAbs < 2 ^ (k + 53)) (hk : k + 53 < 2098) :
    (x * y).isFinite = true ∧ 2 * ((x * y).toQuanta - m * x.toQuanta).natAbs ≤ 2 ^ k := by
  have hproduct : x.toQuanta * y.toQuanta = unit * (m * x.toQuanta) := by
    rw [hm]
    ring
  have hquotient : (x.toQuanta * y.toQuanta).natAbs / unit < 2 ^ (k + 53) := by
    rwa [hproduct, Int.natAbs_mul, Int.natAbs_natCast, Nat.mul_div_cancel_left _ unit_pos]
  obtain ⟨hfinite, hnear⟩ := mul_near hx hy hquotient hk
  rw [hproduct, ← Int.mul_sub, Int.natAbs_mul, Int.natAbs_natCast, Nat.mul_left_comm] at hnear
  exact ⟨hfinite, Nat.le_of_mul_le_mul_left hnear unit_pos⟩

theorem floor?_of_isFinite {x : Binary64} (h : x.isFinite = true) :
    x.floor? = some (x.toQuanta.fdiv unit) := by
  obtain ⟨s, q, hq, rfl⟩ := isFinite_iff.1 h
  rfl

/-! ## Order -/

theorem round_le_round {n d n' d' : Nat} (hd : 0 < d) (hd' : 0 < d') (h : n * d' ≤ n' * d) :
    (round false n d).le (round false n' d') = true
      ∧ (round true n' d').le (round true n d) = true := by
  have hmono := roundQuanta_mono hd hd' h
  unfold round
  split_ifs with hlt hlt'
  · simp [le, signed, hmono]
  · simp [le]
  · omega
  · simp [le]

theorem round_negative_le (n d n' d' : Nat) : (round true n d).le (round false n' d') = true := by
  unfold round
  split_ifs with hlt hlt' <;> simp [le, signed]

/-- Rounding keeps the order of quotients. -/
theorem ofRatio_le_ofRatio {n d n' d' : Nat} (hd : 0 < d) (hd' : 0 < d') (h : n * d' ≤ n' * d) :
    (ofRatio n d).le (ofRatio n' d') = true := by
  refine (round_le_round hd hd' ?_).1
  rw [Nat.mul_right_comm, Nat.mul_right_comm n']
  exact Nat.mul_le_mul_right unit h

/-- Rounding keeps the order of whole numbers of quanta. -/
theorem ofQuanta_le_ofQuanta {i j : Int} (h : i ≤ j) : (ofQuanta i).le (ofQuanta j) = true := by
  unfold ofQuanta
  rcases Int.lt_or_le i 0 with hi | hi
  · rcases Int.lt_or_le j 0 with hj | hj
    · rw [decide_eq_true hi, decide_eq_true hj]
      exact (round_le_round Nat.one_pos Nat.one_pos (by omega)).2
    · rw [decide_eq_true hi, decide_eq_false (Int.not_lt.2 hj)]
      exact round_negative_le ..
  · rw [decide_eq_false (Int.not_lt.2 hi), decide_eq_false (Int.not_lt.2 (Int.le_trans hi h))]
    exact (round_le_round Nat.one_pos Nat.one_pos (by omega)).1

/-- Rounding keeps the order of integers. -/
theorem ofInt_le_ofInt {i j : Int} (h : i ≤ j) : (ofInt i).le (ofInt j) = true := by
  rw [ofInt_eq_ofQuanta, ofInt_eq_ofQuanta]
  exact ofQuanta_le_ofQuanta (Int.mul_le_mul_of_nonneg_right h (Int.natCast_nonneg unit))

theorem le_iff_toQuanta_le {x y : Binary64} (hx : x.isFinite = true) (hy : y.isFinite = true) :
    x.le y = true ↔ x.toQuanta ≤ y.toQuanta := by
  obtain ⟨s, a, ha, rfl⟩ := isFinite_iff.1 hx
  obtain ⟨t, b, hb, rfl⟩ := isFinite_iff.1 hy
  exact decide_eq_true_iff

theorem isFinite_of_between {x y z : Binary64} (hxy : x.le y = true) (hyz : y.le z = true)
    (hx : x.isFinite = true) (hz : z.isFinite = true) : y.isFinite = true := by
  obtain ⟨s, a, ha, rfl⟩ := isFinite_iff.1 hx
  obtain ⟨t, b, hb, rfl⟩ := isFinite_iff.1 hz
  cases y with
  | nan => cases hxy
  | infinite u =>
      -- an infinity lies on one side of both
      cases u with
      | true => cases hxy
      | false => cases hyz
  | finite u c hc => rfl

theorem zero_le_eq (s : Bool) (x : Binary64) : (zero s).le x = (zero false).le x := by
  cases s <;> cases x <;> simp [le, zero, signed]

theorem le_zero_eq (s : Bool) (x : Binary64) : x.le (zero s) = x.le (zero false) := by
  cases s <;> cases x <;> simp [le, zero, signed]

/-- Adding a number to both sides keeps the order. A sum that is zero may have
either sign, which the order does not see. -/
theorem add_le_add_right {x y z : Binary64} (h : x.le y = true) (hx : x.isFinite = true)
    (hy : y.isFinite = true) (hz : z.isFinite = true) : (x + z).le (y + z) = true := by
  have hsum : ∀ {x : Binary64}, x.isFinite = true → ∀ w : Binary64,
      (x + z).le w = (ofQuanta (x.toQuanta + z.toQuanta)).le w
        ∧ w.le (x + z) = w.le (ofQuanta (x.toQuanta + z.toQuanta)) := by
    intro x hx w
    rcases add_cases hx hz with ⟨hzero, s, hsum⟩ | hsum
    · rw [hsum, hzero, ofQuanta_zero]
      exact ⟨zero_le_eq s w, le_zero_eq s w⟩
    · rw [hsum]
      exact ⟨rfl, rfl⟩
  rw [(hsum hx _).1, (hsum hy _).2]
  exact ofQuanta_le_ofQuanta (Int.add_le_add_right ((le_iff_toQuanta_le hx hy).1 h) _)

/-- Multiplying both sides with a number keeps the order, unless the number is
negative. -/
theorem mul_le_mul_right {x y : Binary64} {c : Nat} (h : x.le y = true) (hx : x.isFinite = true)
    (hy : y.isFinite = true) (hc : Quanta.IsRepresentable c) :
    (x * finite false c hc).le (y * finite false c hc) = true := by
  obtain ⟨s, a, ha, rfl⟩ := isFinite_iff.1 hx
  obtain ⟨t, b, hb, rfl⟩ := isFinite_iff.1 hy
  have hscale : ∀ {a b : Nat}, a ≤ b → a * c * unit ≤ b * c * unit := fun hab =>
    Nat.mul_le_mul_right unit (Nat.mul_le_mul_right c hab)
  rw [mul_finite, mul_finite, Bool.bne_false, Bool.bne_false]
  simp only [le, decide_eq_true_eq] at h
  cases s with
  | true =>
      cases t with
      | true => exact (round_le_round unit_pos unit_pos (hscale (by simpa [signed] using h))).2
      | false => exact round_negative_le ..
  | false =>
      cases t with
      | true =>
          -- both are zero
          have hzero : a = 0 ∧ b = 0 := by
            simp only [signed, if_true, Bool.false_eq_true, if_false] at h
            omega
          rw [hzero.1, hzero.2, Nat.zero_mul, round_zero, round_zero]
          rfl
      | false => exact (round_le_round unit_pos unit_pos (hscale (by simpa [signed] using h))).1

theorem floor_le_floor {x y : Binary64} (h : x.le y = true) (hx : x.isFinite = true)
    (hy : y.isFinite = true) : x.floor?.getD 0 ≤ y.floor?.getD 0 := by
  rw [floor?_of_isFinite hx, floor?_of_isFinite hy, Option.getD_some, Option.getD_some,
    Int.fdiv_eq_ediv_of_nonneg _ (Int.natCast_nonneg unit),
    Int.fdiv_eq_ediv_of_nonneg _ (Int.natCast_nonneg unit)]
  exact Int.ediv_le_ediv (Int.natCast_pos.2 unit_pos) ((le_iff_toQuanta_le hx hy).1 h)

theorem signed_mul (s : Bool) (q u : Nat) : signed s (q * u) = signed s q * u := by
  cases s <;> simp [signed]

/-- Integers of at most 53 bits are doubles. -/
theorem ofInt_of_le {i : Int} (h : i.natAbs ≤ 2 ^ 53) :
    ∃ hq, ofInt i = .finite (i < 0) (i.natAbs * unit) hq := by
  obtain ⟨k, hk⟩ : ∃ k, 0 + k = 1074 := ⟨1074, rfl⟩
  have hunit : unit = 2 ^ k := (unit_eq_mul hk).trans (Nat.one_mul _)
  have hdvd : 2 ^ k ∣ i.natAbs * unit := ⟨i.natAbs, by rw [hunit, Nat.mul_comm]⟩
  have hle : i.natAbs * unit ≤ 2 ^ (k + 53) := by
    rw [hunit, Nat.add_comm, Nat.pow_add]
    exact Nat.mul_le_mul_right _ h
  have hq : Quanta.IsRepresentable (i.natAbs * unit) :=
    Quanta.isRepresentable_of_dvd (by omega) hdvd hle
  exact ⟨hq, round_self _ hq⟩

/-- Up to `2 ^ 53` integers compare as their doubles do. -/
theorem ofInt_le_eq {i j : Int} (hi : i.natAbs ≤ 2 ^ 53) (hj : j.natAbs ≤ 2 ^ 53) :
    (ofInt i).le (ofInt j) = decide (i ≤ j) := by
  obtain ⟨_, hi⟩ := ofInt_of_le hi
  obtain ⟨_, hj⟩ := ofInt_of_le hj
  rw [hi, hj, le, signed_mul, signed_mul, signed_natAbs, signed_natAbs]
  exact decide_eq_decide.2 (Int.mul_le_mul_iff_of_pos_right (Int.natCast_pos.2 unit_pos))

end Binary64

end Audience
