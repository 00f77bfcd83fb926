/-!
# Binary64 numbers

Amounts are compared and added as IEEE 754 doubles. Every finite double is
a whole number of *quanta* of 2^-1074, so this file keeps one as a sign and
a natural number of quanta, and no operation leaves exact arithmetic until
its single rounding step:

- `Quanta.IsRepresentable` says which numbers of quanta are doubles: at most
  53 significant bits, and below `Quanta.limit`.
- `roundQuanta` takes a quotient of naturals to the nearest such number,
  ties to the even significand; `representable_roundQuanta` is the lemma
  that lets `Binary64.round` build its result.
- Sums, products and quotients are that rounding of the exact result.

There is one not-a-number, and zeros are signed.
-/

namespace Audience

/-! ## Rounding a quotient -/

/-- The natural number nearest to `n / d`; a tie goes to the even one. -/
def roundHalfEven (n d : Nat) : Nat :=
  let q := n / d
  let r := n % d
  if 2 * r < d then q
  else if d < 2 * r then q + 1
  else if q % 2 = 0 then q else q + 1

namespace Quanta

/-- The spacing of doubles around `q` quanta: one quantum while 53 bits are
enough, doubling with each further bit. -/
def step (q : Nat) : Nat := Nat.pow 2 (q.log2 + 1 - 53)

/-- The first number of quanta beyond the doubles, 2^1024 units. -/
def limit : Nat := Nat.pow 2 2098

theorem limit_pos : 0 < limit := by
  unfold limit
  generalize 2098 = k
  exact Nat.two_pow_pos k

/-- `q` quanta are the magnitude of a finite double. -/
def IsRepresentable (q : Nat) : Prop := q < limit ∧ step q ∣ q

instance (q : Nat) : Decidable (IsRepresentable q) :=
  inferInstanceAs (Decidable (_ ∧ _))

end Quanta

/-- The quanta of the double nearest to `n / d` quanta, without a bound on
its size. -/
def roundQuanta (n d : Nat) : Nat :=
  let step := Quanta.step (n / d)
  roundHalfEven n (d * step) * step

theorem roundHalfEven_le {n d m : Nat} (h : n / d < m) : roundHalfEven n d ≤ m := by
  unfold roundHalfEven
  dsimp only
  split
  · omega
  · split
    · omega
    · split <;> omega

/-- Scaling a significand of at most 53 bits by a power of two keeps it a
multiple of its own spacing. -/
theorem step_dvd_of_le {m k : Nat} (hm : m ≤ Nat.pow 2 53) :
    Quanta.step (m * Nat.pow 2 k) ∣ m * Nat.pow 2 k := by
  unfold Quanta.step
  simp only [Nat.pow_eq] at hm ⊢
  by_cases h : m = 2 ^ 53
  · subst h
    rw [← Nat.pow_add, Nat.log2_two_pow]
    exact Nat.pow_dvd_pow 2 (by omega)
  · have hlt : m < 2 ^ 53 := by omega
    have hlog : (m * 2 ^ k).log2 + 1 - 53 ≤ k := by
      by_cases hz : m * 2 ^ k = 0
      · simp [hz]
      · have hbound : m * 2 ^ k < 2 ^ (53 + k) := by
          rw [Nat.pow_add]
          exact Nat.mul_lt_mul_of_pos_right hlt (Nat.two_pow_pos k)
        have := (Nat.log2_lt hz).2 hbound
        omega
    exact Nat.dvd_trans (Nat.pow_dvd_pow 2 hlog) (Nat.dvd_mul_left _ _)

/-- Rounding gives at most 53 bits in front of the step. -/
theorem significand_le (n d : Nat) :
    roundHalfEven n (d * Quanta.step (n / d)) ≤ Nat.pow 2 53 := by
  apply roundHalfEven_le
  rw [← Nat.div_div_eq_div_mul]
  apply Nat.div_lt_of_lt_mul
  unfold Quanta.step
  rw [Nat.pow_eq, Nat.pow_eq, ← Nat.pow_add]
  by_cases hz : n / d = 0
  · rw [hz]; exact Nat.two_pow_pos _
  · exact (Nat.log2_lt hz).1 (by omega)

theorem step_dvd_roundQuanta (n d : Nat) :
    Quanta.step (roundQuanta n d) ∣ roundQuanta n d :=
  step_dvd_of_le (significand_le n d)

/-! ## The type -/

/-- A double: not a number, an infinity, or a finite number of quanta. -/
inductive Binary64 where
  | nan
  | infinite (negative : Bool)
  | finite (negative : Bool) (quanta : Nat) (representable : Quanta.IsRepresentable quanta)
deriving DecidableEq

namespace Binary64

/-- The number of quanta in one unit. -/
def unit : Nat := Nat.pow 2 1074

/-- The double nearest to `n / d` quanta with the given sign; infinite when
that lies beyond the largest finite one. -/
def round (negative : Bool) (n d : Nat) : Binary64 :=
  if h : roundQuanta n d < Quanta.limit then
    .finite negative (roundQuanta n d) ⟨h, step_dvd_roundQuanta n d⟩
  else .infinite negative

theorem representable_zero : Quanta.IsRepresentable 0 :=
  ⟨Quanta.limit_pos, Nat.dvd_zero _⟩

/-- A zero of the given sign. -/
def zero (negative : Bool) : Binary64 := .finite negative 0 representable_zero

/-- Positive zero. -/
instance : Inhabited Binary64 := ⟨zero false⟩

/-- The double nearest to an integer, possibly infinite. -/
def ofInt (i : Int) : Binary64 := round (i < 0) (i.natAbs * unit) 1

/-- The double nearest to the quotient of two naturals. -/
def ofRatio (n d : Nat) : Binary64 := round false (n * unit) d

/-- Neither infinite nor not a number. -/
def isFinite : Binary64 → Bool
  | .finite .. => true
  | _ => false

/-- Neither a zero. Not-a-number counts as non-zero. -/
def isNonzero : Binary64 → Bool
  | .finite _ q _ => q != 0
  | _ => true

def signed (negative : Bool) (q : Nat) : Int := if negative then -(q : Int) else q

/-! ## Arithmetic -/

/-- The rounded sum. Opposite infinities have none; an exact zero is negative
only if both terms are. -/
def add : Binary64 → Binary64 → Binary64
  | .nan, _ | _, .nan => .nan
  | .infinite s, .infinite t => if s = t then .infinite s else .nan
  | .infinite s, .finite .. => .infinite s
  | .finite .., .infinite t => .infinite t
  | .finite s a _, .finite t b _ =>
    let sum := signed s a + signed t b
    if sum = 0 then zero (s && t) else round (sum < 0) sum.natAbs 1

/-- The rounded product. An infinity times a zero has none. -/
def mul : Binary64 → Binary64 → Binary64
  | .nan, _ | _, .nan => .nan
  | .infinite s, .infinite t => .infinite (s != t)
  | .infinite s, .finite t b _ => if b = 0 then .nan else .infinite (s != t)
  | .finite s a _, .infinite t => if a = 0 then .nan else .infinite (s != t)
  | .finite s a _, .finite t b _ => round (s != t) (a * b) unit

instance : Add Binary64 := ⟨add⟩
instance : Mul Binary64 := ⟨mul⟩

/-! ## Order -/

/-- Less than or equal; false as soon as one side is not a number. -/
def le : Binary64 → Binary64 → Bool
  | .nan, _ | _, .nan => false
  | .infinite s, .infinite t => s || !t
  | .infinite s, .finite .. => s
  | .finite .., .infinite t => !t
  | .finite s a _, .finite t b _ => signed s a ≤ signed t b

/-! ## Whole numbers -/

/-- The greatest integer not above a finite double. -/
def floor? : Binary64 → Option Int
  | .finite s q _ => some (Int.fdiv (signed s q) unit)
  | _ => none

/-- The integer part of a finite double, towards zero. -/
def truncate? : Binary64 → Option Int
  | .finite s q _ => some (Int.tdiv (signed s q) unit)
  | _ => none

end Binary64

end Audience
