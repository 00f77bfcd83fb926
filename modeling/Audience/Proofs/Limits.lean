import Audience.LeadQueue
import Audience.Proofs.Attempts

/-!
# Where coercions end

Almost every value can be read as an amount and as a date: what is neither
becomes not-a-number or no date. Two readings have no answer, and every
failure that a record can cause comes from one of them:

- an integer beyond the doubles has no amount (`Value.AmountOverflows`,
  `toAmount_eq_error_iff`);
- a written date whose point in time lies before the year 1 or after the
  year 9999 has no instant (`Value.DateOverflows`,
  `toInstant?_eq_error_iff`).

The third limit is not one of the data. Counting days back from a reference
time can leave the calendar as well (`daysBefore_eq_error_iff`).

At the end stands the shape that lists have at the host's interface: a list,
or null for none.
-/

namespace Audience

/-! ## Points in time -/

namespace Instant

/-- A position on the scale of instants that is not one of the years 1 to
9999. -/
def OffScale (n : Int) : Prop := n < 0 ∨ (dayLimit * microsPerDay : Nat) ≤ n

instance (n : Int) : Decidable (OffScale n) := inferInstanceAs (Decidable (_ ∨ _))

theorem ofMicros_eq_error_iff {n : Int} {failure : Failure} :
    ofMicros n = .error failure ↔ OffScale n ∧ failure = .dateOutOfRange := by
  unfold ofMicros OffScale
  split
  · rename_i h
    simp only [reduceCtorEq, false_iff, not_and]
    omega
  · rename_i h
    simp only [Except.error.injEq, eq_comm (a := Failure.dateOutOfRange), iff_and_self]
    omega

/-- Going back fails only where fewer days have passed since the year 1. -/
theorem daysBefore_eq_error_iff {i : Instant} {days : Nat} {failure : Failure} :
    i.daysBefore days = .error failure ↔
      i.micros < days * microsPerDay ∧ failure = .dateOutOfRange := by
  have hrange := i.inRange
  rw [daysBefore, ofMicros_eq_error_iff, OffScale]
  refine and_congr_left fun _ => ?_
  omega

end Instant

namespace Stamp

/-- Where a stamp lies on the scale of instants, if it is not off the
scale. -/
def position (s : Stamp) : Int :=
  s.date.ordinal * microsPerDay + s.time.micros - s.offset.getD 0

theorem instant_eq (s : Stamp) : s.instant = Instant.ofMicros s.position := rfl

end Stamp

namespace Value

/-! ## Amounts -/

/-- An integer beyond the doubles. -/
def AmountOverflows (v : Value) : Prop := ∃ i, v = .int i ∧ (Binary64.ofInt i).isFinite = false

theorem toAmount_eq_error_iff {v : Value} {failure : Failure} :
    v.toAmount = .error failure ↔ v.AmountOverflows ∧ failure = .amountTooLarge := by
  cases v with
  | int i =>
      simp only [toAmount, AmountOverflows, int.injEq, exists_eq_left']
      cases (Binary64.ofInt i).isFinite <;> simp [eq_comm]
  | text t =>
      simp only [toAmount, AmountOverflows, reduceCtorEq, false_and, exists_false, iff_false]
      split <;> simp
  | null => simp [toAmount, AmountOverflows]
  | bool b => simp [toAmount, AmountOverflows]
  | real x => simp [toAmount, AmountOverflows]
  | list items => simp [toAmount, AmountOverflows]
  | object fields => simp [toAmount, AmountOverflows]

instance (v : Value) : Decidable v.AmountOverflows :=
  match v with
  | .int i =>
    decidable_of_iff ((Binary64.ofInt i).isFinite = false) (by simp [AmountOverflows])
  | .null | .bool _ | .real _ | .text _ | .list _ | .object _ =>
    isFalse (by simp [AmountOverflows])

theorem exists_toAmount_ok_iff {v : Value} :
    (∃ x, v.toAmount = .ok x) ↔ ¬ v.AmountOverflows := by
  rw [Attempt.exists_ok_iff]
  simp only [ne_eq, toAmount_eq_error_iff]
  exact ⟨fun h hv => h _ ⟨hv, rfl⟩, fun h _ hv => h hv.1⟩

/-- An integer beyond the doubles is not zero, so a default does not stand in
for it. -/
theorem amountOverflows_orElse_zero {v : Value} :
    (v.orElse (.int 0)).AmountOverflows ↔ v.AmountOverflows := by
  have hzero : ¬ (int 0).AmountOverflows := by
    rintro ⟨i, hi, h⟩
    cases hi
    exact absurd h (by decide +kernel)
  unfold orElse
  split
  · rfl
  · rename_i hv
    refine iff_of_false hzero ?_
    rintro ⟨i, rfl, h⟩
    simp only [isTruthy, bne_iff_ne, ne_eq, Decidable.not_not] at hv
    exact hzero ⟨i, by rw [hv], h⟩

/-! ## Dates -/

/-- A written date whose point in time is not one of the years 1 to 9999. -/
def DateOverflows (v : Value) : Prop :=
  ∃ t s, v = .text t ∧ Timestamp.stamp? t = some s ∧ Instant.OffScale s.position

theorem toInstant?_eq_error_iff {v : Value} {failure : Failure} :
    v.toInstant? = .error failure ↔ v.DateOverflows ∧ failure = .dateOutOfRange := by
  cases v with
  | text t =>
      simp only [toInstant?, Text.toInstant?, DateOverflows, text.injEq]
      cases ht : Timestamp.stamp? t with
      | none => simp [ht]
      | some s =>
          simp only [Attempt.map_eq_error_iff, Stamp.instant_eq, Instant.ofMicros_eq_error_iff]
          refine and_congr_left fun _ => ⟨fun h => ⟨t, s, rfl, ht, h⟩, ?_⟩
          rintro ⟨_, s', rfl, hs', h⟩
          obtain rfl := Option.some.inj (ht.symm.trans hs')
          exact h
  | null => simp [toInstant?, DateOverflows]
  | bool b => simp [toInstant?, DateOverflows]
  | int i => simp [toInstant?, DateOverflows]
  | real x => simp [toInstant?, DateOverflows]
  | list items => simp [toInstant?, DateOverflows]
  | object fields => simp [toInstant?, DateOverflows]

instance (v : Value) : Decidable v.DateOverflows :=
  match v with
  | .text t =>
    match h : Timestamp.stamp? t with
    | some s => decidable_of_iff (Instant.OffScale s.position) (by simp [DateOverflows, h])
    | none => isFalse (by simp [DateOverflows, h])
  | .null | .bool _ | .int _ | .real _ | .list _ | .object _ =>
    isFalse (by simp [DateOverflows])

theorem exists_toInstant?_ok_iff {v : Value} :
    (∃ i, v.toInstant? = .ok i) ↔ ¬ v.DateOverflows := by
  rw [Attempt.exists_ok_iff]
  simp only [ne_eq, toInstant?_eq_error_iff]
  exact ⟨fun h hv => h _ ⟨hv, rfl⟩, fun h _ hv => h hv.1⟩

/-! ## Words and lists at the interface -/

theorem isText_iff {v : Value} {t : Text} : v.isText t = true ↔ v = .text t := by
  cases v <;> simp [isText]

/-- A list, or null for none. -/
def IsListOrNull (v : Value) : Prop := v = .null ∨ ∃ items, v = .list items

theorem elementsOrNone_eq {v : Value} (h : v.IsListOrNull) : v.elementsOrNone = .ok v.items := by
  obtain rfl | ⟨items, rfl⟩ := h
  · rfl
  · cases items <;> rfl

theorem isListOrNull_list (items : List Value) : (list items).IsListOrNull := .inr ⟨items, rfl⟩

end Value

/-- The reference time is missing only if the value given for it is a date
off the calendar; the clock stands in for everything else. -/
theorem LeadQueue.referenceTime_eq_error_iff {clock : Instant} {now : Value} {failure : Failure} :
    referenceTime clock now = .error failure ↔
      now.DateOverflows ∧ failure = .dateOutOfRange := by
  rw [referenceTime, Attempt.map_eq_error_iff, Value.toInstant?_eq_error_iff]

end Audience
