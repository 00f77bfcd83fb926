import Audience.Proofs.Intervals
import Audience.Proofs.Rounding

/-!
# Whole amounts between whole limits

An integer is compared as the double nearest to it, and so are the limits it is
compared with. Rounding can make two integers equal but cannot exchange them
(`Binary64.ofInt_le_ofInt`), so a lifetime value that lies between its limits is
never shut out, however large the three are. The converse holds as long as nothing
is rounded, which is up to `2 ^ 53` (`Binary64.ofInt_le_eq`): the next integer is
already read as the one before it.
-/

namespace Audience

/-- An integer is read as the double nearest to it. -/
theorem Value.toAmount_int {i : Int} (h : i.natAbs < Binary64.intLimit) :
    (int i).toAmount = .ok (.ofInt i) := by
  simp only [toAmount, (Binary64.isFinite_ofInt i).2 h, if_true]

namespace Interval

variable {x y z : Binary64} {limits ctx : Fields} {v : Value}

theorem accepts_of_limits (hmin : Rule.bound (limits.get "min") (.infinite true) = .ok x)
    (hmax : Rule.bound (limits.get "max") (.infinite false) = .ok y)
    (hworth : Rule.lifetime (.ofFields ctx) = .ok z) :
    accepts (.object limits) ctx = .ok (x.le z && z.le y) :=
  accepts_of_read (ofValue_object_eq_ok_iff (i := { lower := x, upper := y }).2 ⟨hmin, hmax⟩) hworth

theorem accepts_of_minimum (hflat : v.fields? = none) (hlimit : v.toAmount = .ok x)
    (hworth : Rule.lifetime (.ofFields ctx) = .ok z) : accepts v ctx = .ok (x.le z) := by
  have hread : ofValue v = .ok (atLeast x) := by
    rw [ofValue_of_flat hflat, hlimit]
    rfl
  rw [accepts_of_read hread hworth, contains_atLeast]

theorem bound_int {i : Int} (hv : v = .int i) (hi : i.natAbs < Binary64.intLimit)
    (default : Binary64) : Rule.bound v default = .ok (.ofInt i) := by
  rw [hv, bound_of_given rfl, Value.toAmount_int hi]

/-- **Whole amounts.** A criterion about the lifetime value, with two integers as
limits or with one as the lower limit, accepts every integer between them, of any
size that the doubles reach. If none of the integers is beyond `2 ^ 53`, it accepts
no other integer. -/
theorem whole_amounts_between {criterion ctx : Fields} {lo v : Int}
    (hfield : Criterion.memberText criterion "field" = Text.ofString "lifetimeValue")
    (hworth : ctx.get "lifetime_value" = .int v) (hlo : lo.natAbs < Binary64.intLimit)
    (hv : v.natAbs < Binary64.intLimit) :
    (∀ (limits : Fields) (hi : Int), criterion.get "value" = .object limits →
        limits.get "min" = .int lo → limits.get "max" = .int hi →
        hi.natAbs < Binary64.intLimit →
        (lo ≤ v → v ≤ hi → Criterion.holdsFor (.object criterion) (.object ctx) = .ok true)
          ∧ (lo.natAbs ≤ 2 ^ 53 → v.natAbs ≤ 2 ^ 53 → hi.natAbs ≤ 2 ^ 53 →
            Criterion.holdsFor (.object criterion) (.object ctx)
              = .ok (decide (lo ≤ v ∧ v ≤ hi))))
      ∧ (criterion.get "value" = .int lo →
        (lo ≤ v → Criterion.holdsFor (.object criterion) (.object ctx) = .ok true)
          ∧ (lo.natAbs ≤ 2 ^ 53 → v.natAbs ≤ 2 ^ 53 →
            Criterion.holdsFor (.object criterion) (.object ctx) = .ok (decide (lo ≤ v)))) := by
  have hamount : Rule.lifetime (.ofFields ctx) = .ok (.ofInt v) := bound_int hworth hv _
  refine ⟨fun limits hi hvalue hmin hmax hhi => ?_, fun hvalue => ?_⟩
  · rw [holdsFor_object hfield, hvalue,
      accepts_of_limits (bound_int hmin hlo _) (bound_int hmax hhi _) hamount]
    refine ⟨fun hlow hhigh => ?_, fun hlo' hv' hhi' => ?_⟩
    · rw [Binary64.ofInt_le_ofInt hlow, Binary64.ofInt_le_ofInt hhigh, Bool.and_self]
    · rw [Bool.decide_and, Binary64.ofInt_le_eq hlo' hv', Binary64.ofInt_le_eq hv' hhi']
  · rw [holdsFor_object hfield, hvalue, accepts_of_minimum rfl (Value.toAmount_int hlo) hamount]
    refine ⟨fun hlow => ?_, fun hlo' hv' => ?_⟩
    · rw [Binary64.ofInt_le_ofInt hlow]
    · rw [Binary64.ofInt_le_eq hlo' hv']

/-- A criterion about the lifetime value. -/
def asksFor (v : Value) : Fields := [("field", .text "lifetimeValue"), ("value", v)]

/-- Both limits lie beyond `2 ^ 53` and are rounded away from the amount between
them, which is accepted. From `2 ^ 53` on the amount before it is not accepted; from
the next integer on it would be `2 ^ 53` itself. -/
theorem roundedLimits_between :
    Criterion.holdsFor
        (.object (asksFor (.object [("min", .int (2 ^ 53 + 1)), ("max", .int (2 ^ 53 + 3))])))
        (.object (worth (.int (2 ^ 53 + 2)))) = .ok true
      ∧ Criterion.holdsFor (.object (asksFor (.int (2 ^ 53)))) (.object (worth (.int (2 ^ 53 - 1))))
        = .ok false
      ∧ Criterion.holdsFor (.object (asksFor (.int (2 ^ 53 + 1)))) (.object (worth (.int (2 ^ 53))))
        = .ok true := by
  have hfits : ∀ i : Int, i.natAbs < 2 ^ 54 → i.natAbs < Binary64.intLimit := fun i hi =>
    Nat.lt_trans hi (by decide +kernel)
  refine ⟨?_, ?_, by decide +kernel⟩
  · have hbetween := @whole_amounts_between
      (asksFor (.object [("min", .int (2 ^ 53 + 1)), ("max", .int (2 ^ 53 + 3))]))
      (worth (.int (2 ^ 53 + 2))) (2 ^ 53 + 1) (2 ^ 53 + 2) rfl rfl (hfits _ (by decide))
      (hfits _ (by decide))
    exact (hbetween.1 _ _ rfl rfl rfl (hfits _ (by decide))).1 (by decide) (by decide)
  · have hbetween := @whole_amounts_between (asksFor (.int (2 ^ 53)))
      (worth (.int (2 ^ 53 - 1))) (2 ^ 53) (2 ^ 53 - 1) rfl rfl (hfits _ (by decide))
      (hfits _ (by decide))
    exact (hbetween.2 rfl).2 (by decide) (by decide)

end Interval

end Audience
