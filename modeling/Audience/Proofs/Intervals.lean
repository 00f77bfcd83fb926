import Audience.Proofs.Coercions

/-!
# Lifetime values between limits

A criterion about the lifetime value asks for a closed interval of doubles. Its
value names the limits: an object the two of them, where one that is null is no
limit, and anything else the lower one. `Interval.ofValue` reads them, and the
answer is whether the lifetime value lies in the interval (`holdsFor_object`),
where a lifetime value that is null counts as zero.

What is known of closed intervals then holds of the criteria, as far as it does
not need every number to lie somewhere:

- two limits accept what both of them accept alone (`accepts_eq_both`), and there
  are no gaps between them (`contains_between`);
- not-a-number is never accepted, and as a limit it accepts nothing
  (`accepts_of_nan`);
- without limits everything else is accepted, the infinities too
  (`accepts_of_unlimited`).
-/

namespace Audience

/-! ## The order of doubles -/

namespace Binary64

variable {x y z : Binary64}

theorem nan_le (x : Binary64) : nan.le x = false := by cases x <;> rfl

theorem le_nan (x : Binary64) : x.le nan = false := by cases x <;> rfl

/-- Nothing but not-a-number lies beyond the greatest double. -/
theorem le_greatest_iff : x.le (.infinite false) = true ↔ x ≠ .nan := by
  cases x <;> simp [le]

theorem least_le_iff : (infinite true).le x = true ↔ x ≠ .nan := by
  cases x <;> simp [le]

theorem le_least_iff : x.le (.infinite true) = true ↔ x = .infinite true := by
  cases x <;> simp [le]

theorem greatest_le_iff : (infinite false).le x = true ↔ x = .infinite false := by
  cases x <;> simp [le]

theorem left_ne_nan_of_le (h : x.le y = true) : x ≠ .nan := by
  rintro rfl
  rw [nan_le] at h
  cases h

theorem right_ne_nan_of_le (h : x.le y = true) : y ≠ .nan := by
  rintro rfl
  rw [le_nan] at h
  cases h

theorem le_trans (hxy : x.le y = true) (hyz : y.le z = true) : x.le z = true := by
  cases x with
  | nan => exact absurd rfl (left_ne_nan_of_le hxy)
  | infinite s =>
      cases s with
      | true => exact least_le_iff.2 (right_ne_nan_of_le hyz)
      | false =>
          obtain rfl := greatest_le_iff.1 hxy
          exact hyz
  | finite s a ha =>
      cases z with
      | nan => exact absurd rfl (right_ne_nan_of_le hyz)
      | infinite t =>
          cases t with
          | true =>
              obtain rfl := le_least_iff.1 hyz
              exact hxy
          | false => exact le_greatest_iff.2 (left_ne_nan_of_le hxy)
      | finite t c hc =>
          cases y with
          | nan => exact absurd rfl (left_ne_nan_of_le hyz)
          | infinite u =>
              -- An infinity lies on one side of both numbers.
              cases u with
              | true => cases hxy
              | false => cases hyz
          | finite u b hb =>
              simp only [le, decide_eq_true_eq] at hxy hyz ⊢
              exact Int.le_trans hxy hyz

end Binary64

/-! ## Closed intervals -/

/-- The doubles between two limits, both included. -/
structure Interval where
  lower : Binary64
  upper : Binary64
deriving DecidableEq

namespace Interval

def contains (i : Interval) (x : Binary64) : Bool := i.lower.le x && x.le i.upper

/-- The doubles from a limit on. -/
def atLeast (lower : Binary64) : Interval := { lower, upper := .infinite false }

/-- The doubles up to a limit. -/
def atMost (upper : Binary64) : Interval := { lower := .infinite true, upper }

variable {i : Interval} {x y z : Binary64}

theorem contains_iff : i.contains x = true ↔ i.lower.le x = true ∧ x.le i.upper = true :=
  Bool.and_eq_true_iff

theorem ne_nan_of_contains (h : i.contains x = true) : x ≠ .nan :=
  Binary64.right_ne_nan_of_le (contains_iff.1 h).1

theorem contains_atLeast (lower x : Binary64) : (atLeast lower).contains x = lower.le x := by
  rw [Bool.eq_iff_iff, contains_iff]
  refine ⟨And.left, fun h => ⟨h, ?_⟩⟩
  exact Binary64.le_greatest_iff.2 (Binary64.right_ne_nan_of_le h)

theorem contains_atMost (upper x : Binary64) : (atMost upper).contains x = x.le upper := by
  rw [Bool.eq_iff_iff, contains_iff]
  refine ⟨And.right, fun h => ⟨?_, h⟩⟩
  exact Binary64.least_le_iff.2 (Binary64.left_ne_nan_of_le h)

/-- An interval is what its two half-lines share. -/
theorem contains_eq_and (i : Interval) (x : Binary64) :
    i.contains x = ((atLeast i.lower).contains x && (atMost i.upper).contains x) := by
  rw [contains_atLeast, contains_atMost, contains]

/-- An interval has no gaps. -/
theorem contains_between (hx : i.contains x = true) (hz : i.contains z = true)
    (hxy : x.le y = true) (hyz : y.le z = true) : i.contains y = true :=
  contains_iff.2 ⟨Binary64.le_trans (contains_iff.1 hx).1 hxy,
    Binary64.le_trans hyz (contains_iff.1 hz).2⟩

/-! ## Reading limits -/

/-- The interval that the value of a criterion names. -/
def ofValue (v : Value) : Attempt Interval :=
  match v with
  | .object limits => do
    let lower ← Rule.bound (Fields.get limits "min") (.infinite true)
    let upper ← Rule.bound (Fields.get limits "max") (.infinite false)
    return { lower, upper }
  | v => v.toAmount.map atLeast

/-- Whether the lifetime value of a context lies in the interval that a value
names. -/
def accepts (v : Value) (ctx : Fields) : Attempt Bool := do
  let i ← ofValue v
  (Rule.lifetime (.ofFields ctx)).map i.contains

variable {v : Value} {limits ctx : Fields}

theorem ofValue_of_flat (h : v.fields? = none) : ofValue v = v.toAmount.map atLeast := by
  cases v with
  | object limits => cases h
  | _ => rfl

theorem ofLifetime_of_flat (h : v.fields? = none) :
    Rule.ofLifetime v = v.toAmount.map .lifetimeMinimum := by
  cases v with
  | object limits => cases h
  | _ => rfl

theorem bound_of_given (h : v.isNull = false) (default : Binary64) :
    Rule.bound v default = v.toAmount := by
  rw [Rule.bound, h]
  rfl

/-- Both kinds of rules about the lifetime value ask for an interval. -/
theorem ofLifetime_holds (v : Value) (ctx : Fields) :
    (do let rule ← Rule.ofLifetime v; rule.holds (.ofFields ctx)) = accepts v ctx := by
  obtain hflat | ⟨limits, rfl⟩ := v.fields?_eq_none_or
  · rw [accepts, ofValue_of_flat hflat, ofLifetime_of_flat hflat]
    cases v.toAmount with
    | error failure => rfl
    | ok lower =>
        have hfrom : lower.le = (atLeast lower).contains :=
          funext fun x => (contains_atLeast lower x).symm
        exact congrArg (Except.map · (Rule.lifetime (.ofFields ctx))) hfrom
  · simp only [Rule.ofLifetime, accepts, ofValue]
    cases Rule.bound (limits.get "min") (.infinite true) with
    | error failure => rfl
    | ok lower =>
        cases Rule.bound (limits.get "max") (.infinite false) with
        | error failure => rfl
        | ok upper => rfl

theorem holdsFor_object {criterion : Fields}
    (hfield : Criterion.memberText criterion "field" = Text.ofString "lifetimeValue")
    (ctx : Fields) :
    Criterion.holdsFor (.object criterion) (.object ctx)
      = accepts (criterion.get "value") ctx := by
  rw [Criterion.holdsFor_object, hfield]
  exact ofLifetime_holds ..

theorem ofValue_object_eq_ok_iff :
    ofValue (.object limits) = .ok i ↔
      Rule.bound (limits.get "min") (.infinite true) = .ok i.lower
        ∧ Rule.bound (limits.get "max") (.infinite false) = .ok i.upper := by
  simp only [ofValue, Attempt.bind_eq_ok_iff, Attempt.pure_eq_ok, Except.ok.injEq]
  constructor
  · rintro ⟨lower, hlower, upper, hupper, rfl⟩
    exact ⟨hlower, hupper⟩
  · rintro ⟨hlower, hupper⟩
    exact ⟨_, hlower, _, hupper, rfl⟩

/-- Limits that can be read are the ends of an interval. -/
theorem exists_limits (hmin : ¬ (limits.get "min").AmountOverflows)
    (hmax : ¬ (limits.get "max").AmountOverflows) :
    ∃ i : Interval, Rule.bound (limits.get "min") (.infinite true) = .ok i.lower
      ∧ Rule.bound (limits.get "max") (.infinite false) = .ok i.upper := by
  have hlower : ∃ x, Rule.bound (limits.get "min") (.infinite true) = .ok x :=
    Rule.exists_bound_ok_iff.2 hmin
  have hupper : ∃ x, Rule.bound (limits.get "max") (.infinite false) = .ok x :=
    Rule.exists_bound_ok_iff.2 hmax
  obtain ⟨lower, hlower⟩ := hlower
  obtain ⟨upper, hupper⟩ := hupper
  exact ⟨{ lower, upper }, hlower, hupper⟩

theorem exists_ofValue_ok (h : ¬ v.LifetimeOverflows) : ∃ i, ofValue v = .ok i := by
  obtain hflat | ⟨limits, rfl⟩ := v.fields?_eq_none_or
  · rw [ofValue_of_flat hflat, Attempt.exists_map_ok_iff, Value.exists_toAmount_ok_iff]
    exact fun hover => h (.inl hover)
  · obtain ⟨i, hi⟩ := exists_limits (fun hover => h (.inr ⟨limits, rfl, .inl hover⟩))
      fun hover => h (.inr ⟨limits, rfl, .inr hover⟩)
    exact ⟨i, ofValue_object_eq_ok_iff.2 hi⟩

theorem exists_lifetime_ok (h : ¬ (ctx.get "lifetime_value").AmountOverflows) :
    ∃ x, Rule.lifetime (.ofFields ctx) = .ok x :=
  Rule.exists_bound_ok_iff.2 h

theorem accepts_of_read (hi : ofValue v = .ok i) (hx : Rule.lifetime (.ofFields ctx) = .ok x) :
    accepts v ctx = .ok (i.contains x) := by
  rw [accepts, hi]
  change (Rule.lifetime (.ofFields ctx)).map i.contains = _
  rw [hx]
  rfl

theorem accepts_eq_ok_true_iff (hx : Rule.lifetime (.ofFields ctx) = .ok x) :
    accepts v ctx = .ok true ↔ ∃ i, ofValue v = .ok i ∧ i.contains x = true := by
  simp only [accepts, Attempt.bind_eq_ok_iff, hx, Attempt.map_eq_ok_iff, Except.ok.injEq,
    exists_eq_left']

/-! ## The answers -/

theorem ofValue_min (a : Value) :
    ofValue (.object [("min", a)]) = (Rule.bound a (.infinite true)).map atLeast := by
  change (Rule.bound a (.infinite true) >>= fun lower => .ok (atLeast lower)) = _
  cases Rule.bound a (.infinite true) <;> rfl

theorem ofValue_max (b : Value) :
    ofValue (.object [("max", b)]) = (Rule.bound b (.infinite false)).map atMost := by
  change (Rule.bound b (.infinite false) >>= fun upper => .ok (atMost upper)) = _
  cases Rule.bound b (.infinite false) <;> rfl

/-- Two limits accept what each of them does alone. -/
theorem accepts_eq_both (hmin : ¬ (limits.get "min").AmountOverflows)
    (hmax : ¬ (limits.get "max").AmountOverflows)
    (hctx : ¬ (ctx.get "lifetime_value").AmountOverflows) :
    ∃ p q, accepts (.object [("min", limits.get "min")]) ctx = .ok p
      ∧ accepts (.object [("max", limits.get "max")]) ctx = .ok q
      ∧ accepts (.object limits) ctx = .ok (p && q) := by
  obtain ⟨i, hlower, hupper⟩ := exists_limits hmin hmax
  obtain ⟨x, hx⟩ := exists_lifetime_ok hctx
  refine ⟨(atLeast i.lower).contains x, (atMost i.upper).contains x, accepts_of_read ?_ hx,
    accepts_of_read ?_ hx, ?_⟩
  · rw [ofValue_min, hlower]
    rfl
  · rw [ofValue_max, hupper]
    rfl
  · rw [accepts_of_read (ofValue_object_eq_ok_iff.2 ⟨hlower, hupper⟩) hx, contains_eq_and]

/-- A single limit is the lower one. -/
theorem accepts_of_flat (hgiven : v.isNull = false) (hflat : v.fields? = none) (ctx : Fields) :
    accepts v ctx = accepts (.object [("min", v)]) ctx := by
  rw [accepts, accepts, ofValue_of_flat hflat, ofValue_min, bound_of_given hgiven]

/-- A limit that is given but is not a number. -/
inductive NamesNan : Value → Prop where
  | min {limits : Fields} (hgiven : (limits.get "min").isNull = false)
      (hnan : (limits.get "min").toAmount = .ok .nan) : NamesNan (.object limits)
  | max {limits : Fields} (hgiven : (limits.get "max").isNull = false)
      (hnan : (limits.get "max").toAmount = .ok .nan) : NamesNan (.object limits)
  | flat {v : Value} (hflat : v.fields? = none) (hnan : v.toAmount = .ok .nan) : NamesNan v

theorem limit_of_namesNan (h : NamesNan v) (hi : ofValue v = .ok i) :
    i.lower = .nan ∨ i.upper = .nan := by
  cases h with
  | min hgiven hnan =>
      obtain ⟨hlower, -⟩ := ofValue_object_eq_ok_iff.1 hi
      rw [bound_of_given hgiven, hnan] at hlower
      exact .inl (Except.ok.inj hlower).symm
  | max hgiven hnan =>
      obtain ⟨-, hupper⟩ := ofValue_object_eq_ok_iff.1 hi
      rw [bound_of_given hgiven, hnan] at hupper
      exact .inr (Except.ok.inj hupper).symm
  | flat hflat hnan =>
      rw [ofValue_of_flat hflat, hnan] at hi
      cases hi
      exact .inl rfl

/-- Nothing is accepted if a limit or the lifetime value is given but is not a
number. -/
theorem accepts_of_nan (hv : ¬ v.LifetimeOverflows)
    (hctx : ¬ (ctx.get "lifetime_value").AmountOverflows)
    (hnan : NamesNan v ∨ (ctx.get "lifetime_value").isNull = false
      ∧ (ctx.get "lifetime_value").toAmount = .ok .nan) : accepts v ctx = .ok false := by
  obtain ⟨i, hi⟩ := exists_ofValue_ok hv
  obtain ⟨x, hx⟩ := exists_lifetime_ok hctx
  rw [accepts_of_read hi hx]
  refine congrArg Except.ok (Bool.eq_false_iff.2 fun h => ?_)
  obtain hlimit | ⟨hgiven, hvalue⟩ := hnan
  · obtain hlower | hupper := limit_of_namesNan hlimit hi
    · exact Binary64.left_ne_nan_of_le (contains_iff.1 h).1 hlower
    · exact Binary64.right_ne_nan_of_le (contains_iff.1 h).2 hupper
  · have hlifetime : Rule.lifetime (.ofFields ctx) = .ok .nan :=
      (bound_of_given hgiven _).trans hvalue
    rw [hlifetime] at hx
    exact ne_nan_of_contains h (Except.ok.inj hx).symm

/-- Without limits every number is accepted, however large. -/
theorem accepts_of_unlimited (hmin : (limits.get "min").isNull = true)
    (hmax : (limits.get "max").isNull = true) (hx : Rule.lifetime (.ofFields ctx) = .ok x) :
    accepts (.object limits) ctx = .ok (decide (x ≠ .nan)) := by
  have hi : ofValue (.object limits) = .ok { lower := .infinite true, upper := .infinite false } :=
    ofValue_object_eq_ok_iff.2 ⟨if_pos hmin, if_pos hmax⟩
  rw [accepts_of_read hi hx, Except.ok.injEq, Bool.eq_iff_iff, contains_iff, decide_eq_true_eq,
    Binary64.least_le_iff, Binary64.le_greatest_iff, and_self]

/-- **Lifetime values between limits.** A criterion about the lifetime value
accepts a context if its lifetime value lies in the interval that is named, and
two limits accept what each of them does alone. A single limit is the lower one.
What lies between two lifetime values that are accepted is accepted. If a limit or
the lifetime value is given but not a number nothing is accepted, and without
limits every number is. -/
theorem lifetime_between :
    (∀ criterion ctx : Fields,
        Criterion.memberText criterion "field" = Text.ofString "lifetimeValue" →
        Criterion.holdsFor (.object criterion) (.object ctx) = accepts (criterion.get "value") ctx)
      ∧ (∀ limits ctx : Fields, ¬ (limits.get "min").AmountOverflows →
        ¬ (limits.get "max").AmountOverflows → ¬ (ctx.get "lifetime_value").AmountOverflows →
        ∃ p q, accepts (.object [("min", limits.get "min")]) ctx = .ok p
          ∧ accepts (.object [("max", limits.get "max")]) ctx = .ok q
          ∧ accepts (.object limits) ctx = .ok (p && q))
      ∧ (∀ (v : Value) (ctx : Fields), v.isNull = false → v.fields? = none →
        accepts v ctx = accepts (.object [("min", v)]) ctx)
      ∧ (∀ (v : Value) (low middle high : Fields) (x y z : Binary64),
        Rule.lifetime (.ofFields low) = .ok x → Rule.lifetime (.ofFields middle) = .ok y →
        Rule.lifetime (.ofFields high) = .ok z → x.le y = true → y.le z = true →
        accepts v low = .ok true → accepts v high = .ok true → accepts v middle = .ok true)
      ∧ (∀ (v : Value) (ctx : Fields), ¬ v.LifetimeOverflows →
        ¬ (ctx.get "lifetime_value").AmountOverflows →
        (NamesNan v ∨ (ctx.get "lifetime_value").isNull = false
          ∧ (ctx.get "lifetime_value").toAmount = .ok .nan) → accepts v ctx = .ok false)
      ∧ ∀ (limits ctx : Fields) (x : Binary64), (limits.get "min").isNull = true →
        (limits.get "max").isNull = true → Rule.lifetime (.ofFields ctx) = .ok x →
        accepts (.object limits) ctx = .ok (decide (x ≠ .nan)) := by
  refine ⟨fun _ ctx hfield => holdsFor_object hfield ctx, fun _ _ => accepts_eq_both,
    fun _ ctx hgiven hflat => accepts_of_flat hgiven hflat ctx, ?_, fun _ _ => accepts_of_nan,
    fun _ _ _ => accepts_of_unlimited⟩
  intro v low middle high x y z hlow hmiddle hhigh hxy hyz hacceptsLow hacceptsHigh
  obtain ⟨i, hi, hx⟩ := (accepts_eq_ok_true_iff hlow).1 hacceptsLow
  obtain ⟨i', hi', hz⟩ := (accepts_eq_ok_true_iff hhigh).1 hacceptsHigh
  obtain rfl := Except.ok.inj (hi.symm.trans hi')
  exact (accepts_eq_ok_true_iff hmiddle).2 ⟨i, hi, contains_between hx hz hxy hyz⟩

/-- A criterion for a worth from one to a thousand, with limits that are no plain
numbers. -/
def oneToThousand : Fields :=
  [("field", .text "lifetimeValue"),
    ("value", .object [("min", .bool true), ("max", .text " 1e3 ")])]

def worth (v : Value) : Fields := [("lifetime_value", v)]

/-- Both limits are accepted, and so is what lies between them; a word as a limit
accepts nothing; and without limits the least double is accepted. -/
theorem oneToThousand_between :
    Criterion.memberText oneToThousand "field" = Text.ofString "lifetimeValue"
      ∧ Criterion.holdsFor (.object oneToThousand) (.object (worth (.int 1))) = .ok true
      ∧ Criterion.holdsFor (.object oneToThousand) (.object (worth (.int 1000))) = .ok true
      ∧ Criterion.holdsFor (.object oneToThousand) (.object (worth (.text "12.5"))) = .ok true
      ∧ Criterion.holdsFor (.object (oneToThousand.put "value" (.object [("min", .text "many")])))
          (.object (worth (.int 1))) = .ok false
      ∧ Criterion.holdsFor (.object (oneToThousand.put "value" (.object [])))
          (.object (worth (.text "-inf"))) = .ok true := by
  obtain ⟨hanswer, _, _, hconvex, hnan, hunlimited⟩ := lifetime_between
  have hfield : Criterion.memberText oneToThousand "field" = Text.ofString "lifetimeValue" := rfl
  have hfieldPut : ∀ v, Criterion.memberText (oneToThousand.put "value" v) "field"
      = Text.ofString "lifetimeValue" := fun _ => rfl
  have hone : Rule.lifetime (.ofFields (worth (.int 1))) = .ok (.ofInt 1) := by decide +kernel
  have hthousand : Rule.lifetime (.ofFields (worth (.int 1000))) = .ok (.ofInt 1000) := by
    decide +kernel
  have hmiddle : Rule.lifetime (.ofFields (worth (.text "12.5"))) = .ok (.ofRatio 25 2) := by
    decide +kernel
  have hleast : Rule.lifetime (.ofFields (worth (.text "-inf"))) = .ok (.infinite true) := by
    decide +kernel
  have hlow : accepts (oneToThousand.get "value") (worth (.int 1)) = .ok true := by decide +kernel
  have hhigh : accepts (oneToThousand.get "value") (worth (.int 1000)) = .ok true := by
    decide +kernel
  refine ⟨hfield, ?_, ?_, ?_, ?_, ?_⟩
  · exact (hanswer _ _ hfield).trans hlow
  · exact (hanswer _ _ hfield).trans hhigh
  · refine (hanswer _ _ hfield).trans
      (hconvex _ _ _ _ _ _ _ hone hmiddle hthousand ?_ ?_ hlow hhigh)
    · decide +kernel
    · decide +kernel
  · refine (hanswer _ _ (hfieldPut _)).trans (hnan _ _ ?_ ?_ (.inl (.min rfl ?_)))
    · rintro (⟨_, hword, -⟩ | ⟨limits, hlimits, hmin | hmax⟩)
      · cases hword
      · cases hlimits
        obtain ⟨_, hword, -⟩ := hmin
        cases hword
      · cases hlimits
        obtain ⟨_, hnull, -⟩ := hmax
        cases hnull
    · decide +kernel
    · decide +kernel
  · exact (hanswer _ _ (hfieldPut _)).trans (hunlimited [] _ _ rfl rfl hleast)

end Interval

end Audience
