import Audience.Criterion
import Audience.Proofs.Limits

/-!
# What can be coerced

Amounts, dates and criteria are read from values of every shape, and this file
says for which values the reading returns.

- An integer is an amount below `Binary64.intLimit`, half a step beyond the
  largest double (`Binary64.isFinite_ofInt`). The bound comes from the rounding
  itself: a quotient of 53 bits rounds up to the next power of two from the
  middle of its last step on (`roundHalfEven_lt_iff`, `roundQuanta_lt_iff`).
- A rule is read by the reader of its word, and two of the readers can fail
  (`Rule.readsWord_of_mem`); every rule is about the word it was read for.

`Value.coercions_return_iff` puts the three together.
-/

namespace Audience

/-! ## The integers that are doubles -/

/-- Rounding to the nearest stays below an even number up to half a step
before it. -/
theorem roundHalfEven_lt_iff {n d m : Nat} (hd : 0 < d) (hm : m % 2 = 0) :
    roundHalfEven n d < m ↔ 2 * n + d < 2 * (d * m) := by
  have hn := Nat.div_add_mod n d
  have hr := Nat.mod_lt n hd
  unfold roundHalfEven
  generalize n / d = q at hn ⊢
  generalize n % d = r at hn hr ⊢
  dsimp only
  have hmul : ∀ {a b : Nat}, a ≤ b → d * a ≤ d * b := fun h => Nat.mul_le_mul_left d h
  rcases Nat.lt_trichotomy (q + 1) m with hbelow | hlast | habove
  · have hproduct : d * (q + 2) ≤ d * m := hmul hbelow
    rw [Nat.mul_add] at hproduct
    refine iff_of_true ?_ (by omega)
    split
    · omega
    · split
      · omega
      · split <;> omega
  · have hodd : q % 2 = 1 := by omega
    rw [← hlast, Nat.mul_add]
    split
    · exact iff_of_true (by omega) (by omega)
    · refine iff_of_false ?_ (by omega)
      split
      · omega
      · rw [if_neg (by omega)]
        omega
  · have hproduct := hmul (Nat.le_of_lt_succ habove)
    refine iff_of_false ?_ (by omega)
    split
    · omega
    · split
      · omega
      · split <;> omega

theorem le_roundHalfEven (n d : Nat) : n / d ≤ roundHalfEven n d := by
  unfold roundHalfEven
  dsimp only
  split
  · omega
  · split
    · omega
    · split <;> omega

theorem roundQuanta_one (n : Nat) :
    roundQuanta n 1 = roundHalfEven n (Quanta.step n) * Quanta.step n
      ∧ roundHalfEven n (Quanta.step n) ≤ Nat.pow 2 53 := by
  have hsignificand := significand_le n 1
  rw [Nat.div_one, Nat.one_mul] at hsignificand
  exact ⟨by rw [roundQuanta, Nat.div_one, Nat.one_mul], hsignificand⟩

theorem step_of_log2 {n m : Nat} (h : n.log2 = m + 52) : Quanta.step n = Nat.pow 2 m := by
  rw [Quanta.step, h]
  exact congrArg (Nat.pow 2) (by omega)

theorem log2_eq {n m : Nat} (hlow : Nat.pow 2 m ≤ n) (hhigh : n < Nat.pow 2 (m + 1)) :
    n.log2 = m := by
  have hne : n ≠ 0 := Nat.ne_of_gt (Nat.lt_of_lt_of_le (Nat.two_pow_pos m) hlow)
  have hge : m ≤ n.log2 := (Nat.le_log2 hne).2 hlow
  have hlt : n.log2 < m + 1 := (Nat.log2_lt hne).2 hhigh
  omega

/-- The first number that is rounded up to `2 ^ (k + 54)`, half of the last
step before it. -/
def Quanta.beyond (k : Nat) : Nat := Nat.pow 2 (k + 54) - Nat.pow 2 k

theorem Quanta.mul_lt_beyond_iff {k m p u n : Nat} (hu : u = Nat.pow 2 m) (hp : p = k + m) :
    n * u < beyond p ↔ n < beyond k := by
  have hmul : ∀ i j, Nat.pow 2 i * Nat.pow 2 j = Nat.pow 2 (i + j) :=
    fun i j => (Nat.pow_add 2 i j).symm
  have hscaled : beyond k * u = beyond p := by
    rw [hu, hp, beyond, Nat.sub_mul, hmul, hmul, beyond, Nat.add_right_comm]
  rw [← hscaled, Nat.mul_lt_mul_right (hu ▸ Nat.two_pow_pos m)]

theorem roundQuanta_lt_iff {k m limit : Nat} (hlimit : limit = Nat.pow 2 m) (hm : m = k + 54)
    (n : Nat) : roundQuanta n 1 < limit ↔ n < Quanta.beyond k := by
  subst hlimit hm
  unfold Quanta.beyond
  have hdouble : ∀ i, Nat.pow 2 (i + 1) = Nat.pow 2 i * 2 := fun _ => rfl
  have hmul : ∀ i j, Nat.pow 2 i * Nat.pow 2 j = Nat.pow 2 (i + j) :=
    fun i j => (Nat.pow_add 2 i j).symm
  have hpos : ∀ i, 0 < Nat.pow 2 i := Nat.two_pow_pos
  have hmono : ∀ {i j}, i ≤ j → Nat.pow 2 i ≤ Nat.pow 2 j :=
    fun h => Nat.pow_le_pow_right (by decide) h
  have hlast : Nat.pow 2 (k + 54) = Nat.pow 2 (k + 53) * 2 := rfl
  have hhalf := hmono (Nat.le_add_right k 53)
  obtain ⟨hround, hsignificand⟩ := roundQuanta_one n
  rw [hround]
  rcases Nat.lt_or_ge n (Nat.pow 2 (k + 53)) with hsmall | hlarge
  · -- the result has at most 53 bits in front of a step of at most `2 ^ k`
    have hstep : Quanta.step n ≤ Nat.pow 2 k := by
      refine hmono ?_
      by_cases hz : n = 0
      · rw [hz]
        simp
      · have hlog := (Nat.log2_lt hz).2 hsmall
        omega
    have hle := Nat.mul_le_mul hsignificand hstep
    rw [hmul, Nat.add_comm 53 k] at hle
    have hk := hpos (k + 53)
    exact iff_of_true (by omega) (by omega)
  · rcases Nat.lt_or_ge n (Nat.pow 2 (k + 54)) with hwithin | hbeyond
    · have hstep : Quanta.step n = Nat.pow 2 (k + 1) := step_of_log2 (log2_eq hlarge hwithin)
      have hlimit : Nat.pow 2 (k + 54) = Nat.pow 2 53 * Nat.pow 2 (k + 1) := by
        rw [hmul]
        exact congrArg (Nat.pow 2) (by omega)
      have heven : Nat.pow 2 53 % 2 = 0 := by decide
      rw [hstep, hlimit, Nat.mul_lt_mul_right (hpos _), roundHalfEven_lt_iff (hpos _) heven,
        Nat.mul_comm (Nat.pow 2 (k + 1)), ← hlimit, hdouble k]
      omega
    · -- the significand is at least `2 ^ 52`
      have hne : n ≠ 0 := Nat.ne_of_gt (Nat.lt_of_lt_of_le (hpos _) hbeyond)
      have hlog : k + 54 ≤ n.log2 := (Nat.le_log2 hne).2 hbeyond
      have hstep : Quanta.step n = Nat.pow 2 (n.log2 - 52) := step_of_log2 (by omega)
      have htop : Nat.pow 2 52 * Quanta.step n = Nat.pow 2 n.log2 := by
        rw [hstep, hmul, Nat.add_sub_cancel' (by omega)]
      have hfloor : Nat.pow 2 52 ≤ n / Quanta.step n := by
        rw [Nat.le_div_iff_mul_le (hstep ▸ hpos _), htop]
        exact Nat.log2_self_le hne
      have hle := Nat.mul_le_mul_right (Quanta.step n)
        (Nat.le_trans hfloor (le_roundHalfEven n (Quanta.step n)))
      have hfar := hmono hlog
      rw [htop] at hle
      exact iff_of_false (by omega) (by omega)

namespace Binary64

/-- The least integer beyond the doubles, `2 ^ 1024 - 2 ^ 970`. -/
def intLimit : Nat := Quanta.beyond 970

theorem isFinite_round {negative : Bool} {n d : Nat} :
    (round negative n d).isFinite = true ↔ roundQuanta n d < Quanta.limit := by
  unfold round
  split
  · rename_i h
    exact iff_of_true rfl h
  · rename_i h
    exact iff_of_false Bool.false_ne_true h

theorem isFinite_ofInt (i : Int) : (ofInt i).isFinite = true ↔ i.natAbs < intLimit := by
  -- the powers stay closed: they are too large to be written out
  have hunit : unit = Nat.pow 2 1074 := by
    unfold unit
    generalize 1074 = k
    rfl
  have hlimit : Quanta.limit = Nat.pow 2 2098 := by
    unfold Quanta.limit
    generalize 2098 = k
    rfl
  rw [ofInt, isFinite_round, roundQuanta_lt_iff hlimit rfl]
  exact Quanta.mul_lt_beyond_iff hunit rfl

end Binary64

namespace Value

/-- A reading that returns for everything but some objects. -/
theorem exists_ok_iff_of_object {α : Type} {read : Value → Attempt α} {bad : Fields → Prop}
    (hobject : ∀ fields, (∃ a, read (.object fields) = .ok a) ↔ ¬ bad fields)
    (hother : ∀ v : Value, v.fields? = none → ∃ a, read v = .ok a) {v : Value} :
    (∃ a, read v = .ok a) ↔ ¬ ∃ fields, v = .object fields ∧ bad fields := by
  cases hfields : v.fields? with
  | none =>
      refine iff_of_true (hother v hfields) ?_
      rintro ⟨fields, rfl, -⟩
      cases hfields
  | some fields =>
      have heq : v = .object fields := by
        cases v with
        | object _ => exact congrArg object (Option.some.inj hfields)
        | _ => cases hfields
      subst heq
      rw [hobject]
      refine not_congr ⟨fun h => ⟨fields, rfl, h⟩, ?_⟩
      rintro ⟨_, hsame, h⟩
      cases hsame
      exact h

theorem amountOverflows_iff {v : Value} :
    v.AmountOverflows ↔ ∃ i, v = .int i ∧ Binary64.intLimit ≤ i.natAbs := by
  refine exists_congr fun i => and_congr_right fun _ => ?_
  rw [← Bool.not_eq_true, Binary64.isFinite_ofInt, Nat.not_lt]

/-- What is not numeric is not a number. -/
theorem toAmount_eq_nan {v : Value}
    (h : v = .null ∨ v.isContainer = true
      ∨ ∃ t, v = .text t ∧ t.trim ≠ [] ∧ t.trim.toBinary64? = none) :
    v.toAmount = .ok .nan := by
  rcases h with rfl | hcontainer | ⟨t, rfl, hne, hnone⟩
  · rfl
  · cases v with
    | list items => rfl
    | object fields => rfl
    | _ => cases hcontainer
  · simp only [toAmount, List.isEmpty_iff, hne, if_false, hnone]
    rfl

/-- Only what spells no date is no date. -/
theorem toInstant?_eq_none_iff {v : Value} :
    v.toInstant? = .ok none ↔ ¬ ∃ t s, v = .text t ∧ Timestamp.stamp? t = some s := by
  cases v with
  | text t =>
      rw [toInstant?, Text.toInstant?]
      cases hstamp : Timestamp.stamp? t with
      | none => simp [hstamp]
      | some s =>
          refine iff_of_false ?_ fun h => h ⟨t, s, rfl, hstamp⟩
          simp only [Attempt.map_eq_ok_iff, reduceCtorEq, and_false, exists_false,
            not_false_eq_true]
  | _ => simp [toInstant?]

/-- A bound of a lifetime value, or one of two bounds, is an integer beyond the
doubles. -/
def LifetimeOverflows (v : Value) : Prop :=
  v.AmountOverflows ∨ ∃ limits, v = .object limits
    ∧ ((Fields.get limits "min").AmountOverflows ∨ (Fields.get limits "max").AmountOverflows)

end Value

/-! ## Rules -/

namespace Rule

/-- The word for the attribute that a rule is about. -/
def about : Rule → Text
  | .zip _ => "zip"
  | .city _ => "city"
  | .state _ => "state"
  | .membership trait _ => trait.name
  | .status _ => "status"
  | .clientType _ => "clientType"
  | .lifetimeRange _ _ | .lifetimeMinimum _ => "lifetimeValue"
  | .lastInteraction _ => "lastInteraction"
  | .unknown field => field

/-- The rule is one of those for attributes that are known. -/
def IsKnown (rule : Rule) : Prop := ∀ field, rule ≠ .unknown field

theorem exists_bound_ok_iff {v : Value} {default : Binary64} :
    (∃ x, bound v default = .ok x) ↔ ¬ v.AmountOverflows := by
  unfold bound
  split
  · rename_i hnull
    refine iff_of_true ⟨_, rfl⟩ ?_
    rintro ⟨i, rfl, -⟩
    cases hnull
  · exact Value.exists_toAmount_ok_iff

theorem exists_ofLifetime_ok_iff {v : Value} :
    (∃ rule, ofLifetime v = .ok rule) ↔ ¬ v.LifetimeOverflows := by
  by_cases hobject : ∃ limits, v = .object limits
  · obtain ⟨limits, rfl⟩ := hobject
    have hread : (∃ rule, ofLifetime (.object limits) = .ok rule) ↔
        (∃ x, bound (Fields.get limits "min") (.infinite true) = .ok x)
          ∧ ∃ x, bound (Fields.get limits "max") (.infinite false) = .ok x := by
      simp only [ofLifetime, Attempt.exists_bind_ok_iff, Attempt.pure_eq_ok, Except.ok.injEq,
        exists_eq', and_true, exists_and_right]
    rw [hread, exists_bound_ok_iff, exists_bound_ok_iff, ← not_or]
    refine not_congr ⟨fun h => .inr ⟨limits, rfl, h⟩, ?_⟩
    rintro (⟨_, heq, -⟩ | ⟨_, heq, h⟩)
    · cases heq
    · cases heq
      exact h
  · have hread : ofLifetime v = v.toAmount.map .lifetimeMinimum := by
      cases v with
      | object limits => exact absurd ⟨limits, rfl⟩ hobject
      | _ => rfl
    have hplain : v.LifetimeOverflows ↔ v.AmountOverflows :=
      or_iff_left fun ⟨limits, heq, _⟩ => hobject ⟨limits, heq⟩
    rw [hread, hplain, ← Value.exists_toAmount_ok_iff, Attempt.exists_map_ok_iff]

theorem about_of_ofLifetime {v : Value} {rule : Rule} (h : ofLifetime v = .ok rule) :
    rule.about = Text.ofString "lifetimeValue" ∧ rule.IsKnown := by
  have hkind : (∃ minimum maximum, rule = .lifetimeRange minimum maximum)
      ∨ ∃ minimum, rule = .lifetimeMinimum minimum := by
    unfold ofLifetime at h
    split at h
    · obtain ⟨minimum, -, h⟩ := Attempt.bind_eq_ok_iff.1 h
      obtain ⟨maximum, -, h⟩ := Attempt.bind_eq_ok_iff.1 h
      cases h
      exact .inl ⟨minimum, maximum, rfl⟩
    · obtain ⟨minimum, -, rfl⟩ := Attempt.map_eq_ok_iff.1 h
      exact .inr ⟨minimum, rfl⟩
  rcases hkind with ⟨minimum, maximum, rfl⟩ | ⟨minimum, rfl⟩
  · exact ⟨rfl, fun _ => Rule.noConfusion⟩
  · exact ⟨rfl, fun _ => Rule.noConfusion⟩

/-- When a reader has no answer for a value. Only two readers can fail. -/
def Unreadable (word : Text) (v : Value) : Prop :=
  word = Text.ofString "lifetimeValue" ∧ v.LifetimeOverflows
    ∨ word = Text.ofString "lastInteraction" ∧ v.DateOverflows

/-- A reader and the word it is listed under: it fails on unreadable values only
and makes rules about its word. -/
structure ReadsWord (word : Text) (read : Value → Attempt Rule) : Prop where
  exists_iff : ∀ v, (∃ rule, read v = .ok rule) ↔ ¬ Unreadable word v
  about : ∀ v rule, read v = .ok rule → rule.about = word ∧ rule.IsKnown

theorem ReadsWord.of_total {word : Text} {make : Value → Rule}
    (hamount : word ≠ Text.ofString "lifetimeValue")
    (hdate : word ≠ Text.ofString "lastInteraction")
    (habout : ∀ v, (make v).about = word ∧ (make v).IsKnown) :
    ReadsWord word fun v => .ok (make v) where
  exists_iff v := iff_of_true ⟨_, rfl⟩ (not_or.2 ⟨fun h => hamount h.1, fun h => hdate h.1⟩)
  about := by
    rintro v _ ⟨⟩
    exact habout v

theorem readsWord_lifetime : ReadsWord "lifetimeValue" ofLifetime where
  exists_iff v := by
    rw [exists_ofLifetime_ok_iff, Unreadable]
    exact not_congr ⟨fun h => .inl ⟨rfl, h⟩, Or.rec (fun h => h.2) fun h => absurd h.1 (by decide)⟩
  about _ _ h := about_of_ofLifetime h

theorem readsWord_lastInteraction :
    ReadsWord "lastInteraction" fun v => v.toInstant?.map .lastInteraction where
  exists_iff v := by
    rw [Attempt.exists_map_ok_iff, Value.exists_toInstant?_ok_iff, Unreadable]
    exact not_congr ⟨fun h => .inr ⟨rfl, h⟩, Or.rec (fun h => absurd h.1 (by decide)) fun h => h.2⟩
  about := by
    intro v rule h
    obtain ⟨date, -, rfl⟩ := Attempt.map_eq_ok_iff.1 h
    exact ⟨rfl, fun _ => Rule.noConfusion⟩

theorem readsWord_of_mem : ∀ r ∈ readers, ReadsWord r.1 r.2 := by
  have htotal : ∀ {word : Text} {make : Value → Rule},
      word ≠ Text.ofString "lifetimeValue" ∧ word ≠ Text.ofString "lastInteraction" →
      (∀ v, (make v).about = word ∧ (make v).IsKnown) →
      ReadsWord word fun v => .ok (make v) := fun hword habout => .of_total hword.1 hword.2 habout
  simp only [readers, List.forall_mem_cons]
  refine ⟨?_, ?_, ?_, ?_, ?_, ?_, ?_, ?_, readsWord_lifetime, readsWord_lastInteraction,
    List.forall_mem_nil _⟩
  all_goals exact htotal (by decide) fun _ => ⟨rfl, fun _ => Rule.noConfusion⟩

/-- Reading a rule fails where the reader of its word does; a word without a
reader makes an unknown rule. -/
theorem ofValue_cases (word : Text) :
    (∃ read, (word, read) ∈ readers ∧ ofValue word = read)
      ∨ word ∉ readers.map Prod.fst ∧ ofValue word = fun _ => .ok (.unknown word) := by
  unfold ofValue
  cases hfind : readers.find? fun r => r.1 = word with
  | none =>
      refine .inr ⟨fun hmem => ?_, rfl⟩
      obtain ⟨r, hr, hword⟩ := List.mem_map.1 hmem
      exact List.find?_eq_none.1 hfind r hr (decide_eq_true hword)
  | some r =>
      have hword := List.find?_some hfind
      rw [decide_eq_true_eq] at hword
      subst hword
      exact .inl ⟨r.2, List.mem_of_find?_eq_some hfind, rfl⟩

theorem exists_ofValue_ok_iff {word : Text} {v : Value} :
    (∃ rule, ofValue word v = .ok rule) ↔ ¬ Unreadable word v := by
  rcases ofValue_cases word with ⟨read, hmem, hread⟩ | ⟨hnone, hread⟩
  · rw [hread]
    exact (readsWord_of_mem _ hmem).exists_iff v
  · rw [hread]
    refine iff_of_true ⟨_, rfl⟩ ?_
    rintro (⟨rfl, -⟩ | ⟨rfl, -⟩)
    · exact hnone (by decide)
    · exact hnone (by decide)

theorem about_of_ofValue {word : Text} {v : Value} {rule : Rule}
    (h : ofValue word v = .ok rule) :
    rule.about = word ∧ (rule.IsKnown ↔ word ∈ readers.map Prod.fst) := by
  rcases ofValue_cases word with ⟨read, hmem, hread⟩ | ⟨hnone, hread⟩
  · rw [hread] at h
    obtain ⟨habout, hknown⟩ := (readsWord_of_mem _ hmem).about v rule h
    exact ⟨habout, iff_of_true hknown (List.mem_map_of_mem hmem)⟩
  · rw [hread] at h
    cases h
    exact ⟨rfl, iff_of_false (fun hknown => hknown word rfl) hnone⟩

end Rule

/-! ## Criteria -/

namespace Criterion

/-- A criterion whose rule cannot be read. -/
def Unreadable (v : Value) : Prop :=
  ∃ fields, v = .object fields
    ∧ Rule.Unreadable (memberText fields "field") (Fields.get fields "value")

theorem exists_ofValue_ok_iff {v : Value} :
    (∃ c, ofValue v = .ok c) ↔ ¬ Unreadable v := by
  refine Value.exists_ok_iff_of_object (fun fields => ?_) fun v hv => ?_
  · rw [← Rule.exists_ofValue_ok_iff, ofValue, Attempt.exists_bind_ok_iff]
    exact exists_congr fun rule => and_iff_left ⟨_, rfl⟩
  · cases v with
    | object fields => cases hv
    | _ => exact ⟨_, rfl⟩

/-- The rule of a criterion is about the criterion's own word. -/
theorem about_of_ofValue {v : Value} {c : Criterion} (h : ofValue v = .ok c) :
    c.rule.about = c.field ∧ (c.rule.IsKnown ↔ c.field ∈ Rule.readers.map Prod.fst) := by
  cases v with
  | object fields =>
      obtain ⟨rule, hrule, h⟩ := Attempt.bind_eq_ok_iff.1 h
      cases h
      exact Rule.about_of_ofValue hrule
  | _ =>
      cases h
      exact ⟨rfl, iff_of_false (fun hknown => hknown [] rfl) (by decide)⟩

end Criterion

/-! ## Where the coercions return -/

/-- **Coercions.** An amount is read from everything but the integers beyond the
doubles, and is not a number for what is not numeric; a date from everything but
the texts of dates off the calendar, and is none exactly for what spells no
date; and a criterion is read whenever the bounds or the date of its rule are,
to a rule about its own word, which is an unknown one exactly for the words
without a reader. -/
theorem Value.coercions_return_iff (v : Value) :
    ((∃ x, v.toAmount = .ok x) ↔ ¬ ∃ i, v = .int i ∧ Binary64.intLimit ≤ i.natAbs)
    ∧ ((v = .null ∨ v.isContainer = true
        ∨ ∃ t, v = .text t ∧ t.trim ≠ [] ∧ t.trim.toBinary64? = none) → v.toAmount = .ok .nan)
    ∧ ((∃ date, v.toInstant? = .ok date) ↔ ¬ v.DateOverflows)
    ∧ (v.toInstant? = .ok none ↔ ¬ ∃ t s, v = .text t ∧ Timestamp.stamp? t = some s)
    ∧ ((∃ c, Criterion.ofValue v = .ok c) ↔ ¬ Criterion.Unreadable v)
    ∧ (∀ c, Criterion.ofValue v = .ok c →
        c.rule.about = c.field ∧ (c.rule.IsKnown ↔ c.field ∈ Rule.readers.map Prod.fst)) := by
  refine ⟨?_, toAmount_eq_nan, exists_toInstant?_ok_iff, toInstant?_eq_none_iff,
    Criterion.exists_ofValue_ok_iff, fun c hc => Criterion.about_of_ofValue hc⟩
  rw [exists_toAmount_ok_iff, amountOverflows_iff]

/-- A word is no amount and no date, and as a criterion it is about nothing. -/
theorem Value.word_coerced :
    (Value.text "soon").toAmount = .ok .nan ∧ (Value.text "soon").toInstant? = .ok none
      ∧ ∃ c, Criterion.ofValue (.text "soon") = .ok c
        ∧ c.rule.about = c.field ∧ ¬ c.rule.IsKnown := by
  obtain ⟨-, hnan, -, hnone, hcriterion, habout⟩ := coercions_return_iff (.text "soon")
  have hstamp : Timestamp.stamp? "soon" = none := by decide +kernel
  have hdate : (Value.text "soon").toInstant? = .ok none := by
    refine hnone.2 ?_
    rintro ⟨_, s, heq, hs⟩
    cases heq
    rw [hstamp] at hs
    cases hs
  obtain ⟨c, hc⟩ := hcriterion.2 fun ⟨_, heq, _⟩ => nomatch heq
  obtain ⟨hfield, hknown⟩ := habout c hc
  refine ⟨hnan (.inr (.inr ⟨_, rfl, by decide +kernel, by decide +kernel⟩)), hdate, c, hc, hfield,
    fun h => absurd (hknown.1 h) ?_⟩
  cases hc
  decide

/-- The first hour of the calendar one time zone further east lies before the
calendar, and the least integer beyond the doubles is no double: neither is
coerced, and a criterion about either is not read. -/
theorem Value.firstHour_not_coerced :
    (Value.text "0001-01-01T00:00:00+01:00").toInstant? = .error .dateOutOfRange
      ∧ (¬ ∃ c, Criterion.ofValue (.object [("field", .text "lastInteraction"),
          ("value", .text "0001-01-01T00:00:00+01:00")]) = .ok c)
      ∧ (Value.int Binary64.intLimit).toAmount = .error .amountTooLarge
      ∧ ¬ ∃ c, Criterion.ofValue (.object [("field", .text "lifetimeValue"),
          ("value", .int Binary64.intLimit)]) = .ok c := by
  have hdate : (Value.text "0001-01-01T00:00:00+01:00").DateOverflows := by decide +kernel
  have hamount : (Value.int Binary64.intLimit).AmountOverflows :=
    amountOverflows_iff.2 ⟨_, rfl, Nat.le_of_eq (Int.natAbs_natCast _).symm⟩
  refine ⟨toInstant?_eq_error_iff.2 ⟨hdate, rfl⟩, fun h => ?_,
    toAmount_eq_error_iff.2 ⟨hamount, rfl⟩, fun h => ?_⟩
  · exact Criterion.exists_ofValue_ok_iff.1 h ⟨_, rfl, .inr ⟨rfl, hdate⟩⟩
  · exact Criterion.exists_ofValue_ok_iff.1 h ⟨_, rfl, .inl ⟨rfl, .inl hamount⟩⟩

end Audience
