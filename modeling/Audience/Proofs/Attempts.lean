import Audience.Attempt

/-!
# How attempts end

The rules of the library are built from attempts by binding and mapping, and
by the passes over lists in `Audience.Attempt`. This file says how such an
attempt ends from how its parts end, once for success and once for each
failure, so that later files never open a `do` block twice.

Deciding is the other half. A record passes several tests one after another,
each looked at only if the one before it passed: `Attempt.both` puts two of
them together, and `keep_keep` is the fact that the passes of a refresh rest
on - keeping by one test and then by another is keeping by both at once,
failures included.
-/

namespace Audience

namespace Attempt

variable {α β : Type}

instance [DecidableEq α] : DecidableEq (Attempt α)
  | .ok a, .ok b => decidable_of_iff (a = b) (by simp)
  | .error e, .error f => decidable_of_iff (e = f) (by simp)
  | .ok _, .error _ => isFalse (by simp)
  | .error _, .ok _ => isFalse (by simp)

/-! ## Binding and mapping -/

@[simp] theorem pure_eq_ok (a : α) : (pure a : Attempt α) = .ok a := rfl

theorem bind_eq_ok_iff {x : Attempt α} {f : α → Attempt β} {b : β} :
    (x >>= f) = .ok b ↔ ∃ a, x = .ok a ∧ f a = .ok b := by
  cases x <;> simp [bind, Except.bind]

theorem bind_eq_error_iff {x : Attempt α} {f : α → Attempt β} {failure : Failure} :
    (x >>= f) = .error failure ↔
      x = .error failure ∨ ∃ a, x = .ok a ∧ f a = .error failure := by
  cases x <;> simp [bind, Except.bind]

theorem map_eq_ok_iff {x : Attempt α} {f : α → β} {b : β} :
    x.map f = .ok b ↔ ∃ a, x = .ok a ∧ f a = b := by
  cases x <;> simp [Except.map]

theorem map_eq_error_iff {x : Attempt α} {f : α → β} {failure : Failure} :
    x.map f = .error failure ↔ x = .error failure := by
  cases x <;> simp [Except.map]

theorem toOption_eq_some_iff {x : Attempt α} {a : α} : x.toOption = some a ↔ x = .ok a := by
  cases x <;> simp [Except.toOption]

theorem toOption_eq_none_iff {x : Attempt α} :
    x.toOption = none ↔ ∃ failure, x = .error failure := by
  cases x <;> simp [Except.toOption]

theorem toOption_map (f : α → β) (x : Attempt α) : (x.map f).toOption = x.toOption.map f := by
  cases x <;> rfl

/-- The failure of an attempt, if it has one. -/
def failure? : Attempt α → Option Failure
  | .ok _ => none
  | .error failure => some failure

theorem failure?_eq_some_iff {x : Attempt α} {failure : Failure} :
    failure? x = some failure ↔ x = .error failure := by
  cases x <;> simp [failure?]

theorem failure?_eq_none_iff {x : Attempt α} : failure? x = none ↔ ∃ a, x = .ok a := by
  cases x <;> simp [failure?]

theorem exists_map_ok_iff {x : Attempt α} {f : α → β} :
    (∃ b, x.map f = .ok b) ↔ ∃ a, x = .ok a := by
  cases x <;> simp [Except.map]

theorem exists_bind_ok_iff {x : Attempt α} {f : α → Attempt β} :
    (∃ b, (x >>= f) = .ok b) ↔ ∃ a, x = .ok a ∧ ∃ b, f a = .ok b := by
  cases x <;> simp [bind, Except.bind]

/-- An attempt that does not fail has an answer. -/
theorem exists_ok_iff {x : Attempt α} :
    (∃ a, x = .ok a) ↔ ∀ failure, x ≠ .error failure := by
  cases x <;> simp

theorem exists_error_iff {x : Attempt α} :
    (∃ failure, x = .error failure) ↔ ¬ ∃ a, x = .ok a := by
  cases x <;> simp

theorem exists_ok_and_iff {x : Attempt α} {a : α} (h : x = .ok a) {p : α → Prop} :
    (∃ b, x = .ok b ∧ p b) ↔ p a := by
  subst h
  constructor
  · rintro ⟨b, hb, hp⟩
    cases hb
    exact hp
  · exact fun hp => ⟨a, rfl, hp⟩

/-! ## Every item's result -/

/-- The results of a pass stand beside the items they are of. -/
theorem each_eq_ok_iff {f : α → Attempt β} {l : List α} {bs : List β} :
    each f l = .ok bs ↔ l.map f = bs.map .ok := by
  induction l generalizing bs with
  | nil => cases bs <;> simp [each]
  | cons a rest ih =>
      cases ha : f a with
      | error failure => cases bs <;> simp [each, ha]
      | ok b =>
          simp only [each, ha, map_eq_ok_iff, ih, List.map_cons]
          cases bs with
          | nil => simp
          | cons b' bs =>
              simp only [List.map_cons, List.cons.injEq, Except.ok.injEq]
              constructor
              · rintro ⟨bs', hbs', rfl, rfl⟩
                exact ⟨rfl, hbs'⟩
              · rintro ⟨rfl, hbs⟩
                exact ⟨bs, hbs, rfl, rfl⟩

theorem mem_each_iff {f : α → Attempt β} {l : List α} {bs : List β} (h : each f l = .ok bs)
    {b : β} : b ∈ bs ↔ ∃ a ∈ l, f a = .ok b := by
  have hresults : (.ok b : Attempt β) ∈ l.map f ↔ (.ok b : Attempt β) ∈ bs.map .ok := by
    rw [each_eq_ok_iff.1 h]
  rw [List.mem_map, List.mem_map] at hresults
  rw [hresults]
  exact ⟨fun hb => ⟨b, hb, rfl⟩, fun ⟨_, hb, heq⟩ => Except.ok.inj heq ▸ hb⟩

/-- A pass succeeds if no item fails. -/
theorem exists_each_ok_iff {f : α → Attempt β} {l : List α} :
    (∃ bs, each f l = .ok bs) ↔ ∀ a ∈ l, ∃ b, f a = .ok b := by
  induction l with
  | nil => simp [each]
  | cons a rest ih =>
      cases ha : f a with
      | error failure => simp [each, ha]
      | ok b =>
          rw [List.forall_mem_cons, ← ih, each, ha]
          cases each f rest <;> simp [Except.map]

/-- A pass in which no item can fail. -/
theorem each_ok (f : α → β) (l : List α) : each (fun a => .ok (f a)) l = .ok (l.map f) := by
  rw [each_eq_ok_iff, List.map_map]
  rfl

theorem each_cons_eq_ok_iff {f : α → Attempt β} {a : α} {l : List α} {bs : List β} :
    each f (a :: l) = .ok bs ↔ ∃ b cs, f a = .ok b ∧ each f l = .ok cs ∧ b :: cs = bs := by
  cases ha : f a with
  | error failure => simp [each, ha]
  | ok b => simp [each, ha, map_eq_ok_iff]

theorem each_map {γ : Type} (f : β → Attempt γ) (g : α → β) (l : List α) :
    each f (l.map g) = each (fun a => f (g a)) l := by
  induction l with
  | nil => rfl
  | cons a rest ih => rw [List.map_cons, each, each, ih]

/-- Two passes, the second over the results of the first, are one pass. -/
theorem each_bind_eq_ok_iff {γ : Type} {f : α → Attempt β} {g : β → Attempt γ} {l : List α}
    {cs : List γ} :
    (each f l >>= each g) = .ok cs ↔ each (fun a => f a >>= g) l = .ok cs := by
  rw [bind_eq_ok_iff]
  induction l generalizing cs with
  | nil => simp [each]
  | cons a rest ih =>
      simp only [each_cons_eq_ok_iff, bind_eq_ok_iff, ← ih]
      constructor
      · rintro ⟨_, ⟨b, bs, hb, hbs, rfl⟩, hcs⟩
        obtain ⟨c, cs', hc, hcs', rfl⟩ := each_cons_eq_ok_iff.1 hcs
        exact ⟨c, cs', ⟨b, hb, hc⟩, ⟨bs, hbs, hcs'⟩, rfl⟩
      · rintro ⟨c, cs', ⟨b, hb, hc⟩, ⟨bs, hbs, hcs'⟩, rfl⟩
        exact ⟨b :: bs, ⟨b, bs, hb, hbs, rfl⟩, each_cons_eq_ok_iff.2 ⟨c, cs', hc, hcs', rfl⟩⟩

/-- A loop that updates every cell on its own is a loop for each cell. -/
theorem foldlM_each_eq_ok_iff {step : α → β → Attempt β} {l : List α} {cells result : List β} :
    l.foldlM (fun cells a => each (step a) cells) cells = .ok result ↔
      each (fun cell => l.foldlM (fun cell a => step a cell) cell) cells = .ok result := by
  induction l generalizing cells with
  | nil =>
      simp only [List.foldlM_nil, pure_eq_ok]
      rw [each_ok (fun cell => cell), List.map_id']
  | cons a rest ih =>
      simp only [List.foldlM_cons]
      rw [← each_bind_eq_ok_iff, bind_eq_ok_iff, bind_eq_ok_iff]
      exact exists_congr fun _ => and_congr_right fun _ => ih

/-- Counting items is counting their results. -/
theorem countP_of_each {f : α → Attempt β} {l : List α} {bs : List β} {p : α → Bool}
    {q : β → Bool} (h : each f l = .ok bs) (hpq : ∀ a b, f a = .ok b → p a = q b) :
    l.countP p = bs.countP q := by
  induction l generalizing bs with
  | nil =>
      obtain rfl := Except.ok.inj h
      rfl
  | cons a rest ih =>
      cases ha : f a with
      | error failure => simp [each, ha] at h
      | ok b =>
          simp only [each, ha, map_eq_ok_iff] at h
          obtain ⟨bs', hrest, rfl⟩ := h
          rw [List.countP_cons, List.countP_cons, ih hrest, hpq a b ha]

/-- Items in another order have the same results in another order. -/
theorem each_perm {f : α → Attempt β} {l m : List α} {bs : List β} (h : each f l = .ok bs)
    (hperm : m.Perm l) : ∃ cs, each f m = .ok cs ∧ cs.Perm bs := by
  have hanswers : ∀ a ∈ m, ∃ b, f a = .ok b := by
    intro a ha
    exact exists_each_ok_iff.1 ⟨bs, h⟩ a (hperm.mem_iff.1 ha)
  obtain ⟨cs, hcs⟩ := exists_each_ok_iff.2 hanswers
  have hresults : (cs.map (.ok : β → Attempt β)).Perm (bs.map .ok) := by
    rw [← each_eq_ok_iff.1 hcs, ← each_eq_ok_iff.1 h]
    exact hperm.map f
  have hcs' := hresults.filterMap Except.toOption
  have hback : ∀ ds : List β, (ds.map (.ok : β → Attempt β)).filterMap Except.toOption = ds := by
    intro ds
    rw [List.filterMap_map]
    exact List.filterMap_some
  rw [hback, hback] at hcs'
  exact ⟨cs, hcs, hcs'⟩

/-! ## The items that pass -/

/-- Whether two tests pass. The second is not looked at unless the first
passes. -/
def both (x y : Attempt Bool) : Attempt Bool :=
  match x with
  | .ok true => y
  | x => x

theorem exists_both_ok_iff {x y : Attempt Bool} :
    (∃ b, both x y = .ok b) ↔ (∃ b, x = .ok b) ∧ (x = .ok true → ∃ b, y = .ok b) := by
  cases x with
  | error e => simp [both]
  | ok b => cases b <;> simp [both]

theorem both_true (x : Attempt Bool) : both x (.ok true) = x := by
  cases x with
  | error e => rfl
  | ok b => cases b <;> rfl

theorem passed_eq_true_iff {x : Attempt Bool} : passed x = true ↔ x = .ok true := by
  cases x <;> simp [passed]

/-- A second question that has an answer cannot fail. -/
theorem both_ok_eq_error_iff {x : Attempt Bool} {b : Bool} {failure : Failure} :
    both x (.ok b) = .error failure ↔ x = .error failure := by
  cases x with
  | error e => rfl
  | ok a => cases a <;> simp [both]

theorem both_assoc (x y z : Attempt Bool) : both x (both y z) = both (both x y) z := by
  cases x with
  | error e => rfl
  | ok b => cases b <;> rfl

theorem toOption_both_congr {x x' : Attempt Bool} (h : x.toOption = x'.toOption)
    (y : Attempt Bool) : (both x y).toOption = (both x' y).toOption := by
  cases x with
  | error failure =>
      cases x' with
      | error failure' => rfl
      | ok b => cases h
  | ok b =>
      have hx' : x' = .ok b := toOption_eq_some_iff.1 h.symm
      rw [hx']

/-- A pass succeeds if no test fails. -/
theorem exists_keep_ok_iff {p : α → Attempt Bool} {l : List α} :
    (∃ r, keep p l = .ok r) ↔ ∀ a ∈ l, ∃ b, p a = .ok b :=
  ⟨fun ⟨_, h⟩ => (keep_eq_ok_iff.1 h).1, fun h => ⟨_, keep_eq_ok_iff.2 ⟨h, rfl⟩⟩⟩

/-- A pass fails with any item whose test fails. -/
theorem exists_keep_error {p : α → Attempt Bool} {l : List α} {a : α} {failure : Failure}
    (ha : a ∈ l) (h : p a = .error failure) : ∃ failure', keep p l = .error failure' := by
  rw [← toOption_eq_none_iff, Option.eq_none_iff_forall_ne_some]
  intro kept hkept
  obtain ⟨b, hb⟩ := exists_keep_ok_iff.1 ⟨kept, toOption_eq_some_iff.1 hkept⟩ a ha
  rw [h] at hb
  cases hb

/-- A pass fails at the first item whose test does. -/
theorem keep_eq_error_iff {p : α → Attempt Bool} {l : List α} {failure : Failure} :
    keep p l = .error failure ↔
      ∃ before a after, l = before ++ a :: after ∧ (∀ b ∈ before, ∃ answer, p b = .ok answer) ∧
        p a = .error failure := by
  induction l with
  | nil => simp [keep]
  | cons a rest ih =>
      constructor
      · intro h
        cases ha : p a with
        | error e =>
            simp only [keep, ha, Except.error.injEq] at h
            subst h
            exact ⟨[], a, rest, rfl, by simp, ha⟩
        | ok answer =>
            simp only [keep, ha, map_eq_error_iff] at h
            obtain ⟨before, c, after, rfl, hbefore, hc⟩ := ih.1 h
            exact ⟨a :: before, c, after, rfl,
              List.forall_mem_cons.2 ⟨⟨answer, ha⟩, hbefore⟩, hc⟩
      · rintro ⟨before, c, after, hl, hbefore, hc⟩
        cases before with
        | nil =>
            obtain ⟨rfl, rfl⟩ := List.cons.inj hl
            simp [keep, hc]
        | cons b before =>
            obtain ⟨rfl, rfl⟩ := List.cons.inj hl
            obtain ⟨⟨answer, hb⟩, hbefore⟩ := List.forall_mem_cons.1 hbefore
            simp only [keep, hb, map_eq_error_iff]
            exact ih.2 ⟨before, c, after, rfl, hbefore, hc⟩

theorem keep_sublist {p : α → Attempt Bool} {l r : List α} (h : keep p l = .ok r) :
    r.Sublist l := by
  rw [(keep_eq_ok_iff.1 h).2]
  exact List.filter_sublist

/-- A pass over some of the items does not fail if the pass over all of them
did not. -/
theorem keep_of_subset {p : α → Attempt Bool} {l m r : List α} (h : keep p l = .ok r)
    (hm : ∀ a ∈ m, a ∈ l) : keep p m = .ok (m.filter fun a => passed (p a)) := by
  have hdecided := (keep_eq_ok_iff.1 h).1
  exact keep_eq_ok_iff.2 ⟨fun a ha => hdecided a (hm a ha), rfl⟩

theorem keep_cons_true {p : α → Attempt Bool} {a : α} (h : p a = .ok true) (rest : List α) :
    keep p (a :: rest) = (keep p rest).map (a :: ·) := by
  simp [keep, h]

theorem keep_cons_false {p : α → Attempt Bool} {a : α} (h : p a = .ok false) (rest : List α) :
    keep p (a :: rest) = keep p rest := by
  cases hk : keep p rest <;> simp [keep, h, hk, Except.map]

/-- Where nothing is asked, everything is kept. -/
theorem keep_eq_self (l : List α) : keep (fun _ => .ok true) l = .ok l := by
  refine keep_eq_ok_iff.2 ⟨fun _ _ => ⟨true, rfl⟩, ?_⟩
  exact (List.filter_eq_self.2 fun _ _ => rfl).symm

/-- Keeping by one test and then by another is keeping by both. -/
theorem keep_keep {p : α → Attempt Bool} (q : α → Attempt Bool) {l kept : List α}
    (h : keep p l = .ok kept) : keep q kept = keep (fun a => both (p a) (q a)) l := by
  induction l generalizing kept with
  | nil =>
      simp only [keep, Except.ok.injEq] at h
      subst h
      rfl
  | cons a rest ih =>
      cases ha : p a with
      | error failure => simp [keep, ha] at h
      | ok b =>
          cases b with
          | true =>
              rw [keep_cons_true ha, map_eq_ok_iff] at h
              obtain ⟨kept, hkept, rfl⟩ := h
              simp only [keep, ha, both, ih hkept]
          | false =>
              rw [keep_cons_false ha] at h
              rw [ih h, keep_cons_false (by simp [both, ha])]

/-- A second test without failures may also be left to a filter. -/
theorem map_filter_keep (p : α → Attempt Bool) (f : α → Bool) (l : List α) :
    (keep p l).map (List.filter f) = keep (fun a => both (p a) (.ok (f a))) l := by
  induction l with
  | nil => rfl
  | cons a rest ih =>
      cases ha : p a with
      | error failure => simp [keep, ha, both, Except.map]
      | ok b =>
          cases b with
          | false =>
              rw [keep_cons_false ha, ih, keep_cons_false (by simp [both, ha])]
          | true =>
              have hboth : both (p a) (.ok (f a)) = .ok (f a) := by simp [both, ha]
              rw [keep_cons_true ha]
              cases hf : f a with
              | true =>
                  rw [keep_cons_true (by rw [hboth, hf]), ← ih]
                  cases keep p rest <;> simp [Except.map, hf]
              | false =>
                  rw [keep_cons_false (by rw [hboth, hf]), ← ih]
                  cases keep p rest <;> simp [Except.map, hf]

/-- Keeping some of the results is keeping the items that they are of. -/
theorem keep_map (p : β → Attempt Bool) (f : α → β) (l : List α) :
    keep p (l.map f) = (keep (fun a => p (f a)) l).map (List.map f) := by
  induction l with
  | nil => rfl
  | cons a rest ih =>
      simp only [List.map_cons, keep, ih]
      cases p (f a) with
      | error failure => rfl
      | ok b =>
          cases keep (fun a => p (f a)) rest with
          | error failure => rfl
          | ok kept => cases b <;> rfl

/-- Tests that end alike, failures not told apart, keep alike. -/
theorem toOption_keep_congr {p q : α → Attempt Bool} {l : List α}
    (h : ∀ a ∈ l, (p a).toOption = (q a).toOption) :
    (keep p l).toOption = (keep q l).toOption := by
  induction l with
  | nil => rfl
  | cons a rest ih =>
      obtain ⟨ha, hrest⟩ := List.forall_mem_cons.1 h
      have hkept := ih hrest
      cases hp : p a with
      | error failure =>
          cases hq : q a with
          | error other => simp [keep, hp, hq, Except.toOption]
          | ok b => simp [hp, hq, Except.toOption] at ha
      | ok b =>
          cases hq : q a with
          | error other => simp [hp, hq, Except.toOption] at ha
          | ok c =>
              simp only [hp, hq, Except.toOption, Option.some.injEq] at ha
              subst ha
              simp only [keep, hp, hq]
              rw [toOption_map, toOption_map, hkept]

/-! ## Tests in a row -/

/-- Tests in a row fail at the first one that does, if all before it
pass. -/
theorem all_eq_error_iff {p : α → Attempt Bool} {l : List α} {failure : Failure} :
    all p l = .error failure ↔
      ∃ before a after, l = before ++ a :: after ∧ (∀ b ∈ before, p b = .ok true) ∧
        p a = .error failure := by
  induction l with
  | nil => simp [all]
  | cons a rest ih =>
      constructor
      · intro h
        cases ha : p a with
        | error e =>
            simp only [all, ha, Except.error.injEq] at h
            subst h
            exact ⟨[], a, rest, rfl, by simp, ha⟩
        | ok b =>
            cases b with
            | false => simp [all, ha] at h
            | true =>
                simp only [all, ha, if_true] at h
                obtain ⟨before, c, after, rfl, hbefore, hc⟩ := ih.1 h
                exact ⟨a :: before, c, after, rfl, List.forall_mem_cons.2 ⟨ha, hbefore⟩, hc⟩
      · rintro ⟨before, c, after, hl, hbefore, hc⟩
        cases before with
        | nil =>
            obtain ⟨rfl, rfl⟩ := List.cons.inj hl
            simp [all, hc]
        | cons b before =>
            obtain ⟨rfl, rfl⟩ := List.cons.inj hl
            obtain ⟨hb, hbefore⟩ := List.forall_mem_cons.1 hbefore
            simp only [all, hb, if_true]
            exact ih.2 ⟨before, c, after, rfl, hbefore, hc⟩

theorem all_cons (p : α → Attempt Bool) (a : α) (l : List α) :
    all p (a :: l) = both (p a) (all p l) := by
  cases h : p a with
  | error failure => simp [all, both, h]
  | ok b => cases b <;> simp [all, both, h]

theorem all_cons_of_eq {p : α → Attempt Bool} {a : α} (h : p a ≠ .ok true) (l : List α) :
    all p (a :: l) = p a := by
  rw [all_cons]
  cases ha : p a with
  | error failure => rfl
  | ok b =>
      cases b with
      | false => rfl
      | true => exact absurd ha h

/-- Tests that all have an answer are the test of the list. -/
theorem all_eq_ok {p : α → Attempt Bool} {l : List α} (h : ∀ a ∈ l, ∃ b, p a = .ok b) :
    all p l = .ok (l.all fun a => passed (p a)) := by
  induction l with
  | nil => rfl
  | cons a rest ih =>
      obtain ⟨⟨b, hb⟩, hrest⟩ := List.forall_mem_cons.1 h
      rw [all_cons, ih hrest, hb, List.all_cons, hb]
      cases b <;> rfl

/-- Where no test is answered no, one without an answer is reached. -/
theorem exists_all_eq_error {p : α → Attempt Bool} {l : List α}
    (hrefused : ∀ a ∈ l, p a ≠ .ok false) (hfails : ∃ a ∈ l, ∃ failure, p a = .error failure) :
    ∃ failure, all p l = .error failure := by
  induction l with
  | nil =>
      obtain ⟨a, ha, -⟩ := hfails
      cases ha
  | cons a rest ih =>
      obtain ⟨hfirst, hrest⟩ := List.forall_mem_cons.1 hrefused
      rw [all_cons]
      cases ha : p a with
      | error failure => exact ⟨failure, rfl⟩
      | ok b =>
          cases b with
          | false => exact absurd ha hfirst
          | true =>
              refine ih hrest ?_
              obtain ⟨c, hc, failure, hfailure⟩ := hfails
              rcases List.mem_cons.1 hc with rfl | hc
              · rw [ha] at hfailure
                cases hfailure
              · exact ⟨c, hc, failure, hfailure⟩

/-- **Tests in another order.** Either all tests have an answer, and then the
order is that of a conjunction; or one of them has none, and then it is
reached in every order, because no other test stops short of it. -/
theorem toOption_all_perm {p : α → Attempt Bool} {l m : List α} (hperm : m.Perm l)
    (h : ¬ ((∃ a ∈ l, p a = .ok false) ∧ ∃ a ∈ l, ∃ failure, p a = .error failure)) :
    (all p m).toOption = (all p l).toOption := by
  by_cases hfails : ∃ a ∈ l, ∃ failure, p a = .error failure
  · have hrefused : ∀ a ∈ l, p a ≠ .ok false := fun a ha hno => h ⟨⟨a, ha, hno⟩, hfails⟩
    have hrefused' : ∀ a ∈ m, p a ≠ .ok false := fun a ha => hrefused a (hperm.mem_iff.1 ha)
    have hfails' : ∃ a ∈ m, ∃ failure, p a = .error failure := by
      obtain ⟨a, ha, hfailure⟩ := hfails
      exact ⟨a, hperm.mem_iff.2 ha, hfailure⟩
    rw [toOption_eq_none_iff.2 (exists_all_eq_error hrefused hfails),
      toOption_eq_none_iff.2 (exists_all_eq_error hrefused' hfails')]
  · have hanswers : ∀ a ∈ l, ∃ b, p a = .ok b := by
      intro a ha
      refine exists_ok_iff.2 fun failure hfailure => hfails ⟨a, ha, failure, hfailure⟩
    have hanswers' : ∀ a ∈ m, ∃ b, p a = .ok b := fun a ha => hanswers a (hperm.mem_iff.1 ha)
    rw [all_eq_ok hanswers, all_eq_ok hanswers', hperm.all_eq]

end Attempt

end Audience
