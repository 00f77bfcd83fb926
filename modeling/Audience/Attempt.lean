import Audience.Failure

/-!
# Attempts over lists

Records, leads and criteria come in lists, and one that has no answer stops
the pass it is in. Three passes are enough: `Attempt.each` takes every
item's result, `Attempt.keep` the items that pass a test, and `Attempt.all`
asks whether every item passes, without going past the first that does not.

Each item is decided on its own, so a pass over a list is put together from
passes over its parts (`each_append`, `keep_append`, `all_append`), and a
pass that succeeds is the corresponding operation on lists
(`keep_eq_ok_iff`).
-/

namespace Audience

namespace Attempt

variable {α β : Type}

/-- Every item's result, in order; the first failure ends the pass. -/
def each (f : α → Attempt β) : List α → Attempt (List β)
  | [] => .ok []
  | a :: rest =>
    match f a with
    | .error failure => .error failure
    | .ok b => (each f rest).map (b :: ·)

/-- The items that pass a test, in order; the first failure ends the pass. -/
def keep (p : α → Attempt Bool) : List α → Attempt (List α)
  | [] => .ok []
  | a :: rest =>
    match p a with
    | .error failure => .error failure
    | .ok b => (keep p rest).map fun kept => if b then a :: kept else kept

/-- Whether every item passes a test. Items after the first that does not are
not tested. -/
def all (p : α → Attempt Bool) : List α → Attempt Bool
  | [] => .ok true
  | a :: rest =>
    match p a with
    | .error failure => .error failure
    | .ok b => if b then all p rest else .ok false

def passed : Attempt Bool → Bool
  | .ok b => b
  | .error _ => false

/-! ## Parts of a list -/

theorem each_append (f : α → Attempt β) (l m : List α) :
    each f (l ++ m) = (each f l).bind fun bs => (each f m).map (bs ++ ·) := by
  induction l with
  | nil => cases h : each f m <;> simp [each, h, Except.bind, Except.map]
  | cons a rest ih =>
    cases ha : f a <;> simp only [List.cons_append, each, ha, ih, Except.bind]
    cases each f rest <;> simp [Except.map]
    cases each f m <;> simp

theorem keep_append (p : α → Attempt Bool) (l m : List α) :
    keep p (l ++ m) = (keep p l).bind fun kept => (keep p m).map (kept ++ ·) := by
  induction l with
  | nil => cases h : keep p m <;> simp [keep, h, Except.bind, Except.map]
  | cons a rest ih =>
    cases ha : p a <;> simp only [List.cons_append, keep, ha, ih, Except.bind]
    cases keep p rest <;> simp [Except.map]
    cases keep p m <;> simp
    split <;> rfl

theorem all_append (p : α → Attempt Bool) (l m : List α) :
    all p (l ++ m) = (all p l).bind fun b => if b then all p m else .ok false := by
  induction l with
  | nil => simp [all, Except.bind]
  | cons a rest ih =>
    cases ha : p a with
    | error failure => simp [all, ha, Except.bind]
    | ok b => cases b <;> simp [all, ha, ih, Except.bind]

/-! ## Passes that succeed -/

/-- A pass succeeds if no test fails, and then it is the list's filter. -/
theorem keep_eq_ok_iff {p : α → Attempt Bool} {l r : List α} :
    keep p l = .ok r ↔ (∀ a ∈ l, ∃ b, p a = .ok b) ∧ r = l.filter fun a => passed (p a) := by
  induction l generalizing r with
  | nil => simp [keep, eq_comm]
  | cons a rest ih =>
    cases ha : p a with
    | error failure => simp [keep, ha]
    | ok b =>
      cases hk : keep p rest with
      | error failure =>
        simp only [keep, ha, hk, Except.map, reduceCtorEq, false_iff]
        rintro ⟨h, -⟩
        have := ih.2 ⟨fun x hx => h x (List.mem_cons_of_mem a hx), rfl⟩
        rw [hk] at this
        cases this
      | ok kept =>
        obtain ⟨h, rfl⟩ := ih.1 hk
        have hall : ∀ x ∈ a :: rest, ∃ b, p x = .ok b := by
          intro x hx
          rcases List.mem_cons.1 hx with rfl | hx
          · exact ⟨b, ha⟩
          · exact h x hx
        rw [List.filter_cons, keep, ha]
        simp only [hk, Except.map, Except.ok.injEq, passed]
        exact ⟨fun e => ⟨hall, e.symm⟩, fun e => e.2.symm⟩

end Attempt

end Audience
