import Audience.Proofs.Sidebars

/-!
# The location box and the saved criteria

A text can be entered into the location box, or saved in a criterion about the
postal code, the city or the state. `Place` names these three. They differ in how the
text of the attribute has to relate to the one that is saved, but all of them compare
in lower case.

The box is meant as a wider net than each of them, and about the city and the state it
is (`isAt_of_accepts`): an equal text is contained, and the box looks for what a
criterion about the city looks for. The beginning of a postal code is compared as it is
written, though. So a criterion about the postal code can accept a context that the
box refuses, but only by a difference in case (`Place.box_refuses_iff`).
-/

namespace Audience

/-- The criteria about where something is. -/
inductive Place where
  | zip | city | state
deriving DecidableEq, Repr

namespace Place

/-- The word for the attribute in a criterion. -/
def word : Place → Text
  | .zip => "zip"
  | .city => "city"
  | .state => "state"

/-- The attribute of a context that is looked at. -/
def about : Place → Attribute
  | .zip => .zip
  | .city => .city
  | .state => .state

/-- What the text of the attribute has to be to the one saved. -/
def relation : Place → Text → Text → Bool
  | .zip => Text.startsWith
  | .city => Text.contains
  | .state => (· == ·)

/-- Whether the criterion with a text accepts a context. -/
def accepts (p : Place) (t : Text) (ctx : Context) : Bool :=
  Rule.compares p.relation (ctx.get p.about).given? (some t)

variable {p : Place} {t : Text} {ctx : Context}

/-! ## One rule for the three -/

theorem holdsFor_object {criterion : Fields}
    (hfield : Criterion.memberText criterion "field" = p.word)
    (hvalue : criterion.get "value" = .text t) (ctx : Fields) :
    Criterion.holdsFor (.object criterion) (.object ctx)
      = .ok (p.accepts t (.ofFields ctx)) := by
  rw [Criterion.holdsFor_object, hfield, hvalue]
  cases p <;> rfl

theorem accepts_iff :
    p.accepts t ctx = true ↔ ∃ here, (ctx.get p.about).given? = some here
      ∧ p.relation here.lower t.lower = true := by
  unfold accepts
  cases (ctx.get p.about).given? <;> simp [Rule.compares]

/-! ## The box -/

/-- Whether the postal code begins with a text as it is written. -/
def zipBegins (t : Text) (ctx : Context) : Bool := ctx.zip.given?.any (Text.startsWith · t)

theorem isAt_eq (t : Text) (ctx : Context) :
    Sidebar.isAt ctx t
      = (zipBegins t ctx || Sidebar.mentions ctx.city t.lower
          || Sidebar.mentions ctx.state t.lower) := rfl

/-- About the city and the state, what a criterion accepts the box does too. -/
theorem isAt_of_accepts (hp : p ≠ .zip) (h : p.accepts t ctx = true) :
    Sidebar.isAt ctx t = true := by
  obtain ⟨here, hhere, hrelation⟩ := accepts_iff.1 h
  rw [isAt_eq, Bool.or_eq_true, Bool.or_eq_true]
  cases p with
  | zip => exact absurd rfl hp
  | city =>
      refine .inl (.inr ?_)
      rw [Sidebar.mentions, show ctx.city.given? = some here from hhere]
      exact hrelation
  | state =>
      refine .inr ?_
      rw [Sidebar.mentions, show ctx.state.given? = some here from hhere]
      have hequal : here.lower = t.lower := beq_iff_eq.1 hrelation
      exact Text.contains_iff.2 (hequal ▸ List.infix_rfl)

/-- A criterion about the postal code accepts what the box does where there is no
difference in case. -/
theorem zipBegins_of_accepts (h : zip.accepts t ctx = true) (ht : t.lower = t)
    (hzip : ∀ z, ctx.zip.given? = some z → z.lower = z) : zipBegins t ctx = true := by
  obtain ⟨z, hz, hrelation⟩ := accepts_iff.1 h
  have hgiven : ctx.zip.given? = some z := hz
  rw [ht, hzip z hgiven] at hrelation
  rw [zipBegins, hgiven]
  exact hrelation

/-- With nothing else entered, the location box decides. -/
theorem admitsValue_eq_isAt {filters : Fields} (ht : t ≠ [])
    (hbox : filters.get "location_text" = .text t)
    (hidle : ∀ e : Sidebar.Entry, e ≠ .location → e.Idle (filters.get e.key)) (ctx : Fields) :
    Sidebar.admitsValue (.object filters) (.object ctx)
      = .ok (Sidebar.isAt (.ofFields ctx) t) := by
  have hentered : filters.get (Sidebar.Entry.key .location) = .text t := hbox
  rw [Sidebar.admitsValue_of_idle hidle, hentered, Sidebar.Entry.asks, Value.given?_text ht]
  rfl

/-- **The location box as a net.** A text in the location box decides about every
context. If a criterion with the same text accepts a context, the box refuses it exactly
if the criterion is about the postal code, which begins with the text only in another
case, and neither the city nor the state mentions it. Where the text and the postal code
are in lower case, as digits are, the box accepts the context. -/
theorem box_refuses_iff {t : Text} {filters criterion ctx : Fields} {p : Place} (ht : t ≠ [])
    (hbox : filters.get "location_text" = .text t)
    (hidle : ∀ e : Sidebar.Entry, e ≠ .location → e.Idle (filters.get e.key))
    (hfield : Criterion.memberText criterion "field" = p.word)
    (hvalue : criterion.get "value" = .text t)
    (hmatch : Criterion.holdsFor (.object criterion) (.object ctx) = .ok true) :
    (∃ answer, Sidebar.admitsValue (.object filters) (.object ctx) = .ok answer)
      ∧ (Sidebar.admitsValue (.object filters) (.object ctx) = .ok false ↔
        p = .zip ∧ zipBegins t (.ofFields ctx) = false
          ∧ Sidebar.mentions (ctx.get "city") t.lower = false
          ∧ Sidebar.mentions (ctx.get "state") t.lower = false)
      ∧ (t.lower = t → (∀ z, (ctx.get "zip").given? = some z → z.lower = z) →
        Sidebar.admitsValue (.object filters) (.object ctx) = .ok true) := by
  rw [admitsValue_eq_isAt ht hbox hidle]
  rw [holdsFor_object hfield hvalue, Except.ok.injEq] at hmatch
  have helsewhere : p ≠ .zip → Sidebar.isAt (.ofFields ctx) t = true :=
    fun hp => isAt_of_accepts hp hmatch
  refine ⟨⟨_, rfl⟩, ?_, fun hlower hzip => ?_⟩
  · rw [Except.ok.injEq]
    constructor
    · intro hrefused
      have hplace : p = .zip := Decidable.byContradiction fun hp => by
        rw [helsewhere hp] at hrefused
        cases hrefused
      rw [isAt_eq, Bool.or_eq_false_iff, Bool.or_eq_false_iff] at hrefused
      exact ⟨hplace, hrefused.1.1, hrefused.1.2, hrefused.2⟩
    · rintro ⟨-, hbegins, hcity, hstate⟩
      rw [isAt_eq, Bool.or_eq_false_iff, Bool.or_eq_false_iff]
      exact ⟨⟨hbegins, hcity⟩, hstate⟩
  · by_cases hp : p = .zip
    · subst hp
      rw [isAt_eq, zipBegins_of_accepts hmatch hlower hzip, Bool.true_or, Bool.true_or]
    · rw [helsewhere hp]

/-- A criterion about a place. -/
def asksFor (p : Place) (t : Text) : Fields := [("field", .text p.word), ("value", .text t)]

/-- The location box with a text in it. -/
def entered (t : Text) : Fields := [("location_text", .text t)]

/-- The digits of a postal code are found either way. -/
theorem digits_entered :
    Criterion.holdsFor (.object (asksFor .zip "941")) (.object [("zip", .text "94110")]) = .ok true
      ∧ Sidebar.admitsValue (.object (entered "941")) (.object [("zip", .text "94110")])
        = .ok true := by
  have hmatch : Criterion.holdsFor (.object (asksFor .zip "941")) (.object [("zip", .text "94110")])
      = .ok true := by decide +kernel
  have hidle : ∀ e : Sidebar.Entry, e ≠ .location → e.Idle ((entered "941").get e.key) := by
    intro e he
    cases e with
    | location => exact absurd rfl he
    | _ => exact .notGiven rfl
  obtain ⟨-, -, hlower⟩ :=
    box_refuses_iff (p := .zip) (List.cons_ne_nil _ _) rfl hidle rfl rfl hmatch
  refine ⟨hmatch, hlower (by decide +kernel) ?_⟩
  rintro z ⟨⟩
  decide +kernel

/-- A postal code with letters is found in lower case by the criterion alone. -/
theorem letters_entered :
    Criterion.holdsFor (.object (asksFor .zip "k1a")) (.object [("zip", .text "K1A 0B1")])
        = .ok true
      ∧ Sidebar.admitsValue (.object (entered "k1a")) (.object [("zip", .text "K1A 0B1")])
        = .ok false := by
  decide +kernel

end Place

end Audience
