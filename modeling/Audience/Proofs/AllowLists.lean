import Audience.Criterion

/-!
# Lists of allowed words

Five kinds of criteria hold a list of allowed words: those about the three
traits, the one about the status and the one about the type of client. Their
rules differ, since a context lists its tags but has one status, and since the
type of client is compared as it is written. `AllowList` says what they share: a
context is accepted if a word that it has is allowed, and there always is an
answer (`holdsFor_object`).

A list of allowed words is therefore a disjunction of its items
(`allows_list_iff`), and nulls allow nothing (`not_allows_nulls`). All else
follows from these two:

- a list in two parts accepts what the one part or the other does;
- it does not matter how the items are ordered, which of them are repeated, and
  where nulls stand between them (`allows_congr`). The same is true of the words
  that a context lists (`allows_put_congr`).
-/

namespace Audience

/-- The criteria with a list of allowed words. -/
inductive AllowList where
  | trait (t : Trait)
  | status
  | clientType
deriving DecidableEq, Repr

namespace AllowList

/-- The word for the attribute in a criterion. -/
def word : AllowList → Text
  | .trait t => t.name
  | .status => "status"
  | .clientType => "clientType"

def rule : AllowList → List Text → Rule
  | .trait t => .membership t
  | .status => .status
  | .clientType => .clientType

/-- The attribute of a context that is looked at. -/
def about : AllowList → Attribute
  | .trait t => t.listedIn
  | .status => .status
  | .clientType => .clientType

/-- The words in the value of the attribute: a trait lists them, a status is
one. -/
def given (v : Value) : AllowList → List Text
  | .trait _ => v.words
  | .status | .clientType => v.given?.toList

/-- The form in which words are compared. -/
def form : AllowList → Text → Text
  | .trait _ | .status => Text.lower
  | .clientType => id

/-- Whether a word that a context has is among those a value allows. -/
def allows (l : AllowList) (v : Value) (ctx : Context) : Bool :=
  (l.given (ctx.get l.about)).any fun t => ((Rule.choices v).map l.form).elem (l.form t)

/-- Two lists with the same items, whatever their order and number, and whatever
nulls stand between them. -/
def SameItems (A B : List Value) : Prop := ∀ v : Value, v.isNull = false → (v ∈ A ↔ v ∈ B)

variable {l : AllowList} {v : Value} {ctx : Context} {A B C D : List Value}

/-! ## One rule for the five -/

theorem ofValue_word (l : AllowList) (v : Value) :
    Rule.ofValue l.word v = .ok (l.rule (Rule.choices v)) := by
  cases l with
  | trait t => cases t <;> rfl
  | status => rfl
  | clientType => rfl

theorem any_toList (word : Option Text) (p : Text → Bool) : word.toList.any p = word.any p := by
  cases word with
  | none => rfl
  | some t => exact Bool.or_false (p t)

theorem holds_rule (l : AllowList) (v : Value) (ctx : Context) :
    (l.rule (Rule.choices v)).holds ctx = .ok (l.allows v ctx) := by
  cases l with
  | trait t => rfl
  | status =>
      simp only [rule, Rule.holds, allows, about, given, Context.get, any_toList]
      rfl
  | clientType =>
      simp only [rule, Rule.holds, allows, about, given, Context.get, any_toList, form,
        List.map_id, id]

/-- A criterion with a list of allowed words has an answer for every object. -/
theorem holdsFor_object {criterion : Fields}
    (hfield : Criterion.memberText criterion "field" = l.word) (ctx : Fields) :
    Criterion.holdsFor (.object criterion) (.object ctx)
      = .ok (l.allows (criterion.get "value") (.ofFields ctx)) := by
  rw [Criterion.holdsFor_object, hfield, ofValue_word]
  exact holds_rule ..

theorem allows_iff :
    l.allows v ctx = true ↔ ∃ word ∈ l.given (ctx.get l.about),
      ∃ allowed ∈ Rule.choices v, l.form allowed = l.form word := by
  simp [allows]

/-! ## What is allowed -/

theorem choices_list (A : List Value) : Rule.choices (.list A) = (Value.list A).words := rfl

theorem choices_single {v : Value} (hnull : v.isNull = false) (hsingle : v.isContainer = false) :
    Rule.choices v = Rule.choices (.list [v]) := by
  cases v with
  | null => cases hnull
  | list items => cases hsingle
  | object fields => cases hsingle
  | _ => rfl

/-- A list allows what one of its items does. -/
theorem allows_list_iff :
    l.allows (.list A) ctx = true ↔ ∃ a ∈ A, l.allows (.list [a]) ctx = true := by
  simp only [allows_iff, choices_list, Value.mem_words, Value.items_list, List.mem_singleton]
  constructor
  · rintro ⟨word, hword, _, ⟨a, ha, hnull, rfl⟩, hform⟩
    exact ⟨a, ha, word, hword, _, ⟨a, rfl, hnull, rfl⟩, hform⟩
  · rintro ⟨a, ha, word, hword, _, ⟨_, rfl, hnull, rfl⟩, hform⟩
    exact ⟨word, hword, _, ⟨_, ha, hnull, rfl⟩, hform⟩

theorem not_allows_of_choices (h : Rule.choices v = []) : l.allows v ctx = false := by
  rw [allows, h, List.any_eq_false]
  exact fun _ _ => Bool.false_ne_true

/-- The item by which a list allows something is not null. -/
theorem isNull_of_allows {a : Value} (h : l.allows (.list [a]) ctx = true) : a.isNull = false := by
  cases a with
  | null => exact absurd h (Bool.eq_false_iff.1 (not_allows_of_choices rfl))
  | _ => rfl

theorem allows_append (l : AllowList) (A B : List Value) (ctx : Context) :
    l.allows (.list (A ++ B)) ctx = (l.allows (.list A) ctx || l.allows (.list B) ctx) := by
  rw [Bool.eq_iff_iff, Bool.or_eq_true, allows_list_iff, allows_list_iff (A := A),
    allows_list_iff (A := B)]
  simp only [List.mem_append, or_and_right, exists_or]

theorem allows_congr (h : SameItems A B) : l.allows (.list A) ctx = l.allows (.list B) ctx := by
  rw [Bool.eq_iff_iff, allows_list_iff, allows_list_iff (A := B)]
  refine exists_congr fun a => and_congr_left fun hallows => ?_
  exact h a (isNull_of_allows hallows)

theorem not_allows_nulls (h : ∀ a ∈ A, a.isNull = true) : l.allows (.list A) ctx = false :=
  not_allows_of_choices ((Value.words_eq_nil_iff (v := .list A)).2 h)

/-! ## What a context lists -/

theorem SameItems.mem_words (h : SameItems C D) (t : Text) :
    t ∈ (Value.list C).words ↔ t ∈ (Value.list D).words := by
  rw [Value.mem_words, Value.mem_words]
  refine exists_congr fun w => and_congr_left fun hw => ?_
  exact h w hw.1

theorem about_key_ne {t : Trait} (h : l ≠ .trait t) : t.listedIn.key ≠ l.about.key := by
  cases l with
  | trait t' => revert h; cases t <;> cases t' <;> decide
  | status => cases t <;> decide
  | clientType => cases t <;> decide

theorem mem_given_put (fields : Fields) (t : Trait) (h : SameItems C D) (word : Text) :
    word ∈ l.given ((fields.put t.listedIn.key (.list C)).get l.about.key)
      ↔ word ∈ l.given ((fields.put t.listedIn.key (.list D)).get l.about.key) := by
  by_cases hl : l = .trait t
  · subst hl
    rw [about, Fields.get_put_self, Fields.get_put_self]
    exact h.mem_words word
  · rw [Fields.get_put_of_ne (about_key_ne hl), Fields.get_put_of_ne (about_key_ne hl)]

theorem allows_put_congr (l : AllowList) (v : Value) (fields : Fields) (t : Trait)
    (h : SameItems C D) :
    l.allows v (.ofFields (fields.put t.listedIn.key (.list C)))
      = l.allows v (.ofFields (fields.put t.listedIn.key (.list D))) := by
  rw [Bool.eq_iff_iff, allows_iff, allows_iff]
  simp only [Context.get_ofFields, mem_given_put fields t h]

/-! ## The disjunction -/

/-- **One allowed word is enough.** A criterion with a list of allowed words has
an answer for every object taken as a context, which is whether a word of the
context has the form of an allowed one. A list in two parts accepts what one of
the parts does; order, repetition and nulls do not matter, in the list or in
what the context lists; a single value is a list of itself; and a list without
items or with nulls alone, null and an object accept nothing. -/
theorem any_word_suffices (l : AllowList) :
    (∀ criterion ctx : Fields, Criterion.memberText criterion "field" = l.word →
        Criterion.holdsFor (.object criterion) (.object ctx)
          = .ok (l.allows (criterion.get "value") (.ofFields ctx)))
      ∧ (∀ (v : Value) (ctx : Context), l.allows v ctx = true ↔
        ∃ word ∈ l.given (ctx.get l.about), ∃ allowed ∈ Rule.choices v,
          l.form allowed = l.form word)
      ∧ (∀ (A B : List Value) (ctx : Context),
        l.allows (.list (A ++ B)) ctx = (l.allows (.list A) ctx || l.allows (.list B) ctx))
      ∧ (∀ (A B : List Value) (ctx : Context), SameItems A B →
        l.allows (.list A) ctx = l.allows (.list B) ctx)
      ∧ (∀ (v : Value) (ctx : Fields) (t : Trait) (C D : List Value), SameItems C D →
        l.allows v (.ofFields (ctx.put t.listedIn.key (.list C)))
          = l.allows v (.ofFields (ctx.put t.listedIn.key (.list D))))
      ∧ (∀ (v : Value) (ctx : Context), v.isNull = false → v.isContainer = false →
        l.allows v ctx = l.allows (.list [v]) ctx)
      ∧ ∀ ctx : Context, (∀ A : List Value, (∀ a ∈ A, a.isNull = true) →
          l.allows (.list A) ctx = false)
        ∧ l.allows .null ctx = false ∧ ∀ fields, l.allows (.object fields) ctx = false := by
  refine ⟨fun _ ctx hfield => holdsFor_object hfield ctx, fun _ _ => allows_iff, allows_append l,
    fun _ _ _ h => allows_congr h, fun v ctx t _ _ h => allows_put_congr l v ctx t h, ?_, ?_⟩
  · intro v ctx hnull hsingle
    rw [allows, choices_single hnull hsingle, allows]
  · exact fun _ => ⟨fun _ h => not_allows_nulls h, not_allows_of_choices rfl,
      fun _ => not_allows_of_choices rfl⟩

/-- Boarding, or the service with a number. -/
def boardingOrThird : Fields :=
  [("field", .text "service"), ("value", .list [.null, .text "Boarding", .int 3]),
    ("label", .text "Boarding")]

/-- A context that lists the service with that number twice. -/
def thirdService : Fields :=
  [("services", .list [.text "3", .null, .text "dog_walking", .text "3"])]

/-- The number is allowed, also when it stands alone; null is not, although there
is a null among the services; and the number may be listed once. -/
theorem boardingOrThird_suffices :
    Criterion.memberText boardingOrThird "field" = (trait .service).word
      ∧ Criterion.holdsFor (.object boardingOrThird) (.object thirdService) = .ok true
      ∧ Criterion.holdsFor (.object (boardingOrThird.put "value" (.int 3)))
          (.object thirdService) = .ok true
      ∧ Criterion.holdsFor (.object (boardingOrThird.put "value" (.list [.null])))
          (.object thirdService) = .ok false
      ∧ Criterion.holdsFor (.object boardingOrThird)
          (.object (thirdService.put "services" (.list [.text "dog_walking", .text "3"])))
            = .ok true := by
  obtain ⟨hanswer, hiff, happend, _, hlisted, hsingle, hnothing⟩ :=
    any_word_suffices (.trait .service)
  have hfield : Criterion.memberText boardingOrThird "field" = (trait .service).word := rfl
  have hfieldPut : ∀ v, Criterion.memberText (boardingOrThird.put "value" v) "field"
      = (trait .service).word := fun _ => rfl
  have hthree : (trait .service).allows (.list [.int 3]) (.ofFields thirdService) = true :=
    (hiff _ _).2 ⟨"3", List.mem_cons_self, "3", List.mem_cons_self, rfl⟩
  have hboth : (trait .service).allows (.list ([.null, .text "Boarding"] ++ [.int 3]))
      (.ofFields thirdService) = true := by
    rw [happend, hthree, Bool.or_true]
  have hsame : SameItems [.text "3", .null, .text "dog_walking", .text "3"]
      [.text "dog_walking", .text "3"] := by
    intro v hnull
    have hne : v ≠ .null := fun hv => by rw [hv] at hnull; cases hnull
    simp [hne, or_comm]
  refine ⟨hfield, ?_, ?_, ?_, ?_⟩
  · rw [hanswer _ _ hfield]
    exact congrArg Except.ok hboth
  · rw [hanswer _ _ (hfieldPut _)]
    exact congrArg Except.ok ((hsingle (.int 3) _ rfl rfl).trans hthree)
  · rw [hanswer _ _ (hfieldPut _)]
    refine congrArg Except.ok ((hnothing _).1 [.null] fun a ha => ?_)
    obtain rfl := List.mem_singleton.1 ha
    rfl
  · rw [hanswer _ _ hfield]
    exact congrArg Except.ok ((hlisted _ thirdService .service _ _ hsame).symm.trans hboth)

end AllowList

end Audience
