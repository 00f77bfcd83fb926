import Audience.Proofs.Limits
import Audience.Sidebar

/-!
# The sidebar, filter by filter

The four filters of the sidebar are entered together and decided together, but
none of them looks at what another one holds. `Sidebar.Entry` names them, and
`passes_eq_all` takes the sidebar apart: a context passes it exactly if it
passes each filter when that is the only one there.

What a filter asks for on its own:

- nothing, exactly if it is idle (`Entry.passes_only_iff`): nothing was
  entered, every service was chosen, or no tag was. Any other filter excludes
  the context about which nothing is known, so there is no further way in which
  a filter can be inactive;
- of the tags, any one of those chosen, so that a longer list lets more contexts
  pass (`passes_put_tags_append`).

Every value that is entered has an answer for every context that is an object.
-/

namespace Audience

/-! ## One member of an object -/

namespace Fields

/-- The members under one key. -/
def only (fields : Fields) (key : Text) : Fields := fields.filter fun m => m.1 = key

theorem get_only_self (fields : Fields) (key : Text) :
    (fields.only key).get key = fields.get key := by
  induction fields with
  | nil => rfl
  | cons m rest ih =>
      obtain ⟨k, v⟩ := m
      by_cases hk : k = key
      · simp [only, get, get?, hk]
      · simp only [only, get] at ih
        simp [only, get, get?, hk, ih]

theorem get_only_of_ne {key other : Text} (h : key ≠ other) (fields : Fields) :
    (fields.only key).get other = .null := by
  induction fields with
  | nil => rfl
  | cons m rest ih =>
      obtain ⟨k, v⟩ := m
      by_cases hk : k = key
      · simp only [only, get] at ih
        simp [only, get, get?, hk, h, ih]
      · simp only [only, get] at ih
        simp [only, get, hk, ih]

end Fields

/-! ## What is entered -/

namespace Sidebar

/-- One of the filters. -/
inductive Entry where
  | location | species | service | tags
deriving DecidableEq, Repr

namespace Entry

def key : Entry → Text
  | .location => "location_text"
  | .species => "species_text"
  | .service => "service_filter"
  | .tags => "tag_filters"

def all : List Entry := [.location, .species, .service, .tags]

theorem mem_all (e : Entry) : e ∈ all := by cases e <;> decide

theorem key_ne {e e' : Entry} (h : e ≠ e') : e.key ≠ e'.key := by
  revert h
  cases e <;> cases e' <;> decide

/-- What a filter with a value in it asks of a context. -/
def asks (v : Value) (ctx : Context) : Entry → Bool
  | .location => v.given?.all (isAt ctx)
  | .species => v.given?.all fun t => anyMentions ctx.species t.lower
  | .service => v.given?.all fun t =>
      t = anyService || anyMentions ctx.services (t.replace (code '_') (code ' ')).lower
  | .tags => v.words.isEmpty || ctx.tags.words.any v.words.elem

/-- What can be entered into a filter without anything being asked for: what
does not count as given, the choice of all services, and no tag. -/
inductive Idle : Entry → Value → Prop where
  | notGiven {e : Entry} {v : Value} (h : v.isTruthy = false) : Idle e v
  | anyService {v : Value} (h : v.given? = some Sidebar.anyService) : Idle .service v
  | noTag {v : Value} (h : ∀ tag ∈ v.items, tag.isNull = true) : Idle .tags v

/-- An idle filter excludes nothing. -/
theorem asks_of_idle {e : Entry} {v : Value} (h : e.Idle v) (ctx : Context) :
    e.asks v ctx = true := by
  cases h with
  | notGiven h =>
      have hnone := Value.given?_eq_none_iff.2 h
      have hwords := Value.words_of_not_given h
      cases e <;> simp [asks, hnone, hwords]
  | anyService h => simp [asks, h]
  | noTag h => simp [asks, Value.words_eq_nil_iff.2 h]

/-- Nothing is known of the context of an object without members, so a filter
that asks for something excludes it. -/
theorem asks_blank_iff {e : Entry} {v : Value} :
    e.asks v (.ofFields []) = true ↔ e.Idle v := by
  refine ⟨fun h => ?_, fun h => asks_of_idle h _⟩
  cases hv : v.isTruthy with
  | false => exact .notGiven hv
  | true =>
      have hgiven := Value.given?_of_truthy hv
      cases e with
      | location =>
          rw [asks, hgiven] at h
          cases h
      | species =>
          rw [asks, hgiven] at h
          cases h
      | service =>
          rw [asks, hgiven] at h
          change (decide (v.describe = Sidebar.anyService) || false) = true at h
          rw [Bool.or_false, decide_eq_true_eq] at h
          exact .anyService (hgiven.trans (congrArg some h))
      | tags =>
          change (v.words.isEmpty || false) = true at h
          rw [Bool.or_false, List.isEmpty_iff] at h
          exact .noTag (Value.words_eq_nil_iff.1 h)

/-- One of the tags is enough, as long as there is one in either part. -/
theorem asks_tags_append {A B : List Value} (hA : ∃ tag ∈ A, tag.isNull = false)
    (hB : ∃ tag ∈ B, tag.isNull = false) (ctx : Context) :
    asks (.list (A ++ B)) ctx .tags = (asks (.list A) ctx .tags || asks (.list B) ctx .tags) := by
  have hsome : ∀ {C : List Value}, (∃ tag ∈ C, tag.isNull = false) →
      (Value.list C).words.isEmpty = false := by
    rintro C ⟨tag, htag, hgiven⟩
    refine List.isEmpty_eq_false_iff.2 fun hnil => ?_
    rw [Value.words_eq_nil_iff.1 hnil tag htag] at hgiven
    cases hgiven
  have hboth : (Value.list (A ++ B)).words.isEmpty = false := by
    obtain ⟨tag, htag, hgiven⟩ := hA
    exact hsome ⟨tag, List.mem_append_left B htag, hgiven⟩
  simp only [asks, hboth, hsome hA, hsome hB, Bool.false_or]
  rw [Value.words_append, Bool.eq_iff_iff]
  simp only [List.any_eq_true, Bool.or_eq_true, List.elem_eq_mem, decide_eq_true_eq,
    List.mem_append, and_or_left, exists_or]

end Entry

/-! ## The sidebar taken apart -/

/-- Whether a context passes the filters in an object's members. -/
def passes (filters : Fields) (ctx : Context) : Bool := (ofFields filters).accepts ctx

/-- Each filter reads its own member, and all of them have to let the context
pass. -/
theorem passes_eq_asks (filters : Fields) (ctx : Context) :
    passes filters ctx = Entry.all.all fun e => e.asks (filters.get e.key) ctx := by
  have hspecies : (ofFields filters).species.all (anyMentions ctx.species)
      = Entry.asks (filters.get "species_text") ctx .species := by
    simp only [ofFields, Entry.asks]
    cases hv : (filters.get "species_text").isTruthy with
    | false =>
        rw [Value.given?_eq_none_iff.2 hv]
        rfl
    | true =>
        rw [Value.given?_of_truthy hv]
        simp [Text.lower_ne_nil (Value.describe_ne_nil hv)]
  have hservice : (ofFields filters).service.all (anyMentions ctx.services)
      = Entry.asks (filters.get "service_filter") ctx .service := by
    simp only [ofFields, Entry.asks]
    cases hv : (filters.get "service_filter").isTruthy with
    | false =>
        rw [Value.given?_eq_none_iff.2 hv]
        rfl
    | true =>
        rw [Value.given?_of_truthy hv]
        by_cases hany : (filters.get "service_filter").describe = anyService <;> simp [hany]
  rw [passes, accepts, hspecies, hservice]
  simp only [Entry.all, List.all_cons, List.all_nil, Bool.and_true, Bool.and_assoc]
  rfl

/-- An object whose other filters are not there asks what its one filter
does. -/
theorem passes_only (filters : Fields) (e : Entry) (ctx : Context) :
    passes (filters.only e.key) ctx = e.asks (filters.get e.key) ctx := by
  have hothers : ∀ e' ∈ Entry.all, e' ≠ e →
      e'.asks ((filters.only e.key).get e'.key) ctx = true := by
    intro e' _ hne
    rw [Fields.get_only_of_ne (Entry.key_ne (Ne.symm hne))]
    exact Entry.asks_of_idle (.notGiven rfl) ctx
  rw [passes_eq_asks, Bool.eq_iff_iff, List.all_eq_true]
  constructor
  · intro h
    rw [← Fields.get_only_self]
    exact h e e.mem_all
  · intro h e' he'
    by_cases heq : e' = e
    · subst heq
      rwa [Fields.get_only_self]
    · exact hothers e' he' heq

/-- **The sidebar, filter by filter.** A context passes exactly if it passes each
of the filters alone. -/
theorem passes_eq_all (filters : Fields) (ctx : Context) :
    passes filters ctx = Entry.all.all fun e => passes (filters.only e.key) ctx := by
  simp only [passes_only]
  exact passes_eq_asks filters ctx

/-- The filters that exclude no context are the idle ones. -/
theorem passes_only_iff {filters : Fields} {e : Entry} :
    (∀ ctx, passes (filters.only e.key) ctx = true) ↔ e.Idle (filters.get e.key) := by
  simp only [passes_only]
  exact ⟨fun h => Entry.asks_blank_iff.1 (h _), fun h ctx => Entry.asks_of_idle h ctx⟩

/-- A longer list of tags lets pass what one of its parts does. -/
theorem passes_put_tags_append (filters : Fields) {A B : List Value}
    (hA : ∃ tag ∈ A, tag.isNull = false) (hB : ∃ tag ∈ B, tag.isNull = false) (ctx : Context) :
    passes (filters.put "tag_filters" (.list (A ++ B))) ctx
      = (passes (filters.put "tag_filters" (.list A)) ctx
          || passes (filters.put "tag_filters" (.list B)) ctx) := by
  have hput : ∀ C : List Value, passes (filters.put "tag_filters" (.list C)) ctx
      = ((Entry.all.filter (· ≠ .tags)).all (fun e => e.asks (filters.get e.key) ctx)
          && Entry.asks (.list C) ctx .tags) := by
    intro C
    have htags : (filters.put "tag_filters" (.list C)).get (Entry.key .tags) = .list C :=
      Fields.get_put_self ..
    have hrest : ∀ e : Entry, e ≠ .tags →
        (filters.put "tag_filters" (.list C)).get e.key = filters.get e.key :=
      fun e he => Fields.get_put_of_ne (Entry.key_ne (Ne.symm he)) ..
    rw [passes_eq_asks]
    simp [Entry.all, htags, hrest, Bool.and_assoc]
  rw [hput, hput, hput, Entry.asks_tags_append hA hB, Bool.and_or_distrib_left]

theorem admitsValue_object (filters ctx : Fields) :
    admitsValue (.object filters) (.object ctx) = .ok (passes filters (.ofFields ctx)) := by
  rw [admitsValue, ofValue_object]
  exact acceptsValue_object _ ctx

/-- With nothing else entered, one filter decides. -/
theorem admitsValue_of_idle {filters : Fields} {e : Entry}
    (hidle : ∀ e' : Entry, e' ≠ e → e'.Idle (filters.get e'.key)) (ctx : Fields) :
    admitsValue (.object filters) (.object ctx)
      = .ok (e.asks (filters.get e.key) (.ofFields ctx)) := by
  rw [admitsValue_object, passes_eq_asks, Except.ok.injEq, Bool.eq_iff_iff, List.all_eq_true]
  refine ⟨fun h => h e e.mem_all, fun h e' _ => ?_⟩
  by_cases heq : e' = e
  · exact heq ▸ h
  · exact Entry.asks_of_idle (hidle e' heq) _

/-- **The filters are independent.** Whatever is entered, there is an answer for
every object taken as a context. It is the conjunction of the answers that the
filters give one by one; a filter excludes no context exactly if it is idle; and
a list of tags in two parts, with a tag in each, lets pass what the one part or
the other does. -/
theorem filters_independent :
    (∀ filters ctx : Fields,
        admitsValue (.object filters) (.object ctx) = .ok (passes filters (.ofFields ctx)))
      ∧ (∀ (filters : Fields) (ctx : Context),
        passes filters ctx = Entry.all.all fun e => passes (filters.only e.key) ctx)
      ∧ (∀ (filters : Fields) (e : Entry),
        (∀ ctx, passes (filters.only e.key) ctx = true) ↔ e.Idle (filters.get e.key))
      ∧ ∀ (filters : Fields) (A B : List Value) (ctx : Context),
        (∃ tag ∈ A, tag.isNull = false) → (∃ tag ∈ B, tag.isNull = false) →
        passes (filters.put "tag_filters" (.list (A ++ B))) ctx
          = (passes (filters.put "tag_filters" (.list A)) ctx
              || passes (filters.put "tag_filters" (.list B)) ctx) :=
  ⟨admitsValue_object, passes_eq_all, fun _ _ => passes_only_iff,
    fun filters _ _ ctx hA hB => passes_put_tags_append filters hA hB ctx⟩

/-- A number in the location box, and three filters that are idle: one holds
what does not count as given, one the choice of all services, and one no
tag. -/
def zipEntered : Fields :=
  [("location_text", .int 941), ("species_text", .bool false), ("service_filter", .text "any"),
    ("tag_filters", .list [.null])]

/-- A context in the region with that number, tagged with a number too. -/
def missionStreet : Fields :=
  [("zip", .text "94110"), ("species", .int 5), ("tags", .list [.text "HOA", .null, .int 3])]

/-- The idle filters change nothing, and of two tags the second is there. -/
theorem zipEntered_independent :
    Entry.Idle .species (zipEntered.get "species_text")
      ∧ Entry.Idle .service (zipEntered.get "service_filter")
      ∧ Entry.Idle .tags (zipEntered.get "tag_filters")
      ∧ ¬ Entry.Idle .location (zipEntered.get "location_text")
      ∧ admitsValue (.object zipEntered) (.object missionStreet) = .ok true
      ∧ admitsValue (.object (zipEntered.put "tag_filters" (.list [.text "VIP", .null, .int 3])))
          (.object missionStreet) = .ok true
      ∧ admitsValue (.object (zipEntered.put "tag_filters" (.list [.text "VIP"])))
          (.object missionStreet) = .ok false := by
  obtain ⟨hanswer, hall, hidle, htags⟩ := filters_independent
  have hspecies : Entry.Idle .species (zipEntered.get "species_text") := .notGiven rfl
  have hservice : Entry.Idle .service (zipEntered.get "service_filter") := .anyService rfl
  have htag : Entry.Idle .tags (zipEntered.get "tag_filters") := by
    refine .noTag fun tag htag => ?_
    obtain rfl := List.mem_singleton.1 htag
    rfl
  refine ⟨hspecies, hservice, htag, ?_, ?_, ?_, ?_⟩
  · intro hlocation
    have := (hidle zipEntered .location).2 hlocation (.ofFields [])
    exact absurd this (by decide)
  · rw [hanswer, hall]
    refine congrArg Except.ok (List.all_eq_true.2 fun e _ => ?_)
    cases e with
    | location => rfl
    | species => exact (hidle _ _).2 hspecies _
    | service => exact (hidle _ _).2 hservice _
    | tags => exact (hidle _ _).2 htag _
  · have hparts := htags zipEntered [.text "VIP"] [.null, .int 3] (.ofFields missionStreet)
      ⟨_, List.mem_singleton_self _, rfl⟩ ⟨.int 3, by simp, rfl⟩
    rw [hanswer]
    exact congrArg Except.ok (hparts.trans rfl)
  · rw [hanswer]
    rfl

end Sidebar

end Audience
