import Audience.Proofs.Locations
import Audience.Search

/-!
# Finding a text where it occurs

The search box, the criterion about the city and the sidebar's species box look for one
text in another, both in lower case. A part of a text has the same lowercase form as the
text has there, but for one letter: the capital sigma becomes a final sigma where a word
ends, and only the whole text tells where that is. `lowerWithin` is the form that a part
takes between what stands before and after it, and `lowerWithin_eq_iff` says when two
surroundings give the same one: each sigma has to end a word in both or in neither.

`StandsIn` is an occurrence in which that is so for the text alone. Every text without
a capital sigma occurs in this way (`standsIn_of_no_sigma`), and so do whole words
(`standsIn_of_whole`). What stands in a text is found in it (`contains_lower`). A text
that breaks off inside a word need not be.
-/

namespace Audience

namespace Text

/-- The capital letter whose lowercase form depends on its neighbours. -/
def capitalSigma : Nat := 0x3A3

/-- Whether the last character that is not looked through has case. -/
def inWordAfter (before : Text) : Bool :=
  before.foldl (fun inWord c => if isCaseIgnorable c then inWord else isCased c) false

/-- Whether a letter that stands between two texts ends a word. -/
def endsWord (before after : Text) : Bool := inWordAfter before && !continuesWord after

/-- The lowercase form of a text that stands between two others. -/
def lowerWithin (before after : Text) : Text → Text
  | [] => []
  | c :: rest =>
    (if c = capitalSigma then [if endsWord before (rest ++ after) then 0x3C2 else 0x3C3]
      else Lowercase.ofCodePoint c)
    ++ lowerWithin (before ++ [c]) after rest

variable {before after before' after' t s : Text}

/-! ## The parts of a lowercase text -/

theorem inWordAfter_concat (before : Text) (c : Nat) :
    inWordAfter (before ++ [c])
      = if isCaseIgnorable c then inWordAfter before else isCased c := by
  rw [inWordAfter, List.foldl_append]
  rfl

/-- Lowercasing takes a text off the front of another. -/
theorem lowerFrom_append (before t after : Text) :
    lowerFrom (inWordAfter before) (t ++ after)
      = lowerWithin before after t ++ lowerFrom (inWordAfter (before ++ t)) after := by
  induction t generalizing before with
  | nil => simp [lowerWithin]
  | cons c rest ih =>
      rw [List.cons_append, lowerFrom, ← inWordAfter_concat, ih, lowerWithin, List.append_assoc,
        List.append_assoc]
      rfl

theorem lower_eq_lowerWithin (t : Text) : t.lower = lowerWithin [] [] t := by
  have hfront := lowerFrom_append [] t []
  rwa [List.append_nil, lowerFrom, List.append_nil] at hfront

/-- The lowercase form of a text holds those of its parts, each as it is there. -/
theorem lowerWithin_occurs (before t after : Text) :
    lowerWithin before after t <:+: (before ++ t ++ after).lower := by
  have hfront : (before ++ t ++ after).lower
      = lowerWithin [] (t ++ after) before ++ lowerFrom (inWordAfter before) (t ++ after) := by
    rw [List.append_assoc]
    exact lowerFrom_append [] before (t ++ after)
  rw [hfront, lowerFrom_append, ← List.append_assoc]
  exact List.infix_append ..

/-- Two surroundings give a text the same form exactly if each capital sigma of it ends
a word in both or in neither. The induction moves what has been read to the text
before. -/
theorem lowerWithin_eq_iff :
    lowerWithin before after t = lowerWithin before' after' t ↔
      ∀ x y, t = x ++ capitalSigma :: y →
        endsWord (before ++ x) (y ++ after) = endsWord (before' ++ x) (y ++ after') := by
  induction t generalizing before before' with
  | nil => simp [lowerWithin]
  | cons c rest ih =>
      have hsplit : (∀ x y, c :: rest = x ++ capitalSigma :: y →
            endsWord (before ++ x) (y ++ after) = endsWord (before' ++ x) (y ++ after')) ↔
          (c = capitalSigma →
            endsWord before (rest ++ after) = endsWord before' (rest ++ after'))
          ∧ lowerWithin (before ++ [c]) after rest = lowerWithin (before' ++ [c]) after' rest := by
        rw [ih]
        constructor
        · intro h
          refine ⟨fun hc => ?_, fun x y hrest => ?_⟩
          · simpa using h [] rest (by rw [hc, List.nil_append])
          · simpa using h (c :: x) y (by rw [hrest, List.cons_append])
        · rintro ⟨hhead, htail⟩ x y heq
          cases x with
          | nil =>
              obtain ⟨rfl, rfl⟩ := List.cons.inj heq
              simpa using hhead rfl
          | cons d x =>
              obtain ⟨rfl, hrest⟩ := List.cons.inj heq
              simpa using htail x y hrest
      rw [hsplit, lowerWithin, lowerWithin]
      by_cases hc : c = capitalSigma
      · rw [if_pos hc, if_pos hc, List.cons_append, List.cons_append, List.nil_append,
          List.nil_append, List.cons.injEq]
        refine and_congr ⟨fun h _ => ?_, fun h => by rw [h hc]⟩ Iff.rfl
        revert h
        cases endsWord before (rest ++ after) <;> cases endsWord before' (rest ++ after') <;> simp
      · rw [if_neg hc, if_neg hc, List.append_cancel_left_eq]
        exact ⟨fun h => ⟨fun h' => absurd h' hc, h⟩, And.right⟩

/-! ## Occurrences that keep their form -/

/-- A text occurs in another one, and each of its capital sigmas ends a word there
exactly if it does so in the text alone. -/
def StandsIn (t s : Text) : Prop :=
  ∃ before after, s = before ++ t ++ after ∧ ∀ x y, t = x ++ capitalSigma :: y →
    endsWord (before ++ x) (y ++ after) = endsWord x y

theorem standsIn_of_no_sigma (h : t <:+: s) (hsigma : capitalSigma ∉ t) : t.StandsIn s := by
  obtain ⟨before, after, rfl⟩ := h
  refine ⟨before, after, rfl, fun x y heq => absurd ?_ hsigma⟩
  rw [heq]
  exact List.mem_append_right x List.mem_cons_self

theorem inWordAfter_append (hbefore : inWordAfter before = false) (x : Text) :
    inWordAfter (before ++ x) = inWordAfter x := by
  unfold inWordAfter at hbefore ⊢
  rw [List.foldl_append, hbefore]

theorem continuesWord_append (hafter : continuesWord after = false) (y : Text) :
    continuesWord (y ++ after) = continuesWord y := by
  induction y with
  | nil => exact hafter
  | cons c rest ih => rw [List.cons_append, continuesWord, continuesWord, ih]

/-- Whole words keep their form. -/
theorem standsIn_of_whole (hbefore : inWordAfter before = false)
    (hafter : continuesWord after = false) (t : Text) : t.StandsIn (before ++ t ++ after) := by
  refine ⟨before, after, rfl, fun x y _ => ?_⟩
  rw [endsWord, endsWord, inWordAfter_append hbefore, continuesWord_append hafter]

theorem lower_occurs (h : t.StandsIn s) : t.lower <:+: s.lower := by
  obtain ⟨before, after, rfl, hsigmas⟩ := h
  have hform : lowerWithin before after t = t.lower := by
    rw [lower_eq_lowerWithin, lowerWithin_eq_iff]
    simpa using hsigmas
  rw [← hform]
  exact lowerWithin_occurs before t after

theorem contains_lower (h : t.StandsIn s) : s.lower.contains t.lower = true :=
  contains_iff.2 (lower_occurs h)

end Text

/-! ## Finding what stands in a text -/

namespace Search

open Text (StandsIn capitalSigma inWordAfter continuesWord)

variable {kind : Option Kind} {t s longer : Text} {record : Value} {ctx : Fields}

/-- A term finds an object in which a displayed text has it in lower case. -/
theorem finds_text_iff (ht : t ≠ []) :
    finds kind (.text t) record = true ↔ ∃ fields s, record = .object fields
      ∧ .text s ∈ displayed kind fields ∧ t.lower <:+: s.lower := by
  have hgiven : (Value.text t).isTruthy = true := by simpa [Value.isTruthy]
  cases record with
  | object fields =>
      simp only [finds, hgiven, List.any_eq_true, Value.object.injEq, exists_and_left,
        exists_eq_left']
      constructor
      · rintro ⟨v, hv, htext⟩
        cases v with
        | text s => exact ⟨s, hv, Text.contains_iff.1 htext⟩
        | _ => cases htext
      · rintro ⟨s, hs, hpart⟩
        exact ⟨.text s, hs, Text.contains_iff.2 hpart⟩
  | _ => simp [finds, hgiven]

theorem finds_of_standsIn {fields : Fields} (hshown : .text s ∈ displayed kind fields)
    (h : t.StandsIn s) : finds kind (.text t) (.object fields) = true := by
  by_cases ht : t = []
  · subst ht
    rfl
  · exact (finds_text_iff ht).2 ⟨fields, s, rfl, hshown, Text.lower_occurs h⟩

/-- A term that stands in a longer one finds whatever that finds. -/
theorem finds_of_longer (h : t.StandsIn longer) (hfound : finds kind (.text longer) record = true) :
    finds kind (.text t) record = true := by
  by_cases ht : t = []
  · subst ht
    rfl
  · have hlonger : longer ≠ [] := by
      rintro rfl
      obtain ⟨before, after, heq, -⟩ := h
      simp [ht] at heq
    obtain ⟨fields, s, hrecord, hs, hpart⟩ := (finds_text_iff hlonger).1 hfound
    exact (finds_text_iff ht).2 ⟨fields, s, hrecord, hs, (Text.lower_occurs h).trans hpart⟩

theorem accepts_city_of_standsIn (hcity : (ctx.get "city").given? = some s)
    (h : t.StandsIn s) : Place.city.accepts t (.ofFields ctx) = true :=
  Place.accepts_iff.2 ⟨s, hcity, Text.contains_lower h⟩

theorem asks_species_of_standsIn (hspecies : s ∈ (ctx.get "species").words) (h : t.StandsIn s) :
    Sidebar.Entry.asks (.text t) (.ofFields ctx) .species = true := by
  by_cases ht : t = []
  · subst ht
    exact Sidebar.Entry.asks_of_idle (.notGiven rfl) _
  · rw [Sidebar.Entry.asks, Value.given?_text ht]
    exact List.any_eq_true.2 ⟨s, hspecies, Text.contains_lower h⟩

/-- **What occurs is found.** A text stands in every text in which it occurs if it has
no capital sigma, and wherever it occurs as whole words. A term that stands in a
displayed field finds the record, a criterion about the city accepts a context in whose
city its text stands, and the species box one in one of whose species it stands. If a
term stands in a longer one, the longer one finds nothing that the term does not. -/
theorem occurrence_found (t : Text) :
    (∀ s : Text, t <:+: s → capitalSigma ∉ t → t.StandsIn s)
      ∧ (∀ before after : Text, inWordAfter before = false → continuesWord after = false →
        t.StandsIn (before ++ t ++ after))
      ∧ (∀ (kind : Kind) (record : Fields) (s : Text), .text s ∈ displayed (some kind) record →
        t.StandsIn s → finds (some kind) (.text t) (.object record) = true)
      ∧ (∀ (criterion ctx : Fields) (s : Text),
        Criterion.memberText criterion "field" = Text.ofString "city" →
        criterion.get "value" = .text t → (ctx.get "city").given? = some s → t.StandsIn s →
        Criterion.holdsFor (.object criterion) (.object ctx) = .ok true)
      ∧ (∀ (filters ctx : Fields) (s : Text), filters.get "species_text" = .text t →
        (∀ e : Sidebar.Entry, e ≠ .species → e.Idle (filters.get e.key)) →
        s ∈ (ctx.get "species").words → t.StandsIn s →
        Sidebar.admitsValue (.object filters) (.object ctx) = .ok true)
      ∧ (∀ (kind : Kind) (record : Value) (longer : Text), t.StandsIn longer →
        finds (some kind) (.text t) record = false →
        finds (some kind) (.text longer) record = false) := by
  refine ⟨fun _ => Text.standsIn_of_no_sigma,
    fun _ _ hbefore hafter => Text.standsIn_of_whole hbefore hafter t,
    fun _ _ _ => finds_of_standsIn, ?_, ?_, ?_⟩
  · intro criterion ctx s hfield hvalue hcity h
    rw [Place.holdsFor_object (p := .city) hfield hvalue, accepts_city_of_standsIn hcity h]
  · intro filters ctx s hentered hidle hspecies h
    have hbox : filters.get (Sidebar.Entry.key .species) = .text t := hentered
    rw [Sidebar.admitsValue_of_idle hidle, hbox, asks_species_of_standsIn hspecies h]
  · intro kind record longer h hhidden
    refine Bool.eq_false_iff.2 fun hfound => ?_
    rw [finds_of_longer h hfound] at hhidden
    cases hhidden

/-- A client whose name begins with a word that ends in a sigma. -/
def thomasAndSons : Fields := [("companyName", .text "ΘΩΜΑΣ & ΥΙΟΙ")]

/-- The whole word is found, and hides nothing that more of the name would bring
back. -/
theorem thomasAndSons_found :
    Text.StandsIn "ΘΩΜΑΣ" "ΘΩΜΑΣ & ΥΙΟΙ"
      ∧ finds (some .client) (.text "ΘΩΜΑΣ") (.object thomasAndSons) = true
      ∧ Criterion.holdsFor (.object (Place.asksFor .city "ΘΩΜΑΣ"))
          (.object [("city", .text "ΘΩΜΑΣ & ΥΙΟΙ")]) = .ok true := by
  obtain ⟨-, hwhole, hfinds, hcity, -, -⟩ := occurrence_found "ΘΩΜΑΣ"
  have hstands : Text.StandsIn "ΘΩΜΑΣ" "ΘΩΜΑΣ & ΥΙΟΙ" :=
    hwhole [] " & ΥΙΟΙ" rfl (by decide +kernel)
  exact ⟨hstands, hfinds .client thomasAndSons _ List.mem_cons_self hstands,
    hcity _ _ _ rfl rfl rfl hstands⟩

/-- A part of a word that ends in a sigma is not found in the word, although one letter
more is. -/
theorem innerSigma_not_found :
    Text.ofString "ΘΩΜΑΣ" <:+: Text.ofString "ΘΩΜΑΣΙΔΗΣ"
      ∧ finds (some .client) (.text "ΘΩΜΑΣ") (.object [("companyName", .text "ΘΩΜΑΣΙΔΗΣ")]) = false
      ∧ finds (some .client) (.text "ΘΩΜΑΣΙ") (.object [("companyName", .text "ΘΩΜΑΣΙΔΗΣ")]) = true
      ∧ Criterion.holdsFor (.object (Place.asksFor .city "ΘΩΜΑΣ"))
          (.object [("city", .text "ΘΩΜΑΣΙΔΗΣ")]) = .ok false
      ∧ Sidebar.admitsValue (.object [("species_text", .text "ΘΩΜΑΣ")])
          (.object [("species", .list [.text "ΘΩΜΑΣΙΔΗΣ"])]) = .ok false := by
  decide +kernel

end Search

end Audience
