import Audience.Proofs.Coercions
import Audience.Proofs.Order
import Mathlib.Data.List.Forall2

/-!
# Criteria that ask for nothing

A segment may hold criteria that are not understood: entries that are no
objects, and objects about an attribute that no rule is about. They must not
hide records, and neither may what is saved with a criterion beside its field
and its value. So a list of criteria can be padded (`PaddedWith`): criteria that
are not understood put in anywhere, and others given another id, label or
operator.

Padding is followed through everything that is done with the list. Both times
the induction is on the padding, with one case for a criterion put in and one
for a criterion kept:

- the criteria are read (`PaddedWith.each`). One put in is always read, to a
  rule that is not known, so that what fails is what failed before;
- the rules are evaluated (`PaddedWith.all`). A rule that is not known lets the
  evaluation go on.

`Attempt.Alike` is how the two lists are compared in between: the same failure,
or results that are related. Passes and loops over lists whose items are related
end alike (`Attempt.Alike.each`, `Attempt.Alike.foldlM`).
-/

namespace Audience

/-! ## Attempts that end alike -/

namespace Attempt

variable {α β γ δ : Type} {r : α → β → Prop} {s : γ → δ → Prop}

/-- Two attempts end in the same failure, or with results that are related. -/
inductive Alike (r : α → β → Prop) : Attempt α → Attempt β → Prop where
  | failed (failure : Failure) : Alike r (.error failure) (.error failure)
  | ended {a : α} {b : β} (h : r a b) : Alike r (.ok a) (.ok b)

theorem Alike.cases {x : Attempt α} {y : Attempt β} (h : Alike r x y) :
    (∃ failure, x = .error failure ∧ y = .error failure)
      ∨ ∃ a b, x = .ok a ∧ y = .ok b ∧ r a b := by
  cases h with
  | failed failure => exact .inl ⟨failure, rfl, rfl⟩
  | ended h => exact .inr ⟨_, _, rfl, rfl, h⟩

theorem Alike.refl (x : Attempt α) : Alike Eq x x := by
  cases x with
  | error failure => exact .failed failure
  | ok a => exact .ended rfl

theorem Alike.of_eq {r : α → α → Prop} {x y : Attempt α} (h : x = y) (hr : ∀ a, r a a) :
    Alike r x y := by
  subst h
  cases x with
  | error failure => exact .failed failure
  | ok a => exact .ended (hr a)

theorem Alike.eq {x y : Attempt α} (h : Alike Eq x y) : x = y := by
  cases h with
  | failed failure => rfl
  | ended h => rw [h]

theorem Alike.bind {x : Attempt α} {y : Attempt β} {f : α → Attempt γ} {g : β → Attempt δ}
    (h : Alike r x y) (hfg : ∀ a b, r a b → Alike s (f a) (g b)) :
    Alike s (x >>= f) (y >>= g) := by
  cases h with
  | failed failure => exact .failed failure
  | ended h => exact hfg _ _ h

/-- A first step that is the same on both sides. -/
theorem Alike.after {f : α → Attempt γ} {g : α → Attempt δ} (x : Attempt α)
    (hfg : ∀ a, Alike s (f a) (g a)) : Alike s (x >>= f) (x >>= g) := by
  refine (Alike.refl x).bind fun a b hab => ?_
  rw [← hab]
  exact hfg a

theorem Alike.map {x : Attempt α} {y : Attempt β} {f : α → γ} {g : β → δ} (h : Alike r x y)
    (hfg : ∀ a b, r a b → s (f a) (g b)) : Alike s (x.map f) (y.map g) := by
  cases h with
  | failed failure => exact .failed failure
  | ended h => exact .ended (hfg _ _ h)

/-- Passes over lists whose items are related. -/
theorem Alike.each {f : α → Attempt γ} {g : β → Attempt δ} {l : List α} {m : List β}
    (h : List.Forall₂ r l m) (hfg : ∀ a b, r a b → Alike s (f a) (g b)) :
    Alike (List.Forall₂ s) (Attempt.each f l) (Attempt.each g m) := by
  induction h with
  | nil => exact .ended .nil
  | cons hab _ ih =>
      rw [Attempt.each, Attempt.each]
      rcases (hfg _ _ hab).cases with ⟨failure, ha, hb⟩ | ⟨c, d, ha, hb, hcd⟩
      · rw [ha, hb]
        exact .failed failure
      · rw [ha, hb]
        exact ih.map fun _ _ => .cons hcd

/-- Loops over lists whose items are related: a relation between the states that
every step keeps is kept by the whole loop. -/
theorem Alike.foldlM {f : γ → α → Attempt γ} {g : δ → β → Attempt δ} {l : List α} {m : List β}
    (h : List.Forall₂ r l m)
    (hstep : ∀ c d a b, s c d → r a b → Alike s (f c a) (g d b)) {c : γ} {d : δ} (hcd : s c d) :
    Alike s (l.foldlM f c) (m.foldlM g d) := by
  induction h generalizing c d with
  | nil => exact .ended hcd
  | cons hab _ ih =>
      rw [List.foldlM_cons, List.foldlM_cons]
      exact (hstep _ _ _ _ hcd hab).bind fun _ _ hnext => ih hnext

end Attempt

/-! ## Padded lists -/

/-- The second list is the first with idle items put in, and items that are
related to its own in their place. -/
inductive PaddedWith {α β : Type} (idle : β → Prop) (r : α → β → Prop) :
    List α → List β → Prop where
  | nil : PaddedWith idle r [] []
  | insert {b : β} {l : List α} {m : List β} (hb : idle b) (h : PaddedWith idle r l m) :
      PaddedWith idle r l (b :: m)
  | keep {a : α} {b : β} {l : List α} {m : List β} (hab : r a b) (h : PaddedWith idle r l m) :
      PaddedWith idle r (a :: l) (b :: m)

namespace PaddedWith

variable {α β γ δ : Type} {idle : β → Prop} {r : α → β → Prop} {idle' : δ → Prop}
  {s : γ → δ → Prop} {l : List α} {m : List β}

/-- Results of padded lists are padded, if no idle item fails. -/
theorem each {f : α → Attempt γ} {g : β → Attempt δ} (h : PaddedWith idle r l m)
    (hidle : ∀ b, idle b → ∃ d, g b = .ok d ∧ idle' d)
    (hr : ∀ a b, r a b → Attempt.Alike s (f a) (g b)) :
    Attempt.Alike (PaddedWith idle' s) (Attempt.each f l) (Attempt.each g m) := by
  induction h with
  | nil => exact .ended .nil
  | insert hb h ih =>
      obtain ⟨d, hd, hidle'⟩ := hidle _ hb
      rw [Attempt.each, hd]
      rcases ih.cases with ⟨failure, hl, hm⟩ | ⟨cs, ds, hl, hm, hpadded⟩
      · rw [hl, hm]
        exact .failed failure
      · rw [hl, hm]
        exact .ended (.insert hidle' hpadded)
  | keep hab h ih =>
      rw [Attempt.each, Attempt.each]
      rcases (hr _ _ hab).cases with ⟨failure, ha, hb⟩ | ⟨c, d, ha, hb, hcd⟩
      · rw [ha, hb]
        exact .failed failure
      · rw [ha, hb]
        exact ih.map fun _ _ => .keep hcd

/-- Tests in a row are padded with tests that are passed. -/
theorem all {p : α → Attempt Bool} {q : β → Attempt Bool} (h : PaddedWith idle r l m)
    (hidle : ∀ b, idle b → q b = .ok true) (hr : ∀ a b, r a b → p a = q b) :
    Attempt.all p l = Attempt.all q m := by
  induction h with
  | nil => rfl
  | insert hb h ih =>
      rw [Attempt.all_cons, hidle _ hb, ih]
      rfl
  | keep hab h ih => rw [Attempt.all_cons, Attempt.all_cons, hr _ _ hab, ih]

theorem refl {idle : α → Prop} {r : α → α → Prop} (hr : ∀ a, r a a) (l : List α) :
    PaddedWith idle r l l := by
  induction l with
  | nil => exact .nil
  | cons a rest ih => exact .keep (hr a) ih

/-- An idle item can be put in anywhere. -/
theorem insert_at {idle : α → Prop} {r : α → α → Prop} (hr : ∀ a, r a a) {a : α} (ha : idle a)
    (before after : List α) : PaddedWith idle r (before ++ after) (before ++ a :: after) := by
  induction before with
  | nil => exact .insert ha (refl hr after)
  | cons b rest ih => exact .keep (hr b) ih

end PaddedWith

/-! ## Criteria that are not understood -/

theorem Rule.exists_of_not_isKnown {rule : Rule} (h : ¬ rule.IsKnown) :
    ∃ field, rule = .unknown field := by
  cases rule with
  | unknown field => exact ⟨field, rfl⟩
  | _ => exact absurd (fun _ => Rule.noConfusion) h

/-- The members are the same but for those under some keys. -/
def Fields.SameBut (keys : List Text) (fields fields' : Fields) : Prop :=
  ∀ key, key ∉ keys → fields.get key = fields'.get key

theorem Fields.sameBut_put {keys : List Text} {key : Text} (h : key ∈ keys) (fields : Fields)
    (v : Value) : SameBut keys fields (fields.put key v) := by
  intro other hother
  have hne : key ≠ other := by
    rintro rfl
    exact hother h
  exact (get_put_of_ne hne fields v).symm

/-- Setting a member in two ways. -/
theorem Fields.sameBut_put_put {keys : List Text} {key : Text} (h : key ∈ keys) (fields : Fields)
    (v v' : Value) : SameBut keys (fields.put key v) (fields.put key v') := by
  intro other hother
  rw [← sameBut_put h fields v other hother, ← sameBut_put h fields v' other hother]

/-- Values that are related where a member is set to them are related to each
other under every key. -/
theorem Fields.get_put_related {r : Value → Value → Prop} (hr : ∀ v, r v v) (fields : Fields)
    (key : Text) {v v' : Value} (h : r v v') (other : Text) :
    r ((fields.put key v).get other) ((fields.put key v').get other) := by
  by_cases heq : key = other
  · subst heq
    rwa [get_put_self, get_put_self]
  · rw [get_put_of_ne heq, get_put_of_ne heq]
    exact hr _

theorem Fields.SameBut.mono {keys keys' : List Text} {fields fields' : Fields}
    (h : SameBut keys fields fields') (hkeys : keys ⊆ keys') : SameBut keys' fields fields' :=
  fun key hkey => h key fun hmem => hkey (hkeys hmem)

theorem Fields.SameBut.trans {keys : List Text} {fields₁ fields₂ fields₃ : Fields}
    (h : SameBut keys fields₁ fields₂) (h' : SameBut keys fields₂ fields₃) :
    SameBut keys fields₁ fields₃ := fun key hkey => (h key hkey).trans (h' key hkey)

namespace Criterion

/-- A criterion that is no object, or one about an attribute that no rule is
about. -/
def IsInert (v : Value) : Prop :=
  ∀ fields, v = .object fields → memberText fields "field" ∉ Rule.readers.map Prod.fst

/-- The same criterion under another id, label or operator. -/
inductive Renamed : Value → Value → Prop where
  | refl (v : Value) : Renamed v v
  | object {fields fields' : Fields}
      (h : Fields.SameBut ["id", "label", "operator"] fields fields') :
      Renamed (.object fields) (.object fields')

/-- Two criteria with the same rule. -/
def SameRule (c c' : Criterion) : Prop := c.rule = c'.rule

theorem IsInert.ofValue {v : Value} (h : IsInert v) :
    ∃ c, ofValue v = .ok c ∧ ¬ c.rule.IsKnown := by
  obtain ⟨c, hc⟩ : ∃ c, Criterion.ofValue v = .ok c := by
    refine exists_ofValue_ok_iff.2 ?_
    rintro ⟨fields, hfields, ⟨hword, -⟩ | ⟨hword, -⟩⟩
    · exact h fields hfields (hword ▸ by decide)
    · exact h fields hfields (hword ▸ by decide)
  refine ⟨c, hc, fun hknown => ?_⟩
  have hword := (about_of_ofValue hc).2.1 hknown
  cases v with
  | object fields =>
      obtain ⟨rule, -, heq⟩ := Attempt.bind_eq_ok_iff.1 hc
      cases heq
      exact h fields rfl hword
  | _ =>
      cases hc
      exact absurd hword (by decide)

/-- A criterion under other names is read to the same rule, if it is read. -/
theorem Renamed.ofValue {v v' : Value} (h : Renamed v v') :
    Attempt.Alike SameRule (ofValue v) (ofValue v') := by
  cases h with
  | refl => exact .of_eq rfl fun _ => rfl
  | @object fields fields' h =>
      have hfield : memberText fields "field" = memberText fields' "field" := by
        rw [memberText, h _ (by decide), memberText]
      have hvalue : fields.get "value" = fields'.get "value" := h _ (by decide)
      simp only [Criterion.ofValue, hfield, hvalue]
      exact .after _ fun rule => .ended rfl

end Criterion

/-! ## Padded segments -/

/-- Two segments that accept the same contexts and hold the same tags. -/
structure Segment.SameAudience (s s' : Option Segment) : Prop where
  accepts : ∀ ctx, acceptedBy s ctx = acceptedBy s' ctx
  sampleTags : s.map Segment.sampleTags = s'.map Segment.sampleTags

theorem Segment.sameAudience_of_padded {s s' : Segment}
    (hcriteria : PaddedWith (fun c => ¬ c.rule.IsKnown) Criterion.SameRule s.criteria s'.criteria)
    (htags : s.sampleTags = s'.sampleTags) : SameAudience (some s) (some s') where
  accepts ctx := by
    refine hcriteria.all (fun c hc => ?_) fun c c' hsame => by rw [hsame]
    obtain ⟨field, hrule⟩ := Rule.exists_of_not_isKnown hc
    rw [hrule, Rule.holds]
  sampleTags := congrArg some htags

/-- A saved segment is read with its criteria padded, or fails as it did. -/
theorem Segment.ofValue_of_padded {fields fields' : Fields}
    (hcriteria : PaddedWith Criterion.IsInert Criterion.Renamed
      (fields.get "criteria").items (fields'.get "criteria").items)
    (hrest : Fields.SameBut ["criteria"] fields fields') :
    Attempt.Alike (fun s s' => SameAudience (some s) (some s'))
      (ofValue (.object fields)) (ofValue (.object fields')) := by
  have hcount : fields.get "audienceCount" = fields'.get "audienceCount" := hrest _ (by decide)
  have htags : fields.get "sampleTags" = fields'.get "sampleTags" := hrest _ (by decide)
  have hread := hcriteria.each (fun _ hinert => hinert.ofValue)
    fun _ _ hrenamed => hrenamed.ofValue
  simp only [ofValue, hcount, htags]
  refine .after _ fun count => hread.bind fun cs cs' hpadded => .after _ fun tags => .ended ?_
  exact sameAudience_of_padded hpadded rfl

namespace Selection

/-- Two selections of a segment, the criteria of the second padded with some that
are not understood and saved under other names: the items of the saved object,
or the criteria as they were read. -/
inductive Padded : Selection → Selection → Prop where
  | saved {fields fields' : Fields}
      (hcriteria : PaddedWith Criterion.IsInert Criterion.Renamed
        (fields.get "criteria").items (fields'.get "criteria").items)
      (hrest : Fields.SameBut ["criteria"] fields fields') :
      Padded (.saved (.object fields)) (.saved (.object fields'))
  | read {s : Segment} {criteria : List Criterion}
      (hcriteria : PaddedWith (fun c => ¬ c.rule.IsKnown) Criterion.SameRule s.criteria criteria) :
      Padded (.read s) (.read { s with criteria })

variable {a b : Selection}

theorem Padded.resolve (h : a.Padded b) :
    Attempt.Alike Segment.SameAudience a.resolve b.resolve := by
  cases h with
  | read hcriteria => exact .ended (Segment.sameAudience_of_padded hcriteria rfl)
  | saved hcriteria hrest =>
      exact (Segment.ofValue_of_padded hcriteria hrest).map fun _ _ hsame => hsame

/-- A criterion that is not understood can be put in anywhere. -/
theorem padded_insert {fields : Fields} (before after : List Value) {v : Value}
    (hcriteria : fields.get "criteria" = .list (before ++ after)) (hv : Criterion.IsInert v) :
    (saved (.object fields)).Padded
      (.saved (.object (fields.put "criteria" (.list (before ++ v :: after))))) := by
  refine .saved ?_ (Fields.sameBut_put List.mem_cons_self fields _)
  rw [hcriteria, Fields.get_put_self]
  exact .insert_at .refl hv before after

end Selection

variable {a b : Selection}

theorem Controls.filter_of_alike (h : Attempt.Alike Segment.SameAudience a.resolve b.resolve)
    (controls : Controls) (kind records clients : Value) :
    (controls.withSegment a).filter kind records clients
      = (controls.withSegment b).filter kind records clients := by
  have hadmits : ∀ s s', Segment.SameAudience s s' →
      admits s controls.filters = admits s' controls.filters := by
    intro s s' hsame
    funext ctx
    rw [admits_eq_both, admits_eq_both, hsame.accepts]
  refine Attempt.Alike.eq (.after _ fun records => .after _ fun known => ?_)
  cases known with
  | none => exact .ended rfl
  | some kind =>
      refine .after _ fun index => h.bind fun s s' hsame => ?_
      simp only [withSegment, hadmits s s' hsame]
      exact .refl _

theorem Preview.of_alike (h : Attempt.Alike Segment.SameAudience a.resolve b.resolve)
    (records kind clients : Value) (size : Option Int) :
    Preview.of a records kind clients size = Preview.of b records kind clients size := by
  refine Attempt.Alike.eq (.after _ fun index => h.bind fun s s' hsame => ?_)
  have haccepts : Segment.acceptedBy s = Segment.acceptedBy s' := funext hsame.accepts
  rw [haccepts, hsame.sampleTags]
  exact .refl _

/-- **Inert criteria.** If criteria that are not understood are put into a segment
anywhere, and criteria are given other ids, labels or operators, then every
filter with the segment and every preview of it is what it was, failures
included. -/
theorem Selection.padding_inert (h : a.Padded b) (records kind clients : Value) :
    (∀ controls : Controls, (controls.withSegment b).filter kind records clients
        = (controls.withSegment a).filter kind records clients)
      ∧ ∀ size : Option Int, Preview.of b records kind clients size
        = Preview.of a records kind clients size :=
  ⟨fun controls => (controls.filter_of_alike h.resolve kind records clients).symm,
    fun size => (Preview.of_alike h.resolve records kind clients size).symm⟩

namespace Controls

/-- The members of `californian`, under another id and with an operator. -/
def renamedCalifornian : Fields :=
  Fields.put (Fields.put californian.fields "id" (.int 7)) "operator" (.text "not")

/-- A criterion whose field is a list, and so none that is known. -/
def listedState : Fields := [("field", .list [.text "state"]), ("value", .text "NV")]

/-- The Californians once more, between a text and a criterion that is not
understood. -/
def paddedCalifornian : List Value := [.text "soon", .object renamedCalifornian, .object listedState]

/-- A criterion about the lifetime value with a bound beyond the doubles. -/
def boundless : Value :=
  .object [("field", .text "lifetimeValue"), ("value", .int (.ofNat (Nat.pow 10 400)))]

/-- The padded segment shows the same clients, and what cannot be read cannot be
read behind a text either. -/
theorem paddedCalifornian_inert :
    (only [californian]).segment.Padded (only paddedCalifornian).segment
      ∧ ((only [californian]).withSegment (only paddedCalifornian).segment).filter (.text "client")
          (.list coastClients) .null = .ok [coastClients[0], coastClients[3]]
      ∧ Preview.of (only paddedCalifornian).segment (.list coastClients) (.text "client") .null none
          = Preview.of (only [californian]).segment (.list coastClients) (.text "client") .null
              none
      ∧ Preview.of (only [.text "soon", boundless]).segment (.list coastClients) (.text "client")
          .null none = .error .amountTooLarge := by
  have htext : Criterion.IsInert (.text "soon") := fun _ h => nomatch h
  have hlisted : Criterion.IsInert (.object listedState) := by
    rintro _ ⟨⟩
    decide
  have hrenamed : Criterion.Renamed californian (.object renamedCalifornian) :=
    .object ((Fields.sameBut_put (by decide) _ _).trans (Fields.sameBut_put (by decide) _ _))
  have hpadded : (only [californian]).segment.Padded (only paddedCalifornian).segment :=
    .saved (.insert htext (.keep hrenamed (.insert hlisted .nil)))
      (Fields.sameBut_put List.mem_cons_self [("criteria", .list [californian])] _)
  obtain ⟨hfilter, hpreview⟩ :=
    Selection.padding_inert hpadded (.list coastClients) (.text "client") .null
  have hfails : Preview.of (only [boundless]).segment (.list coastClients) (.text "client") .null
      none = .error .amountTooLarge := Attempt.failure?_eq_some_iff.1 (by decide +kernel)
  have hbehind : (only [boundless]).segment.Padded (only [.text "soon", boundless]).segment :=
    Selection.padded_insert [] [boundless] rfl htext
  refine ⟨hpadded, (hfilter _).trans ?_, hpreview none, ?_⟩
  · rfl
  · rw [← hfails]
    exact (Selection.padding_inert hbehind _ _ _).2 none

end Controls

end Audience
