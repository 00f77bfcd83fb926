import Audience.Proofs.Coercions
import Audience.Proofs.Order

/-!
# When the filter has no answer

The filter looks at every record through a context, ten kinds of rules, a
sidebar and a search, and only two members of a record can stop it: its worth,
if that is an integer beyond the doubles, and its last change, if that is a
date off the calendar. Neither does so by itself. A criterion has to ask for
it, and all criteria before that one have to be satisfied
(`Segment.StumblesOver`).

`Controls.filter_eq_error_iff` says so for segments that can be read. The first
record that the segment stumbles over ends the pass, and which of the two
failures it is depends on that record alone. A segment that cannot be read ends
the pass before any record (`filter_fails_iff`).
-/

namespace Audience

variable {failure : Failure}

/-! ## Criteria that ask for one of the two -/

namespace Rule

/-- The rule is about the attribute that a word stands for. -/
def IsAbout (rule : Rule) (word : Text) : Prop := rule.about = word ∧ rule.IsKnown

/-- A rule has no answer only if it is about one of two attributes. One case per
kind of rule. -/
theorem noAnswer_iff {ctx : Context} {rule : Rule} :
    rule.NoAnswer ctx failure ↔
      (rule.IsAbout "lifetimeValue" ∧ ctx.lifetimeValue.AmountOverflows
          ∧ failure = .amountTooLarge)
        ∨ rule.IsAbout "lastInteraction" ∧ ctx.lastInteraction.DateOverflows
          ∧ failure = .dateOutOfRange := by
  have hwords : Text.ofString "lifetimeValue" ≠ Text.ofString "lastInteraction" := by decide
  have hneither : ∀ word : Text, rule.about = word →
      word ≠ Text.ofString "lifetimeValue" ∧ word ≠ Text.ofString "lastInteraction" →
      ¬ rule.IsAbout "lifetimeValue" ∧ ¬ rule.IsAbout "lastInteraction" := by
    rintro word rfl ⟨hamount, hdate⟩
    exact ⟨fun h => hamount h.1, fun h => hdate h.1⟩
  cases rule with
  | lifetimeRange minimum maximum => simp [NoAnswer, IsAbout, about, IsKnown, hwords]
  | lifetimeMinimum minimum => simp [NoAnswer, IsAbout, about, IsKnown, hwords]
  | lastInteraction since => simp [NoAnswer, IsAbout, about, IsKnown, hwords.symm]
  | zip start => simp [NoAnswer, hneither "zip" rfl (by decide)]
  | city fragment => simp [NoAnswer, hneither "city" rfl (by decide)]
  | state name => simp [NoAnswer, hneither "state" rfl (by decide)]
  | membership trait oneOf =>
      cases trait with
      | tag => simp [NoAnswer, hneither "tag" rfl (by decide)]
      | service => simp [NoAnswer, hneither "service" rfl (by decide)]
      | species => simp [NoAnswer, hneither "species" rfl (by decide)]
  | status oneOf => simp [NoAnswer, hneither "status" rfl (by decide)]
  | clientType oneOf => simp [NoAnswer, hneither "clientType" rfl (by decide)]
  | unknown word => simp [NoAnswer, IsAbout, IsKnown]

end Rule

namespace Criterion

variable {c : Criterion} {kind : Kind} {index : ClientIndex} {record : Value}

/-- Of a criterion that was read, the word for the attribute stands in its
field. -/
theorem isAbout_iff_field {v : Value} (h : ofValue v = .ok c) {word : Text}
    (hword : word ∈ Rule.readers.map Prod.fst) : c.rule.IsAbout word ↔ c.field = word := by
  obtain ⟨habout, hknown⟩ := about_of_ofValue h
  rw [Rule.IsAbout, habout, hknown]
  constructor
  · exact fun h => h.1
  · rintro rfl
    exact ⟨rfl, hword⟩

/-- The criterion asks for the worth of a record that is an integer beyond the
doubles, or for a last change that is a date off the calendar. -/
def StumblesOver (c : Criterion) (kind : Kind) (record : Value) (failure : Failure) : Prop :=
  (c.rule.IsAbout "lifetimeValue" ∧ (record.fields.get kind.worthKey).AmountOverflows
      ∧ failure = .amountTooLarge)
    ∨ c.rule.IsAbout "lastInteraction" ∧ (record.fields.get "updatedAt").DateOverflows
      ∧ failure = .dateOutOfRange

theorem noAnswer_iff_stumblesOver :
    c.rule.NoAnswer (Context.ofRecord (some kind) index record) failure ↔
      c.StumblesOver kind record failure := by
  rw [Rule.noAnswer_iff, Context.lifetimeValue_ofRecord, Value.amountOverflows_orElse_zero,
    Context.lastInteraction_ofRecord, StumblesOver]

end Criterion

namespace Segment

variable {s : Segment} {kind : Kind} {index : ClientIndex} {record : Value}

/-- One of the criteria stumbles over the record, and all before it are
satisfied. -/
def StumblesOver (s : Segment) (kind : Kind) (index : ClientIndex) (record : Value)
    (failure : Failure) : Prop :=
  ∃ before c after, s.criteria = before ++ c :: after
    ∧ (∀ b ∈ before, b.rule.holds (Context.ofRecord (some kind) index record) = .ok true)
    ∧ c.StumblesOver kind record failure

theorem noAnswer_iff_stumblesOver :
    s.NoAnswer (Context.ofRecord (some kind) index record) failure ↔
      s.StumblesOver kind index record failure := by
  simp only [NoAnswer, StumblesOver, Criterion.noAnswer_iff_stumblesOver]

theorem overflows_of_stumblesOver (h : s.StumblesOver kind index record failure) :
    failure = .amountTooLarge ∨ failure = .dateOutOfRange := by
  obtain ⟨_, c, _, -, -, ⟨-, -, hfailure⟩ | ⟨-, -, hfailure⟩⟩ := h
  · exact .inl hfailure
  · exact .inr hfailure

/-- Criteria about other attributes stumble over nothing. -/
theorem not_stumblesOver_of_other
    (h : ∀ c ∈ s.criteria, ¬ c.rule.IsAbout "lifetimeValue" ∧ ¬ c.rule.IsAbout "lastInteraction") :
    ¬ s.StumblesOver kind index record failure := by
  rintro ⟨before, c, after, hsplit, -, hc⟩
  obtain ⟨hamount, hdate⟩ := h c (by rw [hsplit]; simp)
  rcases hc with ⟨habout, -⟩ | ⟨habout, -⟩
  · exact hamount habout
  · exact hdate habout

/-- The criteria of a saved segment were read one by one. -/
theorem exists_ofValue_of_mem {saved : Value} (h : ofValue saved = .ok s) {c : Criterion}
    (hc : c ∈ s.criteria) : ∃ v, Criterion.ofValue v = .ok c := by
  cases saved with
  | object fields =>
      obtain ⟨_, criteria, _, -, hcriteria, -, rfl⟩ := ofValue_object_eq_ok_iff.1 h
      obtain ⟨v, -, hv⟩ := (Attempt.mem_each_iff hcriteria).1 hc
      exact ⟨v, hv⟩
  | _ =>
      cases h
      cases hc

end Segment

theorem Selection.ofValue_of_resolve {v : Value} {s : Segment}
    (h : (saved v).resolve = .ok (some s)) : Segment.ofValue v = .ok s := by
  cases v with
  | null => cases h
  | object fields =>
      obtain ⟨_, hs, heq⟩ := resolve_saved_object_eq_ok_iff.1 h
      cases heq
      exact hs
  | _ =>
      cases h
      rfl

theorem Sidebar.not_unreadable {filters : Value}
    (h : filters = .null ∨ ∃ fields, filters = .object fields) : ¬ Unreadable filters := by
  rintro ⟨hgiven, hshape⟩
  rcases h with rfl | ⟨fields, rfl⟩
  · cases hgiven
  · cases hshape

/-! ## The filter -/

namespace Controls

variable {controls : Controls} {v clients : Value} {kind : Kind} {index : ClientIndex}
  {segment : Option Segment} {record : Value} {records : List Value}

theorem passes_eq_error_iff (hfilters : ¬ Sidebar.Unreadable controls.filters)
    (hsegment : controls.segment.resolve = .ok segment) :
    controls.passes kind index record = .error failure ↔
      ∃ s, segment = some s ∧ s.StumblesOver kind index record failure := by
  have hsidebar : ∃ b, Sidebar.admitsBy controls.filters
      (Context.ofRecord (some kind) index record) = .ok b := by
    rw [Attempt.exists_ok_iff]
    exact fun _ hfailure => hfilters (Sidebar.admitsBy_eq_error_iff.1 hfailure).1
  obtain ⟨b, hb⟩ := hsidebar
  rw [passes_eq_both, hb, Attempt.both_ok_eq_error_iff, Attempt.both_ok_eq_error_iff,
    Selection.accepts_of_resolve hsegment, Segment.acceptedBy_eq_error_iff]
  simp only [Segment.noAnswer_iff_stumblesOver]

/-- With a segment that can be read, the filter fails at the first record that
the segment stumbles over. -/
theorem filter_eq_error_iff (hkind : Kind.named? v = some kind) (hclients : clients.IsListOrNull)
    (hfilters : ¬ Sidebar.Unreadable controls.filters)
    (hsegment : controls.segment.resolve = .ok segment) :
    controls.filter v (.list records) clients = .error failure ↔
      ∃ s, segment = some s ∧ ∃ before record after, records = before ++ record :: after
        ∧ (∀ r ∈ before, ∀ other, ¬ s.StumblesOver kind (.ofList clients.items) r other)
        ∧ s.StumblesOver kind (.ofList clients.items) record failure := by
  rw [filter_of_test (test_of_resolve hsegment hkind hclients), Attempt.keep_eq_error_iff]
  simp only [Attempt.exists_ok_iff, ne_eq, passes_eq_error_iff hfilters hsegment]
  cases segment with
  | none => simp
  | some s => simp

theorem exists_filter_error_iff (hkind : Kind.named? v = some kind)
    (hclients : clients.IsListOrNull) (hfilters : ¬ Sidebar.Unreadable controls.filters)
    (hsegment : controls.segment.resolve = .ok segment) :
    (∃ failure, controls.filter v (.list records) clients = .error failure) ↔
      ∃ s, segment = some s ∧ ∃ record ∈ records, ∃ failure,
        s.StumblesOver kind (.ofList clients.items) record failure := by
  rw [filter_of_test (test_of_resolve hsegment hkind hclients), Attempt.exists_error_iff,
    Attempt.exists_keep_ok_iff]
  simp only [Attempt.exists_ok_iff, ne_eq, passes_eq_error_iff hfilters hsegment]
  cases segment with
  | none => simp
  | some s => simp

/-- **When the filter fails.** With filters that can be read, it fails exactly
if the segment cannot be read, or if it stumbles over one of the records: one of
its criteria is about the lifetime value and the worth of the record is an
integer beyond the doubles, or one is about the last interaction and the last
change of the record is a date off the calendar, and all criteria before it are
satisfied. In the first case the failure is that of the segment; in the second
it is one of two, and that of the first record of this kind. So without a
segment, or with one that has no criteria about these two attributes, no record
makes the filter fail. For a saved segment the attribute of a criterion is the
word in its field. -/
theorem filter_fails_iff (hkind : Kind.named? v = some kind) (hclients : clients.IsListOrNull)
    (hfilters : controls.filters = .null ∨ ∃ fields, controls.filters = .object fields) :
    (∀ records, (∃ failure, controls.filter v (.list records) clients = .error failure) ↔
        (∃ failure, controls.segment.resolve = .error failure)
          ∨ ∃ s, controls.segment.resolve = .ok (some s) ∧ ∃ record ∈ records, ∃ failure,
            s.StumblesOver kind (.ofList clients.items) record failure)
      ∧ (∀ failure, controls.segment.resolve = .error failure → ∀ records,
          controls.filter v (.list records) clients = .error failure)
      ∧ (∀ segment records failure, controls.segment.resolve = .ok segment →
          controls.filter v (.list records) clients = .error failure →
          (failure = .amountTooLarge ∨ failure = .dateOutOfRange)
            ∧ ∃ s, segment = some s ∧ ∃ before record after, records = before ++ record :: after
              ∧ (∀ r ∈ before, ∀ other, ¬ s.StumblesOver kind (.ofList clients.items) r other)
              ∧ s.StumblesOver kind (.ofList clients.items) record failure)
      ∧ (∀ segment, controls.segment.resolve = .ok segment →
          (∀ s, segment = some s → ∀ c ∈ s.criteria,
            ¬ c.rule.IsAbout "lifetimeValue" ∧ ¬ c.rule.IsAbout "lastInteraction") →
          ∀ records, ∃ shown, controls.filter v (.list records) clients = .ok shown)
      ∧ ∀ saved s, controls.segment = .saved saved → controls.segment.resolve = .ok (some s) →
          ∀ c ∈ s.criteria,
            (c.rule.IsAbout "lifetimeValue" ↔ c.field = Text.ofString "lifetimeValue")
              ∧ (c.rule.IsAbout "lastInteraction" ↔ c.field = Text.ofString "lastInteraction") := by
  have hread := Sidebar.not_unreadable hfilters
  refine ⟨fun records => ?_, fun failure hfailure records => ?_,
    fun segment records failure hsegment hfailure => ?_, fun segment hsegment hother records => ?_,
    fun saved s hsaved hsegment c hc => ?_⟩
  · cases hsegment : controls.segment.resolve with
    | error failure =>
        refine iff_of_true ⟨failure, ?_⟩ (.inl ⟨failure, rfl⟩)
        exact filter_of_resolve_error (Kind.ofValue_of_named hkind)
          (ClientIndex.ofValue_eq hclients) hsegment records
    | ok segment =>
        rw [exists_filter_error_iff hkind hclients hread hsegment]
        simp
  · exact filter_of_resolve_error (Kind.ofValue_of_named hkind) (ClientIndex.ofValue_eq hclients)
      hfailure records
  · obtain ⟨s, rfl, before, record, after, hsplit, hbefore, hrecord⟩ :=
      (filter_eq_error_iff hkind hclients hread hsegment).1 hfailure
    exact ⟨Segment.overflows_of_stumblesOver hrecord, s, rfl, before, record, after, hsplit,
      hbefore, hrecord⟩
  · rw [Attempt.exists_ok_iff]
    intro failure hfailure
    obtain ⟨s, hs, _, _, _, -, -, hrecord⟩ :=
      (filter_eq_error_iff hkind hclients hread hsegment).1 hfailure
    exact Segment.not_stumblesOver_of_other (hother s hs) hrecord
  · rw [hsaved] at hsegment
    obtain ⟨_, hc⟩ := Segment.exists_ofValue_of_mem (Selection.ofValue_of_resolve hsegment) hc
    exact ⟨Criterion.isAbout_iff_field hc (by decide),
      Criterion.isAbout_iff_field hc (by decide)⟩

def worthMuch : Value := .object [("field", .text "lifetimeValue"), ("value", .int 5000)]

/-- A client in Nevada who is worth more than any double, and one in California
whose last change is dated before the calendar begins. -/
def strayClients : List Value :=
  [.object [("billingState", .text "NV"), ("lifetimeValue", .int (.ofNat (Nat.pow 10 400)))],
    .object [("billingState", .text "CA"), ("lifetimeValue", .int 9000),
      ("updatedAt", .text "0001-01-01T00:00:00+01:00")]]

/-- Wealthy Californians who have been in touch. -/
def strayControls : Controls := only [californian, worthMuch, Selection.inTouch]

/-- The first client does not get as far as the criterion about the worth; the
second gets to the one about the date. -/
theorem strayClients_fail :
    Kind.named? (.text "client") = some .client ∧ Value.null.IsListOrNull
      ∧ strayControls.filters = .null
      ∧ ∃ s, strayControls.segment.resolve = .ok (some s)
        ∧ strayControls.filter (.text "client") (.list strayClients) .null
            = .error .dateOutOfRange
        ∧ ∃ record ∈ strayClients, s.StumblesOver .client (.ofList []) record .dateOutOfRange := by
  have hkind : Kind.named? (.text "client") = some .client := rfl
  have hclients : Value.null.IsListOrNull := .inl rfl
  have hfilters : strayControls.filters = .null := rfl
  obtain ⟨-, -, hfirst, -⟩ := filter_fails_iff hkind hclients (.inl hfilters)
  obtain ⟨segment, hsegment⟩ : ∃ segment, strayControls.segment.resolve = .ok segment :=
    Attempt.failure?_eq_none_iff.1 (by decide +kernel)
  have hfailure : strayControls.filter (.text "client") (.list strayClients) .null
      = .error .dateOutOfRange := by
    rw [← Attempt.failure?_eq_some_iff]
    decide +kernel
  obtain ⟨-, s, rfl, before, record, after, hsplit, -, hrecord⟩ :=
    hfirst segment strayClients _ hsegment hfailure
  refine ⟨hkind, hclients, hfilters, s, hsegment, hfailure, record, ?_, hrecord⟩
  rw [hsplit]
  simp

end Controls

end Audience
