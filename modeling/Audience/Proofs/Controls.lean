import Audience.Filtering
import Audience.Proofs.Limits

/-!
# Controls, record by record

The filter pipeline is one test applied to every record. `Controls.passes`
is that test - the segment, then the sidebar, then the search, each looked
at only if the record got so far - and `filter_eq_keep` says that the
pipeline keeps the records that pass it.

The test is nearly always decided. The failures come from three places:

- a criterion about the lifetime value or the last interaction that meets a
  value beyond the limits of `Audience.Proofs.Limits`
  (`Rule.NoAnswer`), and only if the criteria before it are satisfied
  (`Segment.NoAnswer`);
- sidebar filters that are no object, once a record belongs to the segment
  (`Sidebar.Unreadable`);
- nothing else: projection and search have an answer for every value.
-/

namespace Audience

variable {failure : Failure}

/-! ## Criteria -/

/-- The rule has no answer on the context. -/
def Rule.NoAnswer (ctx : Context) (failure : Failure) : Rule → Prop
  | .lifetimeRange .. | .lifetimeMinimum .. =>
      ctx.lifetimeValue.AmountOverflows ∧ failure = .amountTooLarge
  | .lastInteraction .. => ctx.lastInteraction.DateOverflows ∧ failure = .dateOutOfRange
  | _ => False

theorem Rule.lifetime_eq_error_iff {ctx : Context} :
    lifetime ctx = .error failure ↔
      ctx.lifetimeValue.AmountOverflows ∧ failure = .amountTooLarge := by
  rw [lifetime]
  split
  · rename_i hnull
    have hsmall : ¬ ctx.lifetimeValue.AmountOverflows := by
      rintro ⟨i, hi, -⟩
      rw [hi] at hnull
      cases hnull
    simp [hsmall]
  · exact Value.toAmount_eq_error_iff

/-- One case per kind of rule: seven kinds have an answer on every context,
and the others read one attribute. -/
theorem Rule.holds_eq_error_iff {ctx : Context} {rule : Rule} :
    rule.holds ctx = .error failure ↔ rule.NoAnswer ctx failure := by
  cases rule with
  | lifetimeRange minimum maximum =>
      rw [holds, Attempt.map_eq_error_iff, lifetime_eq_error_iff, NoAnswer]
  | lifetimeMinimum minimum =>
      rw [holds, Attempt.map_eq_error_iff, lifetime_eq_error_iff, NoAnswer]
  | lastInteraction since =>
      rw [holds, Attempt.map_eq_error_iff, Value.toInstant?_eq_error_iff, NoAnswer]
  | zip start => simp [holds, NoAnswer]
  | city fragment => simp [holds, NoAnswer]
  | state name => simp [holds, NoAnswer]
  | membership trait oneOf => simp [holds, NoAnswer]
  | status oneOf => simp [holds, NoAnswer]
  | clientType oneOf => simp [holds, NoAnswer]
  | unknown field => simp [holds, NoAnswer]

/-- Only two attributes of a context can leave a rule without an answer. -/
theorem Rule.overflows_of_noAnswer {ctx : Context} {rule : Rule}
    (h : rule.NoAnswer ctx failure) :
    ctx.lifetimeValue.AmountOverflows ∨ ctx.lastInteraction.DateOverflows := by
  cases rule with
  | lifetimeRange minimum maximum => exact .inl h.1
  | lifetimeMinimum minimum => exact .inl h.1
  | lastInteraction since => exact .inr h.1
  | zip _ | city _ | state _ | membership _ _ | status _ | clientType _ | unknown _ => exact h.elim

namespace Segment

/-- One of the criteria has no answer on the context, and all before it are
satisfied. -/
def NoAnswer (s : Segment) (ctx : Context) (failure : Failure) : Prop :=
  ∃ before c after, s.criteria = before ++ c :: after
    ∧ (∀ b ∈ before, b.rule.holds ctx = .ok true) ∧ c.rule.NoAnswer ctx failure

theorem accepts_eq_error_iff {s : Segment} {ctx : Context} :
    s.accepts ctx = .error failure ↔ s.NoAnswer ctx failure := by
  simp only [accepts, NoAnswer, Attempt.all_eq_error_iff, Rule.holds_eq_error_iff]

theorem acceptedBy_eq_error_iff {segment : Option Segment} {ctx : Context} :
    acceptedBy segment ctx = .error failure ↔
      ∃ s, segment = some s ∧ s.NoAnswer ctx failure := by
  cases segment with
  | none => simp [acceptedBy]
  | some s => simp [acceptedBy, accepts_eq_error_iff]

end Segment

/-- Whether a context belongs to the segment of a selection, which is read
first. -/
def Selection.accepts (selection : Selection) (ctx : Context) : Attempt Bool := do
  Segment.acceptedBy (← selection.resolve) ctx

theorem Selection.accepts_of_resolve {selection : Selection} {segment : Option Segment}
    (h : selection.resolve = .ok segment) (ctx : Context) :
    selection.accepts ctx = Segment.acceptedBy segment ctx := by
  rw [accepts, h]
  rfl

/-! ## The sidebar -/

namespace Sidebar

/-- Filters that count as given but are no object. -/
def Unreadable (filters : Value) : Prop := filters.isTruthy = true ∧ filters.fields? = none

theorem ofValue_eq_error_iff {filters : Value} :
    ofValue filters = .error failure ↔
      Unreadable filters ∧ failure = .noLookup filters.shape := by
  unfold ofValue Unreadable
  split
  · rename_i hgiven
    rw [Attempt.map_eq_error_iff]
    cases filters <;> simp [Value.lookup, Value.fields?, hgiven, eq_comm]
  · rename_i hgiven
    simp [hgiven]

/-- Whether a context passes the filters in a value, which are read first. -/
def admitsBy (filters : Value) (ctx : Context) : Attempt Bool :=
  (ofValue filters).map fun sidebar => sidebar.accepts ctx

theorem admitsBy_eq_error_iff {filters : Value} {ctx : Context} :
    admitsBy filters ctx = .error failure ↔
      Unreadable filters ∧ failure = .noLookup filters.shape := by
  rw [admitsBy, Attempt.map_eq_error_iff, ofValue_eq_error_iff]

end Sidebar

/-! ## The whole test -/

theorem Kind.named?_eq_some_iff {v : Value} {kind : Kind} :
    named? v = some kind ↔ v = .text kind.name := by
  constructor
  · intro h
    have hname := List.find?_some h
    cases v with
    | text t =>
        rw [Value.isText, decide_eq_true_eq] at hname
        rw [hname]
    | null => cases hname
    | bool b => cases hname
    | int i => cases hname
    | real x => cases hname
    | list items => cases hname
    | object fields => cases hname
  · rintro rfl
    cases kind <;> rfl

theorem Kind.ofValue_text (word : Text) : ofValue (.text word) = .ok (named? (.text word)) := rfl

theorem Kind.ofValue_of_named {v : Value} {kind : Kind} (h : named? v = some kind) :
    ofValue v = .ok (some kind) := by
  obtain rfl := named?_eq_some_iff.1 h
  rw [ofValue_text, h]

theorem ClientIndex.ofValue_eq {clients : Value} (h : clients.IsListOrNull) :
    ofValue clients = .ok (ofList clients.items) := by
  rw [ofValue, Value.elementsOrNone_eq h, Except.map]

namespace Controls

theorem admits_eq_both (segment : Option Segment) (filters : Value) (ctx : Context) :
    admits segment filters ctx
      = Attempt.both (Segment.acceptedBy segment ctx) (Sidebar.admitsBy filters ctx) := by
  rw [admits, Sidebar.admitsBy]
  cases hs : Segment.acceptedBy segment ctx with
  | error failure => rfl
  | ok b =>
      cases b with
      | false => rfl
      | true => cases Sidebar.ofValue filters <;> rfl

/-- Whether a record passes the controls: the segment, the sidebar and the
search, in this order. -/
def passes (controls : Controls) (kind : Kind) (index : ClientIndex) (record : Value) :
    Attempt Bool :=
  let ctx := Context.ofRecord (some kind) index record
  Attempt.all id [controls.segment.accepts ctx, Sidebar.admitsBy controls.filters ctx,
    .ok (Search.finds (some kind) controls.search record)]

theorem passes_eq_both (controls : Controls) (kind : Kind) (index : ClientIndex)
    (record : Value) :
    controls.passes kind index record
      = Attempt.both
          (Attempt.both (controls.segment.accepts (Context.ofRecord (some kind) index record))
            (Sidebar.admitsBy controls.filters (Context.ofRecord (some kind) index record)))
          (.ok (Search.finds (some kind) controls.search record)) := by
  simp only [passes, Attempt.all_cons, id, Attempt.both_assoc]
  rw [show Attempt.all id [] = .ok true from rfl, Attempt.both_true]

/-- What the pipeline asks of one record, once the kind, the clients and the
segment have been read. Of a record of no known kind it asks nothing. -/
def test (controls : Controls) (kind clients : Value) : Attempt (Value → Attempt Bool) := do
  match ← Kind.ofValue kind with
  | none => return fun _ => .ok true
  | some kind =>
      let index ← ClientIndex.ofValue clients
      let _ ← controls.segment.resolve
      return controls.passes kind index

/-- **The pipeline, record by record.** Filtering keeps the records that pass
one test, and fails on the first of them that has no answer. -/
theorem filter_eq_keep (controls : Controls) (kind : Value) (records : List Value)
    (clients : Value) :
    controls.filter kind (.list records) clients
      = (controls.test kind clients >>= fun test => Attempt.keep test records) := by
  rw [filter, test, Value.elementsOrNone_eq (Value.isListOrNull_list records), Value.items_list]
  simp only [bind, Except.bind]
  cases Kind.ofValue kind with
  | error failure => rfl
  | ok known =>
      cases known with
      | none => exact (Attempt.keep_eq_self records).symm
      | some kind =>
          cases ClientIndex.ofValue clients with
          | error failure => rfl
          | ok index =>
              cases hsegment : controls.segment.resolve with
              | error failure => rfl
              | ok segment =>
                  -- the search comes after the loop, as a filter on what the loop has kept
                  have htest : controls.passes kind index = fun record => Attempt.both
                      (admits segment controls.filters (Context.ofRecord (some kind) index record))
                      (.ok (Search.finds (some kind) controls.search record)) := by
                    funext record
                    rw [passes_eq_both, admits_eq_both, Selection.accepts_of_resolve hsegment]
                  change _ = Attempt.keep (controls.passes kind index) records
                  rw [htest, ← Attempt.map_filter_keep]
                  dsimp only
                  cases Attempt.keep _ records <;> rfl

section Test

variable {controls : Controls} {kind : Kind} {clients : Value} {records shown : List Value}

theorem test_of_parts {v : Value} (hkind : Kind.ofValue v = .ok (some kind))
    {index : ClientIndex} (hindex : ClientIndex.ofValue clients = .ok index)
    {segment : Option Segment} (hsegment : controls.segment.resolve = .ok segment) :
    controls.test v clients = .ok (controls.passes kind index) := by
  rw [test, hkind, hindex, hsegment]
  rfl

/-- There is a test of records of no known kind, and of others if the clients
and the segment can be read. -/
theorem test_cases {v : Value} {test : Value → Attempt Bool}
    (h : controls.test v clients = .ok test) :
    (Kind.ofValue v = .ok none ∧ test = fun _ => .ok true)
      ∨ ∃ kind index segment, Kind.ofValue v = .ok (some kind)
          ∧ ClientIndex.ofValue clients = .ok index ∧ controls.segment.resolve = .ok segment
          ∧ test = controls.passes kind index := by
  rw [Controls.test, Attempt.bind_eq_ok_iff] at h
  obtain ⟨known, hkind, h⟩ := h
  cases known with
  | none =>
      cases h
      exact .inl ⟨hkind, rfl⟩
  | some kind =>
      simp only [Attempt.bind_eq_ok_iff] at h
      obtain ⟨index, hindex, segment, hsegment, h⟩ := h
      cases h
      exact .inr ⟨kind, index, segment, hkind, hindex, hsegment, rfl⟩

theorem test_of_resolve {segment : Option Segment}
    (hsegment : controls.segment.resolve = .ok segment) {v : Value}
    (hkind : Kind.named? v = some kind) (hclients : clients.IsListOrNull) :
    controls.test v clients = .ok (controls.passes kind (.ofList clients.items)) :=
  test_of_parts (Kind.ofValue_of_named hkind) (ClientIndex.ofValue_eq hclients) hsegment

theorem filter_of_resolve_error {v : Value} (hkind : Kind.ofValue v = .ok (some kind))
    {index : ClientIndex} (hindex : ClientIndex.ofValue clients = .ok index)
    (hsegment : controls.segment.resolve = .error failure) (records : List Value) :
    controls.filter v (.list records) clients = .error failure := by
  rw [filter_eq_keep, test, hkind, hindex, hsegment]
  rfl

theorem resolve_of_test {v : Value} {test : Value → Attempt Bool}
    (h : controls.test v clients = .ok test) (hkind : Kind.named? v = some kind) :
    ∃ segment, controls.segment.resolve = .ok segment := by
  rcases test_cases h with ⟨hnone, -⟩ | ⟨_, _, segment, -, -, hsegment, -⟩
  · rw [Kind.ofValue_of_named hkind] at hnone
    cases hnone
  · exact ⟨segment, hsegment⟩

theorem filter_of_test {v : Value} {test : Value → Attempt Bool}
    (h : controls.test v clients = .ok test) (records : List Value) :
    controls.filter v (.list records) clients = Attempt.keep test records := by
  rw [filter_eq_keep, h]
  rfl

/-- Records of no known kind are not looked at. -/
theorem filter_of_unknown (controls : Controls) {word : Text}
    (hkind : Kind.named? (.text word) = none) (records : List Value) (clients : Value) :
    controls.filter (.text word) (.list records) clients = .ok records := by
  have htest : controls.test (.text word) clients = .ok fun _ => .ok true := by
    rw [test, Kind.ofValue_text, hkind]
    rfl
  rw [filter_of_test htest, Attempt.keep_eq_self]

/-- What is shown is what passes one test. -/
theorem filter_eq_ok_iff {v : Value} :
    controls.filter v (.list records) clients = .ok shown ↔
      ∃ test, controls.test v clients = .ok test ∧ Attempt.keep test records = .ok shown := by
  rw [filter_eq_keep, Attempt.bind_eq_ok_iff]

theorem filter_sublist {v : Value} (h : controls.filter v (.list records) clients = .ok shown) :
    shown.Sublist records := by
  obtain ⟨test, -, hkeep⟩ := filter_eq_ok_iff.1 h
  exact Attempt.keep_sublist hkeep

end Test

/-! ## When the test has no answer -/

/-- A record that the controls cannot be decided on: a criterion it reaches
has no answer, or it reaches filters that cannot be read. -/
def NoAnswer (controls : Controls) (segment : Option Segment) (ctx : Context) : Prop :=
  (∃ s failure, segment = some s ∧ s.NoAnswer ctx failure)
    ∨ Segment.acceptedBy segment ctx = .ok true ∧ Sidebar.Unreadable controls.filters

theorem exists_passes_ok_iff {controls : Controls} {segment : Option Segment}
    (hsegment : controls.segment.resolve = .ok segment) {kind : Kind} {index : ClientIndex}
    {record : Value} :
    (∃ b, controls.passes kind index record = .ok b) ↔
      ¬ controls.NoAnswer segment (Context.ofRecord (some kind) index record) := by
  have hsidebar : (∃ b, Sidebar.admitsBy controls.filters
        (Context.ofRecord (some kind) index record) = .ok b) ↔
      ¬ Sidebar.Unreadable controls.filters := by
    simp [Attempt.exists_ok_iff, Sidebar.admitsBy_eq_error_iff]
  have haccepted : (∃ b, Segment.acceptedBy segment
        (Context.ofRecord (some kind) index record) = .ok b) ↔
      ¬ ∃ s failure, segment = some s
        ∧ s.NoAnswer (Context.ofRecord (some kind) index record) failure := by
    rw [Attempt.exists_ok_iff]
    simp only [ne_eq, Segment.acceptedBy_eq_error_iff, not_exists]
    exact forall_comm
  rw [passes_eq_both, Selection.accepts_of_resolve hsegment, Attempt.exists_both_ok_iff,
    Attempt.exists_both_ok_iff, hsidebar, haccepted, NoAnswer, not_or, not_and]
  simp

end Controls

end Audience
