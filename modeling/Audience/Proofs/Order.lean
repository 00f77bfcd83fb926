import Audience.Proofs.Interference
import Audience.Proofs.Previews
import Audience.Proofs.Quiet

/-!
# The order of criteria

The criteria of a segment are a conjunction, but one that is evaluated from
the front. `Selection.alike_iff_not_clashes` says on which contexts this can
be seen. This file carries the answer through everything that uses a segment:
the filter, the preview and the refresh.

All three decide records one by one, and the segment is the first thing that
they ask of a record. So they end alike for all orders if no criteria clash on
any of the records. If some do, one order fails, and then to end alike is to
fail in every order (`Selection.orderless_iff`). A refresh survives the failure
of its filter but leaves a message about it, and two orders may fail for
different reasons.
-/

namespace Audience

namespace Selection

variable {α : Type} {a b : Selection} {ctx : Context}

/-! ## What clashes -/

/-- Criteria clash only over amounts and dates beyond the limits. -/
theorem overflows_of_clashes (h : a.Clashes ctx) :
    ctx.lifetimeValue.AmountOverflows ∨ ctx.lastInteraction.DateOverflows := by
  obtain ⟨s, -, -, c, -, failure, hc⟩ := h
  exact Rule.overflows_of_noAnswer hc

theorem not_clashes_blank : ¬ a.Clashes Projection.blank := by
  intro h
  rcases overflows_of_clashes h with hamount | hdate
  · exact absurd hamount (by decide +kernel)
  · exact absurd hdate (by decide +kernel)

/-- Criteria clash on one of some records. -/
def ClashesAmong (a : Selection) (kind clients : Value) (records : List Value) : Prop :=
  ∃ record ∈ records, ∃ known index, Kind.ofValue kind = .ok known
    ∧ ClientIndex.ofValue clients = .ok index ∧ a.Clashes (Context.ofRecord known index record)

/-- Without a kind and clients there are no contexts to clash on. -/
theorem exists_reads_of_clashesAmong {v clients : Value} {records : List Value}
    (h : a.ClashesAmong v clients records) :
    ∃ record ∈ records, ∃ kind index, Kind.ofValue v = .ok (some kind)
      ∧ ClientIndex.ofValue clients = .ok index
      ∧ a.Clashes (Context.ofRecord (some kind) index record) := by
  obtain ⟨record, hrecord, known, index, hkind, hindex, hclash⟩ := h
  cases known with
  | none => exact absurd hclash not_clashes_blank
  | some kind => exact ⟨record, hrecord, kind, index, hkind, hindex, hclash⟩

/-- Records whose worth and last change are within the limits have nothing to
clash over. -/
theorem not_clashesAmong {v clients : Value} {kind : Kind}
    (hkind : Kind.ofValue v = .ok (some kind)) {records : List Value}
    (hamounts : ∀ record ∈ records, ¬ (record.fields.get kind.worthKey).AmountOverflows)
    (hdates : ∀ record ∈ records, ¬ (record.fields.get "updatedAt").DateOverflows) :
    ¬ a.ClashesAmong v clients records := by
  rintro ⟨record, hrecord, known, index, hknown, -, hclash⟩
  cases hkind.symm.trans hknown
  rcases overflows_of_clashes hclash with hamount | hdate
  · rw [Context.lifetimeValue_ofRecord, Value.amountOverflows_orElse_zero] at hamount
    exact hamounts record hrecord hamount
  · rw [Context.lastInteraction_ofRecord] at hdate
    exact hdates record hrecord hdate

/-! ## Uses of a selection -/

/-- A use of the selection ends alike for all orders of the criteria: with the
same result, or without one. -/
def Orderless (a : Selection) (run : Selection → Attempt α) : Prop :=
  ∀ b, a.Permuted b → (run b).toOption = (run a).toOption

/-- A use of the selection fails, however the criteria are ordered. -/
def FailsAnyhow (a : Selection) (run : Selection → Attempt α) : Prop :=
  ∀ b, a.Permuted b → ∃ failure, run b = .error failure

/-- If a clash makes one order fail and nothing else tells orders apart, then
a use is orderless just if nothing clashes, or no order gets to the end. -/
theorem orderless_iff {run : Selection → Attempt α} {clash : Prop}
    (halike : ¬ clash → a.Orderless run)
    (hfails : clash → ∃ b, a.Permuted b ∧ ∃ failure, run b = .error failure) :
    a.Orderless run ↔ ¬ clash ∨ a.FailsAnyhow run := by
  simp only [FailsAnyhow, ← Attempt.toOption_eq_none_iff] at hfails ⊢
  constructor
  · intro horderless
    by_cases hclash : clash
    · obtain ⟨b, hb, hnone⟩ := hfails hclash
      refine .inr fun c hc => ?_
      rw [horderless c hc, ← horderless b hb, hnone]
    · exact .inl hclash
  · rintro (hclash | hanyhow)
    · exact halike hclash
    · intro b hb
      rw [hanyhow b hb, hanyhow a hb.refl_left]

/-- The order that fails where criteria clash can be read. -/
theorem exists_fails_of_clashes (h : a.Clashes ctx) :
    ∃ b segment failure, a.Permuted b ∧ b.resolve = .ok segment
      ∧ b.accepts ctx = .error failure := by
  obtain ⟨-, b, hb, failure, hfailure⟩ := exists_permuted_of_clashes h
  obtain ⟨s, hs, -⟩ := h
  obtain ⟨segment, hsegment⟩ := hb.exists_resolve_iff.1 ⟨some s, hs⟩
  exact ⟨b, segment, failure, hb, hsegment, hfailure⟩

end Selection

/-! ## The filter -/

namespace Controls

variable {a : Selection} {v clients : Value} {records : List Value}

def withSegment (controls : Controls) (segment : Selection) : Controls := { controls with segment }

/-- Filtering looks at the segment only if there are a known kind and
clients. -/
theorem filter_withSegment_of_unread
    (h : ¬ ∃ kind index, Kind.ofValue v = .ok (some kind) ∧ ClientIndex.ofValue clients = .ok index)
    (controls : Controls) (b : Selection) :
    (controls.withSegment b).filter v (.list records) clients
      = controls.filter v (.list records) clients := by
  rw [filter_eq_keep, filter_eq_keep, test, test]
  cases hkind : Kind.ofValue v with
  | error failure => rfl
  | ok known =>
      cases known with
      | none => rfl
      | some kind =>
          cases hindex : ClientIndex.ofValue clients with
          | error failure => rfl
          | ok index => exact absurd ⟨kind, index, hkind, hindex⟩ h

theorem filter_withSegment_of_resolve (controls : Controls) {kind : Kind}
    (hkind : Kind.ofValue v = .ok (some kind)) {index : ClientIndex}
    (hindex : ClientIndex.ofValue clients = .ok index) {b : Selection} {segment : Option Segment}
    (hb : b.resolve = .ok segment) (records : List Value) :
    (controls.withSegment b).filter v (.list records) clients
      = Attempt.keep ((controls.withSegment b).passes kind index) records :=
  filter_of_test (test_of_parts hkind hindex hb) records

/-- Where nothing clashes the filter does not see the order. -/
theorem orderless_filter (controls : Controls) (h : ¬ a.ClashesAmong v clients records) :
    a.Orderless fun b => (controls.withSegment b).filter v (.list records) clients := by
  intro b hb
  change ((controls.withSegment b).filter v (.list records) clients).toOption
    = ((controls.withSegment a).filter v (.list records) clients).toOption
  by_cases hread : ∃ kind index, Kind.ofValue v = .ok (some kind)
      ∧ ClientIndex.ofValue clients = .ok index
  · obtain ⟨kind, index, hkind, hindex⟩ := hread
    cases ha : a.resolve with
    | error failure =>
        obtain ⟨failure', hb'⟩ := hb.resolve_error ha
        have hfails : (controls.withSegment a).filter v (.list records) clients
            = .error failure := filter_of_resolve_error hkind hindex ha records
        have hfails' : (controls.withSegment b).filter v (.list records) clients
            = .error failure' := filter_of_resolve_error hkind hindex hb' records
        rw [hfails, hfails']
        rfl
    | ok segment =>
        obtain ⟨s, criteria, rfl, hb'⟩ := hb.exists_resolve ha
        rw [filter_withSegment_of_resolve controls hkind hindex hb',
          filter_withSegment_of_resolve controls hkind hindex ha]
        refine Attempt.toOption_keep_congr fun record hrecord => ?_
        have halike := hb.alike fun hclash =>
          h ⟨record, hrecord, some kind, index, hkind, hindex, hclash⟩
        rw [passes_eq_both, passes_eq_both]
        exact Attempt.toOption_both_congr (Attempt.toOption_both_congr halike _) _
  · rw [filter_withSegment_of_unread hread, filter_withSegment_of_unread hread]

/-- Where something clashes the filter fails in one order. -/
theorem exists_filter_fails (controls : Controls) (h : a.ClashesAmong v clients records) :
    ∃ b, a.Permuted b ∧ ∃ failure,
      (controls.withSegment b).filter v (.list records) clients = .error failure := by
  obtain ⟨record, hrecord, kind, index, hkind, hindex, hclash⟩ :=
    Selection.exists_reads_of_clashesAmong h
  obtain ⟨b, segment, failure, hb, hsegment, hfails⟩ := Selection.exists_fails_of_clashes hclash
  refine ⟨b, hb, ?_⟩
  rw [filter_withSegment_of_resolve controls hkind hindex hsegment]
  have hrecordFails : (controls.withSegment b).passes kind index record = .error failure := by
    rw [passes_eq_both]
    change Attempt.both (Attempt.both (b.accepts _) _) _ = _
    rw [hfails]
    rfl
  exact Attempt.exists_keep_error hrecord hrecordFails

end Controls

/-! ## The preview -/

namespace Preview

variable {a : Selection} {selection : Selection} {segment : Option Segment} {v clients : Value}
  {index : ClientIndex} {records : List Value} {failure : Failure}

/-- The kind is looked at once for every record, so not without records. -/
theorem of_kind_error (hkind : Kind.ofValue v = .error failure)
    (hindex : ClientIndex.ofValue clients = .ok index)
    (hsegment : selection.resolve = .ok segment) (records : List Value) (size : Option Int) :
    Preview.of selection (.list records) v clients size
      = if records.isEmpty then .ok (ofReached segment none index size [])
        else .error failure := by
  rw [Preview.of, hindex, hsegment]
  cases records with
  | nil => rfl
  | cons record rest =>
      change (Attempt.each _ (record :: rest) >>= _) = _
      rw [Attempt.each, hkind]
      rfl

theorem orderless_of (h : ¬ a.ClashesAmong v clients records) (size : Option Int) :
    a.Orderless fun b => Preview.of b (.list records) v clients size := by
  intro b hb
  change (Preview.of b (.list records) v clients size).toOption
    = (Preview.of a (.list records) v clients size).toOption
  cases hindex : ClientIndex.ofValue clients with
  | error failure =>
      rw [Preview.of, Preview.of, hindex]
      rfl
  | ok index =>
      cases ha : a.resolve with
      | error failure =>
          obtain ⟨failure', hb'⟩ := hb.resolve_error ha
          rw [of_resolve_error hindex ha, of_resolve_error hindex hb']
          rfl
      | ok segment =>
          obtain ⟨s, criteria, rfl, hb'⟩ := hb.exists_resolve ha
          -- what is shown of a segment is not its criteria
          have hshown : ∀ known, ofReached (some { s with criteria }) known index size
              = ofReached (some s) known index size := fun _ => rfl
          cases hkind : Kind.ofValue v with
          | error failure =>
              rw [of_kind_error hkind hindex hb', of_kind_error hkind hindex ha, hshown]
          | ok known =>
              rw [of_eq_keep hkind hindex hb', of_eq_keep hkind hindex ha, hshown,
                Attempt.toOption_map, Attempt.toOption_map]
              congr 1
              refine Attempt.toOption_keep_congr fun record hrecord => ?_
              have halike := hb.alike fun hclash =>
                h ⟨record, hrecord, known, index, hkind, hindex, hclash⟩
              rwa [Selection.accepts_of_resolve ha, Selection.accepts_of_resolve hb'] at halike

theorem exists_of_fails (h : a.ClashesAmong v clients records) (size : Option Int) :
    ∃ b, a.Permuted b ∧ ∃ failure,
      Preview.of b (.list records) v clients size = .error failure := by
  obtain ⟨record, hrecord, known, index, hkind, hindex, hclash⟩ := h
  obtain ⟨b, segment, failure, hb, hsegment, hfails⟩ := Selection.exists_fails_of_clashes hclash
  rw [Selection.accepts_of_resolve hsegment] at hfails
  refine ⟨b, hb, ?_⟩
  simp only [of_eq_keep hkind hindex hsegment, Attempt.map_eq_error_iff]
  exact Attempt.exists_keep_error hrecord hfails

end Preview

/-! ## The refresh -/

theorem Text.startsWith_append (start t : Text) : startsWith (start ++ t) start = true :=
  startsWith_iff.2 (List.prefix_append start t)

namespace Dashboard

/-- A message tells of which pass it is. -/
theorem filter_complaint (pass other : Pass) (failure : Option Failure) :
    (complaint pass.label failure).filter (fun m => m.text?.any (·.startsWith other.label))
      = if pass = other then complaint pass.label failure else [] := by
  cases failure with
  | none => split <;> rfl
  | some failure =>
      by_cases hpass : pass = other
      · subst hpass
        rw [if_pos rfl, complaint, List.filter_cons_of_pos, List.filter_nil]
        exact Text.startsWith_append pass.label failure.message
      · rw [if_neg hpass, complaint, List.filter_cons_of_neg, List.filter_nil]
        simp [Value.text?, not_startsWith_label hpass]

end Dashboard

namespace Request

open Dashboard

variable {clock now : Instant} {r : Request} {d e : Dashboard} {b : Selection}

def withSegment (r : Request) (segment : Selection) : Request := { r with segment }

theorem isTyped_withSegment (h : r.IsTyped) (b : Selection) : (r.withSegment b).IsTyped where
  kind := h.kind
  records := h.records
  clients := h.clients
  quotes := h.quotes

/-- The message about the filter, if it cannot be applied to a list. -/
def filterMessages (r : Request) (source : List Value) : List Value :=
  complaint Pass.filter.label (Attempt.failure? (r.admitted source))

theorem filterMessages_eq_nil_iff {source : List Value} :
    r.filterMessages source = [] ↔ ∃ shown, r.admitted source = .ok shown := by
  rw [filterMessages, complaint_eq_nil_iff, Attempt.failure?_eq_none_iff]

theorem shown_of_filterMessages {source : List Value} (h : r.filterMessages source ≠ []) :
    r.shown source = [] := by
  rw [Request.shown]
  cases hadmitted : r.admitted source with
  | error failure => rfl
  | ok shown => exact absurd (filterMessages_eq_nil_iff.2 ⟨shown, hadmitted⟩) h

theorem messagesOf_leadsTab :
    (r.leadsTab now).messagesOf .filter = r.filterMessages (r.queued now) := by
  change ((complaint Pass.queue.label _ ++ complaint Pass.filter.label _)
    ++ complaint Pass.board.label _).filter _ = _
  rw [List.filter_append, List.filter_append, filter_complaint, filter_complaint, filter_complaint,
    if_neg (by decide), if_pos rfl, if_neg (by decide), List.nil_append, List.append_nil]
  rfl

theorem messagesOf_otherTab : r.otherTab.messagesOf .filter = r.filterMessages r.records.items := by
  change (complaint Pass.filter.label _).filter _ = _
  rw [filter_complaint, if_pos rfl]
  rfl

/-- On the leads tab the segment shows in the list that the filter leaves, and
in its message. -/
theorem same_leadsTab {field : Field} (hfield : field ≠ .segment)
    (hshown : (r.withSegment b).shown (r.queued now) = r.shown (r.queued now))
    (hmessages : (r.withSegment b).filterMessages (r.queued now)
      = r.filterMessages (r.queued now)) :
    ((r.withSegment b).leadsTab now).Same (r.leadsTab now) field := by
  cases field with
  | segment => exact absurd rfl hfield
  | filtered => exact congrArg (fun shown => some (Value.list shown)) hshown
  | board => exact congrArg (fun shown => some (lanes (r.board shown))) hshown
  | errors =>
      change some (Value.list (_ ++ (r.withSegment b).filterMessages (r.queued now)
        ++ complaint _ (Attempt.failure? (r.laned ((r.withSegment b).shown (r.queued now)))))) = _
      rw [hshown, hmessages]
      rfl
  | _ => rfl

theorem same_otherTab {field : Field} (hfield : field ≠ .segment)
    (hshown : (r.withSegment b).shown r.records.items = r.shown r.records.items)
    (hmessages : (r.withSegment b).filterMessages r.records.items
      = r.filterMessages r.records.items) :
    (r.withSegment b).otherTab.Same r.otherTab field := by
  cases field with
  | segment => exact absurd rfl hfield
  | filtered => exact congrArg (fun shown => some (Value.list shown)) hshown
  | errors => exact congrArg (fun messages => some (Value.list messages)) hmessages
  | _ => rfl

/-- A refresh with another segment ends as well, and differs only where the
filter differs on the records of the queue. -/
theorem exists_refresh_withSegment (h : r.IsTyped) (hd : r.refresh clock = .ok d) :
    ∃ source, d.queued = some (.list source) ∧ ∀ b, ∃ e, (r.withSegment b).refresh clock = .ok e
      ∧ e.messagesOf .filter = (r.withSegment b).filterMessages source
      ∧ ((r.withSegment b).shown source = r.shown source →
          (r.withSegment b).filterMessages source = r.filterMessages source →
          ∀ field, field ≠ .segment → e.Same d field) := by
  by_cases hkind : r.kind = .text Kind.lead.name
  · obtain ⟨now, hnow, rfl⟩ := eq_leadsTab_of_refresh h hkind hd
    refine ⟨r.queued now, rfl, fun b => ⟨(r.withSegment b).leadsTab now, ?_, ?_, ?_⟩⟩
    · exact refresh_leads (isTyped_withSegment h b) hkind hnow
    · exact messagesOf_leadsTab
    · exact fun hshown hmessages _ hfield => same_leadsTab hfield hshown hmessages
  · obtain rfl := eq_otherTab_of_refresh h hkind hd
    refine ⟨r.records.items, rfl, fun b => ⟨(r.withSegment b).otherTab, ?_, ?_, ?_⟩⟩
    · exact refresh_other (isTyped_withSegment h b) hkind
    · exact messagesOf_otherTab
    · exact fun hshown hmessages _ hfield => same_otherTab hfield hshown hmessages

/-- Whether a refresh ends at all is not up to the segment. -/
theorem refresh_withSegment_error (h : r.IsTyped) {failure : Failure}
    (hfails : r.refresh clock = .error failure) (b : Selection) :
    (r.withSegment b).refresh clock = .error failure := by
  by_cases hkind : r.kind = .text Kind.lead.name
  · rcases refresh_leads_cases clock h hkind with ⟨hnow, hfail⟩ | ⟨-, now, -, hstate⟩
    · rw [refresh_no_time (isTyped_withSegment h b) hkind hnow, ← hfail, hfails]
    · rw [hstate] at hfails
      cases hfails
  · rw [refresh_other h hkind] at hfails
    cases hfails

/-- **The order in a refresh.** If the filter leaves no message, all orders
lead to the same state exactly if no criteria clash on a record of the queue.
If it leaves one, they do exactly if all of them leave the same message. -/
theorem refresh_orderless_iff (h : r.IsTyped) (hd : r.refresh clock = .ok d) :
    (∀ b, r.segment.Permuted b → ∃ e, (r.withSegment b).refresh clock = .ok e
        ∧ ∀ field, field ≠ .segment → e.Same d field) ↔
      (d.messagesOf .filter = []
          ∧ ¬ r.segment.ClashesAmong r.kind r.clients (d.queued.getD (.list [])).items)
        ∨ (d.messagesOf .filter ≠ [] ∧ ∀ b e, r.segment.Permuted b →
            (r.withSegment b).refresh clock = .ok e →
            e.messagesOf .filter = d.messagesOf .filter) := by
  obtain ⟨source, hsource, hother⟩ := exists_refresh_withSegment h hd
  obtain ⟨d', hd', hmessages, -⟩ := hother r.segment
  cases hd.symm.trans hd'
  change d.messagesOf .filter = r.filterMessages source at hmessages
  have hclients : r.segment.ClashesAmong r.kind r.clients source ↔
      r.segment.ClashesAmong r.kind (.list r.clients.items) source := by
    rw [Selection.ClashesAmong, Selection.ClashesAmong, ClientIndex.ofValue_eq h.clients,
      ClientIndex.ofValue_eq (Value.isListOrNull_list _), Value.items_list]
  rw [hsource, Option.getD_some, Value.items_list, hclients]
  constructor
  · intro hsame
    have hequal : ∀ b e, r.segment.Permuted b → (r.withSegment b).refresh clock = .ok e →
        e.messagesOf .filter = d.messagesOf .filter := by
      intro b e hb he
      obtain ⟨e', he', hfields⟩ := hsame b hb
      cases he.symm.trans he'
      have herrors : e.errors = d.errors := hfields .errors (by decide)
      rw [messagesOf, messagesOf, herrors]
    by_cases hquiet : d.messagesOf .filter = []
    · refine .inl ⟨hquiet, fun hclash => ?_⟩
      obtain ⟨b, hb, failure, hfails⟩ := Controls.exists_filter_fails r.controls hclash
      obtain ⟨e, he, hmessages', -⟩ := hother b
      rw [hequal b e hb he, hquiet] at hmessages'
      obtain ⟨shown, hshown⟩ := filterMessages_eq_nil_iff.1 hmessages'.symm
      cases hshown.symm.trans hfails
    · exact .inr ⟨hquiet, hequal⟩
  · rintro (⟨hquiet, hnone⟩ | ⟨hloud, hequal⟩) b hb
    · obtain ⟨e, he, -, hsame⟩ := hother b
      rw [hmessages] at hquiet
      obtain ⟨shown, hshown⟩ := filterMessages_eq_nil_iff.1 hquiet
      have halike : ((r.withSegment b).admitted source).toOption = (r.admitted source).toOption :=
        Controls.orderless_filter r.controls hnone b hb
      have hshown' : (r.withSegment b).admitted source = .ok shown := by
        rw [hshown] at halike
        exact Attempt.toOption_eq_some_iff.1 halike
      refine ⟨e, he, hsame ?_ ?_⟩
      · rw [shown_of_admitted hshown, shown_of_admitted hshown']
      · rw [filterMessages, filterMessages, hshown, hshown']
    · obtain ⟨e, he, hmessages', hsame⟩ := hother b
      have hsaid := hequal b e hb he
      rw [hmessages'] at hsaid
      rw [hmessages] at hloud
      refine ⟨e, he, hsame ?_ (hsaid.trans hmessages)⟩
      rw [shown_of_filterMessages hloud, shown_of_filterMessages]
      rwa [hsaid, hmessages]

end Request

/-! ## What order changes -/

namespace Selection

/-- **When order matters.** The criteria of a selection can be put into any
order without a difference, to whether a context belongs to the segment, and
to what the filter and a preview make of records, exactly if no two of them
clash, or the use fails in every order; and to a refresh exactly if they do
not clash on a record of the queue, or every order leaves the same message. -/
theorem order_free_iff (a : Selection) :
    (∀ ctx, a.Orderless (fun b => b.accepts ctx) ↔ ¬ a.Clashes ctx)
      ∧ (∀ controls kind records clients,
          a.Orderless (fun b =>
              (Controls.withSegment controls b).filter kind (.list records) clients) ↔
            ¬ a.ClashesAmong kind clients records
              ∨ a.FailsAnyhow fun b =>
                  (Controls.withSegment controls b).filter kind (.list records) clients)
      ∧ (∀ records kind clients size,
          a.Orderless (fun b => Preview.of b (.list records) kind clients size) ↔
            ¬ a.ClashesAmong kind clients records
              ∨ a.FailsAnyhow fun b => Preview.of b (.list records) kind clients size)
      ∧ ∀ clock r, Request.IsTyped r → r.segment = a →
          (∀ failure, r.refresh clock = .error failure →
            ∀ b, (r.withSegment b).refresh clock = .error failure)
          ∧ ∀ d, r.refresh clock = .ok d →
            ((∀ b, a.Permuted b → ∃ e, (r.withSegment b).refresh clock = .ok e
                ∧ ∀ field, field ≠ .segment → e.Same d field) ↔
              (d.messagesOf .filter = []
                  ∧ ¬ a.ClashesAmong r.kind r.clients (d.queued.getD (.list [])).items)
                ∨ (d.messagesOf .filter ≠ [] ∧ ∀ b e, a.Permuted b →
                    (r.withSegment b).refresh clock = .ok e →
                    e.messagesOf .filter = d.messagesOf .filter)) := by
  refine ⟨fun ctx => alike_iff_not_clashes, ?_, ?_, ?_⟩
  · intro controls kind records clients
    exact orderless_iff controls.orderless_filter controls.exists_filter_fails
  · intro records kind clients size
    exact orderless_iff (fun h => Preview.orderless_of h size) fun h =>
      Preview.exists_of_fails h size
  · rintro clock r h rfl
    exact ⟨fun failure hfails b => Request.refresh_withSegment_error h hfails b,
      fun d hd => Request.refresh_orderless_iff h hd⟩

def inTouch : Value := .object [("field", .text "lastInteraction"), ("value", .text "2024-01-01")]

theorem permuted_only {items items' : List Value} (h : items'.Perm items) :
    (Controls.only items).segment.Permuted (Controls.only items').segment := by
  refine .saved rfl rfl h fun key hkey => ?_
  simp [Fields.get, Fields.get?, Ne.symm hkey]

/-- The tab of clients, with the Californians who have been in touch
selected. -/
def recentCalifornians : Request where
  kind := .text Kind.client.name
  records := .list
    [.object [("billingState", .text "CA"), ("updatedAt", .text "2024-06-01T00:00:00Z")], .null,
      .object [("billingState", .text "NV"), ("updatedAt", .int 5)]]
  segment := (Controls.only [Controls.californian, inTouch]).segment

theorem recentCalifornians_order_free :
    recentCalifornians.IsTyped ∧ ∃ d, recentCalifornians.refresh midJune = .ok d
      ∧ d.messagesOf .filter = []
      ∧ ∃ e, (recentCalifornians.withSegment
            (Controls.only [inTouch, Controls.californian]).segment).refresh midJune = .ok e
        ∧ ∀ field, field ≠ .segment → e.Same d field := by
  have htyped : recentCalifornians.IsTyped :=
    ⟨⟨_, rfl⟩, Value.isListOrNull_list _, .inl rfl, .inl rfl⟩
  have hd : recentCalifornians.refresh midJune = .ok recentCalifornians.otherTab :=
    Request.refresh_other htyped fun hlead => absurd (Value.text.inj hlead) (by decide)
  have hquiet : recentCalifornians.otherTab.messagesOf .filter = [] := by
    rw [Request.messagesOf_otherTab, Request.filterMessages_eq_nil_iff,
      ← Attempt.failure?_eq_none_iff]
    decide +kernel
  have hnone : ¬ recentCalifornians.segment.ClashesAmong recentCalifornians.kind
      recentCalifornians.clients recentCalifornians.records.items :=
    not_clashesAmong (Kind.ofValue_text _) (by decide +kernel) (by decide +kernel)
  obtain ⟨-, -, -, hrefresh⟩ := order_free_iff recentCalifornians.segment
  refine ⟨htyped, _, hd, hquiet, ?_⟩
  exact ((hrefresh midJune _ htyped rfl).2 _ hd).2 (.inl ⟨hquiet, hnone⟩) _
    (permuted_only (.swap ..))

/-- A client in Nevada whose last change is dated before the calendar
begins. -/
def distantClient : Value :=
  .object [("billingState", .text "NV"), ("updatedAt", .text "0001-01-01T00:00:00+01:00")]

def distantContext : Context := Context.ofRecord (some .client) (.ofList []) distantClient

/-- Asked for the state first, the client does not belong to the segment and
is filtered out; asked for the date first, there is no answer. -/
theorem distantClient_order :
    (Controls.only [Controls.californian, inTouch]).segment.Permuted
        (Controls.only [inTouch, Controls.californian]).segment
      ∧ (Controls.only [Controls.californian, inTouch]).segment.accepts distantContext = .ok false
      ∧ (Controls.only [inTouch, Controls.californian]).segment.accepts distantContext
          = .error .dateOutOfRange
      ∧ (Controls.only [Controls.californian, inTouch]).filter (.text "client")
          (.list [distantClient]) .null = .ok []
      ∧ (Controls.only [inTouch, Controls.californian]).filter (.text "client")
          (.list [distantClient]) .null = .error .dateOutOfRange := by
  refine ⟨permuted_only (.swap ..), by decide +kernel, by decide +kernel, by rfl, ?_⟩
  rw [← Attempt.failure?_eq_some_iff]
  decide +kernel

end Selection

end Audience
