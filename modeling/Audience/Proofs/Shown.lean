import Audience.Proofs.Refresh

/-!
# What a refresh without failures shows

The passes of a refresh work on whole lists, one after another. Put together
they are one test of one record, `Request.shows`: the selected queue, the
segment, the sidebar and the search, in this order.

- `refresh_exact`: if nothing failed, what is shown is the records that pass
  this test, and the badges and the board are those of the records and of
  what is shown (`IsExact`).
- `refresh_insert_iff`: a record more changes nothing but its own place, as
  long as it does not spoil the tab. Some records do, and `Request.Spoils`
  says which: each has a number or a date beyond the limits of
  `Audience.Proofs.Limits`, or is the first to reach filters that cannot be
  read.

Both rest on `Request.errors_eq_nil_iff`. A pass fails with any of its
records, so that nothing failed can be said record by record, plus two
conditions that no record has a part in (`Request.Settled`).
-/

namespace Audience

namespace Request

variable {clock now : Instant} {r : Request} {kind : Kind} {d : Dashboard} {record : Value}
  {segment : Option Segment}

/-! ## The test of one record -/

/-- Whether the selected queue takes a record. Only leads are queued, and
only with them a reference time is needed. -/
def takes (r : Request) (clock : Instant) (kind : Kind) (record : Value) : Attempt Bool :=
  match kind with
  | .lead => do
      LeadQueue.holds (← LeadQueue.referenceTime clock r.now) record.fields (.ofValue r.queue)
  | .client | .quote => .ok true

def view (r : Request) (kind : Kind) (record : Value) : Context :=
  Context.ofRecord (some kind) (.ofList r.clients.items) record

/-- Whether a record is shown: the queue, the segment, the sidebar and the
search, each looked at only if the record got so far. -/
def shows (r : Request) (clock : Instant) (kind : Kind) (record : Value) : Attempt Bool :=
  Attempt.all id [r.takes clock kind record, r.segment.accepts (r.view kind record),
    Sidebar.admitsBy r.controls.filters (r.view kind record),
    .ok (Search.finds (some kind) r.search record)]

def displays (r : Request) (clock : Instant) (kind : Kind) (record : Value) : Bool :=
  Attempt.passed (r.shows clock kind record)

theorem shows_eq_both :
    r.shows clock kind record
      = Attempt.both (r.takes clock kind record)
          (r.controls.passes kind (.ofList r.clients.items) record) := by
  rw [shows, Attempt.all_cons]
  rfl

theorem takes_lead (hnow : LeadQueue.referenceTime clock r.now = .ok now) (record : Value) :
    r.takes clock .lead record = LeadQueue.holds now record.fields (.ofValue r.queue) := by
  rw [takes, hnow]
  rfl

theorem takes_other (hkind : kind ≠ .lead) : r.takes clock kind record = .ok true := by
  cases kind with
  | lead => exact absurd rfl hkind
  | client => rfl
  | quote => rfl

/-- A record that something in the refresh cannot be decided on: a lead that
cannot be sorted, or a record of the queue that the controls have no answer
for. -/
def Spoils (r : Request) (clock : Instant) (kind : Kind) (record : Value) : Prop :=
  (kind = .lead ∧ ∃ now, LeadQueue.referenceTime clock r.now = .ok now
      ∧ LeadQueue.Unsortable now record.fields)
    ∨ (r.takes clock kind record = .ok true ∧ ∃ segment, r.segment.resolve = .ok segment
        ∧ r.controls.NoAnswer segment (r.view kind record))

theorem exists_passes_iff (hsegment : r.segment.resolve = .ok segment) :
    (∃ b, r.controls.passes kind (.ofList r.clients.items) record = .ok b) ↔
      ¬ ∃ segment, r.segment.resolve = .ok segment
        ∧ r.controls.NoAnswer segment (r.view kind record) := by
  rw [Attempt.exists_ok_and_iff hsegment]
  exact Controls.exists_passes_ok_iff hsegment

theorem not_spoils_lead_iff (hnow : LeadQueue.referenceTime clock r.now = .ok now)
    (hsegment : r.segment.resolve = .ok segment) :
    ¬ r.Spoils clock .lead record ↔
      ¬ LeadQueue.Unsortable now record.fields ∧ ∃ b, r.shows clock .lead record = .ok b := by
  rw [Spoils, Attempt.exists_ok_and_iff hnow, shows_eq_both, Attempt.exists_both_ok_iff,
    exists_passes_iff hsegment]
  simp only [true_and, not_or, not_and]
  refine and_congr_right fun hsortable => (and_iff_right ?_).symm
  obtain ⟨flags, hflags⟩ := LeadQueue.exists_classify_ok_iff.2 hsortable
  exact ⟨_, (takes_lead hnow record).trans (LeadQueue.holds_of_classify hflags _)⟩

theorem not_spoils_other_iff (hkind : kind ≠ .lead)
    (hsegment : r.segment.resolve = .ok segment) :
    ¬ r.Spoils clock kind record ↔ ∃ b, r.shows clock kind record = .ok b := by
  rw [Spoils, shows_eq_both, Attempt.exists_both_ok_iff, exists_passes_iff hsegment,
    takes_other hkind]
  simp [hkind]

/-! ## The passes, record by record -/

theorem resolve_of_admitted (hkind : Kind.named? r.kind = some kind) {source shown : List Value}
    (hshown : r.admitted source = .ok shown) :
    ∃ segment, r.segment.resolve = .ok segment := by
  obtain ⟨test, htest, -⟩ := Controls.filter_eq_ok_iff.1 hshown
  exact Controls.resolve_of_test htest hkind

theorem admitted_eq_keep (hkind : Kind.named? r.kind = some kind)
    (hsegment : r.segment.resolve = .ok segment) (source : List Value) :
    r.admitted source
      = Attempt.keep (r.controls.passes kind (.ofList r.clients.items)) source :=
  Controls.filter_of_test
    (Controls.test_of_resolve hsegment hkind (Value.isListOrNull_list _)) source

/-- Filtering the leads of a queue is testing all leads: the queue is the
first part of the test. -/
theorem admitted_of_sorted (hkind : r.kind = .text Kind.lead.name)
    (hsegment : r.segment.resolve = .ok segment)
    (hnow : LeadQueue.referenceTime clock r.now = .ok now) {badges : LeadQueue.Counts}
    {kept : List Value} (hsort : r.sorted now = .ok (badges, kept)) :
    r.admitted kept = Attempt.keep (r.shows clock .lead) r.records.items := by
  have hkept := (LeadQueue.sort_eq_ok_iff.1 hsort).2
  rw [admitted_eq_keep (Kind.named?_eq_some_iff.2 hkind) hsegment, Attempt.keep_keep _ hkept]
  congr 1
  funext record
  rw [shows_eq_both, takes_lead hnow]

theorem admitted_of_other (hkind : Kind.named? r.kind = some kind)
    (hother : kind ≠ .lead) (hsegment : r.segment.resolve = .ok segment) :
    r.admitted r.records.items = Attempt.keep (r.shows clock kind) r.records.items := by
  rw [admitted_eq_keep hkind hsegment]
  congr 1
  funext record
  rw [shows_eq_both, takes_other hother]
  rfl

/-! ## When nothing failed

A refresh is quiet if it leaves no message, and then the three passes have
kept what passes the one test. -/

/-- What a refresh without failures needs apart from its records: a segment
that can be read and, on the leads tab, quotes that can. -/
def Settled (r : Request) (kind : Kind) : Prop :=
  (∃ segment, r.segment.resolve = .ok segment)
    ∧ (kind = .lead → ∃ ids, Board.convertedIds (.list r.quotes.items) = .ok ids)

theorem complaint_eq_nil_iff {pass : Text} {failure : Option Failure} :
    Dashboard.complaint pass failure = [] ↔ failure = none := by
  cases failure <;> simp [Dashboard.complaint]

section Leads

variable {badges : LeadQueue.Counts} {kept shown : List Value} {board : List Lane}

theorem leadsTab_of_ok (hsort : r.sorted now = .ok (badges, kept))
    (hshown : r.admitted kept = .ok shown) (hboard : r.laned shown = .ok board) :
    r.leadsTab now = { r.opened with
      queued := some (.list kept)
      queueCounts := some badges.toValue
      filtered := some (.list shown)
      board := some (Dashboard.lanes board)
      errors := some (.list []) } := by
  rw [leadsTab, setbacks, queued_of_sorted hsort, shown_of_admitted hshown,
    board_of_laned hboard, hsort, hshown, hboard]
  rfl

theorem errors_leadsTab_iff :
    (r.leadsTab now).errors = some (.list []) ↔
      ∃ badges kept shown board, r.sorted now = .ok (badges, kept)
        ∧ r.admitted kept = .ok shown ∧ r.laned shown = .ok board := by
  constructor
  · simp only [leadsTab, Option.some.injEq, Value.list.injEq, Setbacks.messages,
      List.append_eq_nil_iff, complaint_eq_nil_iff, setbacks, Attempt.failure?_eq_none_iff]
    rintro ⟨⟨⟨⟨badges, kept⟩, hsort⟩, shown, hshown⟩, board, hboard⟩
    rw [queued_of_sorted hsort] at hshown hboard
    rw [shown_of_admitted hshown] at hboard
    exact ⟨badges, kept, shown, board, hsort, hshown, hboard⟩
  · rintro ⟨badges, kept, shown, board, hsort, hshown, hboard⟩
    rw [leadsTab_of_ok hsort hshown hboard]

end Leads

theorem errors_otherTab_iff :
    r.otherTab.errors = some (.list []) ↔ ∃ shown, r.admitted r.records.items = .ok shown := by
  simp only [otherTab, Option.some.injEq, Value.list.injEq, complaint_eq_nil_iff,
    Attempt.failure?_eq_none_iff]

/-- On the leads tab. A lead that can be sorted has an estimate that the
board can add up, so the board asks nothing more of it. -/
theorem errors_leadsTab_iff_settled (hkind : r.kind = .text Kind.lead.name)
    (hnow : LeadQueue.referenceTime clock r.now = .ok now) :
    (r.leadsTab now).errors = some (.list []) ↔
      r.Settled .lead ∧ ∀ record ∈ r.records.items, ¬ r.Spoils clock .lead record := by
  rw [errors_leadsTab_iff]
  constructor
  · rintro ⟨badges, kept, shown, board, hsort, hshown, hboard⟩
    obtain ⟨segment, hsegment⟩ := resolve_of_admitted (Kind.named?_eq_some_iff.2 hkind) hshown
    obtain ⟨ids, hids, -⟩ := Board.build_list_eq_ok_iff.1 hboard
    rw [admitted_of_sorted hkind hsegment hnow hsort] at hshown
    refine ⟨⟨⟨segment, hsegment⟩, fun _ => ⟨ids, hids⟩⟩, fun record hrecord => ?_⟩
    exact (not_spoils_lead_iff hnow hsegment).2
      ⟨LeadQueue.exists_sort_ok_iff.1 ⟨_, hsort⟩ record hrecord,
        Attempt.exists_keep_ok_iff.1 ⟨_, hshown⟩ record hrecord⟩
  · rintro ⟨⟨⟨segment, hsegment⟩, hquotes⟩, hrecords⟩
    have hfine := fun record hrecord =>
      (not_spoils_lead_iff hnow hsegment).1 (hrecords record hrecord)
    obtain ⟨⟨badges, kept⟩, hsort⟩ : ∃ s, r.sorted now = .ok s :=
      LeadQueue.exists_sort_ok_iff.2 fun record hrecord => (hfine record hrecord).1
    obtain ⟨shown, hshown⟩ := Attempt.exists_keep_ok_iff.2 fun record hrecord =>
      (hfine record hrecord).2
    have hsmall : ∀ lead ∈ shown, ¬ (lead.fields.get "estimatedValue").AmountOverflows :=
      fun lead hlead hbig =>
        (hfine lead ((Attempt.keep_sublist hshown).subset hlead)).1 (.inr hbig)
    rw [← admitted_of_sorted hkind hsegment hnow hsort] at hshown
    obtain ⟨board, hboard⟩ := (Board.exists_build_ok_iff hsmall).2 (hquotes rfl)
    exact ⟨badges, kept, shown, board, hsort, hshown, hboard⟩

theorem errors_otherTab_iff_settled (hkind : Kind.named? r.kind = some kind)
    (hother : kind ≠ .lead) :
    r.otherTab.errors = some (.list []) ↔
      r.Settled kind ∧ ∀ record ∈ r.records.items, ¬ r.Spoils clock kind record := by
  rw [errors_otherTab_iff]
  constructor
  · rintro ⟨shown, hshown⟩
    obtain ⟨segment, hsegment⟩ := resolve_of_admitted hkind hshown
    rw [admitted_of_other hkind hother hsegment] at hshown
    refine ⟨⟨⟨segment, hsegment⟩, fun hlead => absurd hlead hother⟩, fun record hrecord => ?_⟩
    exact (not_spoils_other_iff hother hsegment).2
      (Attempt.exists_keep_ok_iff.1 ⟨_, hshown⟩ record hrecord)
  · rintro ⟨⟨⟨segment, hsegment⟩, -⟩, hrecords⟩
    have hkeep : r.admitted r.records.items = Attempt.keep (r.shows clock kind) r.records.items :=
      admitted_of_other hkind hother hsegment
    rw [hkeep]
    exact Attempt.exists_keep_ok_iff.2 fun record hrecord =>
      (not_spoils_other_iff hother hsegment).1 (hrecords record hrecord)

theorem ne_lead_of_named (hkind : Kind.named? r.kind = some kind) (hother : kind ≠ .lead) :
    r.kind ≠ .text Kind.lead.name := by
  intro hlead
  rw [Kind.named?_eq_some_iff.2 hlead, Option.some.injEq] at hkind
  exact hother hkind.symm

/-- **Nothing failed, record by record.** -/
theorem errors_eq_nil_iff (h : r.IsTyped) (hkind : Kind.named? r.kind = some kind)
    (hd : r.refresh clock = .ok d) :
    d.errors = some (.list []) ↔
      r.Settled kind ∧ ∀ record ∈ r.records.items, ¬ r.Spoils clock kind record := by
  by_cases hlead : kind = .lead
  · subst hlead
    have hword := Kind.named?_eq_some_iff.1 hkind
    obtain ⟨now, hnow, rfl⟩ := eq_leadsTab_of_refresh h hword hd
    exact errors_leadsTab_iff_settled hword hnow
  · obtain rfl := eq_otherTab_of_refresh h (ne_lead_of_named hkind hlead) hd
    exact errors_otherTab_iff_settled hkind hlead

theorem keep_shows_of_quiet (h : r.IsTyped) (hkind : Kind.named? r.kind = some kind)
    (hd : r.refresh clock = .ok d) (hquiet : d.errors = some (.list [])) :
    ∃ shown, Attempt.keep (r.shows clock kind) r.records.items = .ok shown
      ∧ d.filtered = some (.list shown) := by
  by_cases hlead : kind = .lead
  · subst hlead
    have hword := Kind.named?_eq_some_iff.1 hkind
    obtain ⟨now, hnow, rfl⟩ := eq_leadsTab_of_refresh h hword hd
    obtain ⟨badges, kept, shown, board, hsort, hshown, hboard⟩ := errors_leadsTab_iff.1 hquiet
    obtain ⟨segment, hsegment⟩ := resolve_of_admitted hkind hshown
    refine ⟨shown, ?_, by rw [leadsTab_of_ok hsort hshown hboard]⟩
    rw [← admitted_of_sorted hword hsegment hnow hsort, hshown]
  · obtain rfl := eq_otherTab_of_refresh h (ne_lead_of_named hkind hlead) hd
    obtain ⟨shown, hshown⟩ := errors_otherTab_iff.1 hquiet
    obtain ⟨segment, hsegment⟩ := resolve_of_admitted hkind hshown
    refine ⟨shown, ?_, by rw [otherTab, shown_of_admitted hshown]⟩
    rw [← admitted_of_other hkind hlead hsegment, hshown]

theorem filtered_of_quiet (h : r.IsTyped) (hkind : Kind.named? r.kind = some kind)
    (hd : r.refresh clock = .ok d) (hquiet : d.errors = some (.list [])) :
    d.filtered = some (.list (r.records.items.filter (r.displays clock kind))) := by
  obtain ⟨shown, hkeep, hfiltered⟩ := keep_shows_of_quiet h hkind hd hquiet
  obtain ⟨-, rfl⟩ := Attempt.keep_eq_ok_iff.1 hkeep
  exact hfiltered

end Request

/-! ## What is shown -/

variable {clock : Instant} {r : Request} {d : Dashboard}

/-- The state after a refresh without failures: every record has an answer,
those shown are the ones whose answer is yes, and the leads tab alone has
badges and a board. -/
structure IsExact (r : Request) (clock : Instant) (d : Dashboard) : Prop where
  decided : ∀ kind, Kind.named? r.kind = some kind →
    ∀ record ∈ r.records.items, ∃ b, r.shows clock kind record = .ok b
  filtered : ∀ kind, Kind.named? r.kind = some kind →
    d.filtered = some (.list (r.records.items.filter (r.displays clock kind)))
  unfiltered : Kind.named? r.kind = none → d.filtered = some (.list r.records.items)
  leads : r.kind = .text Kind.lead.name → ∃ now badges filtered board,
    LeadQueue.referenceTime clock r.now = .ok now
      ∧ LeadQueue.counts now (.list r.records.items) = .ok badges
      ∧ d.queueCounts = some badges.toValue
      ∧ d.filtered = some (.list filtered)
      ∧ Board.build (.list filtered) (.list r.quotes.items) = .ok board
      ∧ d.board = some (Dashboard.lanes board)
  others : r.kind ≠ .text Kind.lead.name → d.queueCounts = none ∧ d.board = none

/-- **Exactness.** What a refresh shows, if nothing failed, is a filter of
the records by one test, whatever the records, the controls and the kind
are. -/
theorem refresh_exact (h : r.IsTyped) (hd : r.refresh clock = .ok d)
    (hquiet : d.errors = some (.list [])) : IsExact r clock d where
  decided kind hkind := by
    obtain ⟨shown, hkeep, -⟩ := Request.keep_shows_of_quiet h hkind hd hquiet
    exact (Attempt.keep_eq_ok_iff.1 hkeep).1
  filtered kind hkind := Request.filtered_of_quiet h hkind hd hquiet
  unfiltered hunknown := by
    obtain ⟨word, hword⟩ := h.kind
    have hother : r.kind ≠ .text Kind.lead.name := by
      intro hlead
      rw [Kind.named?_eq_some_iff.2 hlead] at hunknown
      cases hunknown
    obtain rfl := Request.eq_otherTab_of_refresh h hother hd
    rw [hword] at hunknown
    simp only [Request.otherTab, Request.shown, Request.admitted, hword,
      Controls.filter_of_unknown _ hunknown]
    rfl
  leads hlead := by
    obtain ⟨now, hnow, rfl⟩ := Request.eq_leadsTab_of_refresh h hlead hd
    obtain ⟨badges, kept, shown, board, hsort, hshown, hboard⟩ :=
      Request.errors_leadsTab_iff.1 hquiet
    rw [Request.leadsTab_of_ok hsort hshown hboard]
    exact ⟨now, badges, shown, board, hnow, (LeadQueue.sort_eq_ok_iff.1 hsort).1, rfl, rfl,
      hboard, rfl⟩
  others hother := by
    obtain rfl := Request.eq_otherTab_of_refresh h hother hd
    exact ⟨rfl, rfl⟩

/-- Three leads, two of them of high value, with a quote for the first. -/
def highValueLeads : Request where
  kind := .text Kind.lead.name
  records := .list
    [.object [("id", .int 1), ("estimatedValue", .int 20000)],
      .object [("id", .int 2), ("estimatedValue", .text "none yet")],
      .object [("id", .int 3), ("estimatedValue", .int 15000)]]
  queue := .text (LeadQueue.name .highValue)
  quotes := .list [.object [("leadId", .int 1), ("status", .text "accepted")]]

theorem highValueLeads_exact :
    highValueLeads.IsTyped
      ∧ highValueLeads.refresh midJune = .ok (highValueLeads.leadsTab midJune)
      ∧ (highValueLeads.leadsTab midJune).errors = some (.list [])
      ∧ highValueLeads.records.items.map (highValueLeads.displays midJune .lead)
          = [true, false, true]
      ∧ IsExact highValueLeads midJune (highValueLeads.leadsTab midJune) := by
  have htyped : highValueLeads.IsTyped :=
    ⟨⟨_, rfl⟩, Value.isListOrNull_list _, .inl rfl, Value.isListOrNull_list _⟩
  have hstate : highValueLeads.refresh midJune = .ok (highValueLeads.leadsTab midJune) :=
    Request.refresh_leads htyped rfl rfl
  have hsetbacks : highValueLeads.setbacks midJune = ⟨none, none, none⟩ := by decide +kernel
  have hquiet : (highValueLeads.leadsTab midJune).errors = some (.list []) := by
    rw [Request.leadsTab, hsetbacks]
    rfl
  exact ⟨htyped, hstate, hquiet, by decide +kernel, refresh_exact htyped hstate hquiet⟩

/-! ## One record more -/

def Request.withRecords (r : Request) (records : List Value) : Request :=
  { r with records := .list records }

theorem Request.isTyped_withRecords (h : r.IsTyped) (records : List Value) :
    (r.withRecords records).IsTyped where
  kind := h.kind
  records := Value.isListOrNull_list records
  clients := h.clients
  quotes := h.quotes

theorem Request.exists_refresh_withRecords (h : r.IsTyped) (hd : r.refresh clock = .ok d)
    (records : List Value) : ∃ d', (r.withRecords records).refresh clock = .ok d' := by
  have htyped := isTyped_withRecords h records
  -- only the time can stop a refresh, and it is the same for both
  by_cases hlead : r.kind = .text Kind.lead.name
  · obtain ⟨now, hnow, -⟩ := eq_leadsTab_of_refresh h hlead hd
    exact ⟨_, refresh_leads htyped hlead hnow⟩
  · exact ⟨_, refresh_other htyped hlead⟩

/-- **One record more.** Put anywhere among records that are shown without
failures, a record causes a failure exactly if it spoils the tab, and
otherwise changes what is shown at its own place only. -/
theorem refresh_insert_iff (h : r.IsTyped) {kind : Kind}
    (hkind : Kind.named? r.kind = some kind) (before after : List Value) (record : Value)
    (hd : (r.withRecords (before ++ after)).refresh clock = .ok d)
    (hquiet : d.errors = some (.list [])) :
    d.filtered = some (.list
        (before.filter (r.displays clock kind) ++ after.filter (r.displays clock kind)))
      ∧ ∃ d', (r.withRecords (before ++ record :: after)).refresh clock = .ok d'
        ∧ (d'.errors = some (.list []) ↔ ¬ r.Spoils clock kind record)
        ∧ (¬ r.Spoils clock kind record → d'.filtered = some (.list
            (before.filter (r.displays clock kind)
              ++ ((if r.displays clock kind record then [record] else [])
                ++ after.filter (r.displays clock kind))))) := by
  have htyped := Request.isTyped_withRecords h (before ++ after)
  have htyped' := Request.isTyped_withRecords h (before ++ record :: after)
  obtain ⟨d', hd'⟩ :=
    Request.exists_refresh_withRecords htyped hd (before ++ record :: after)
  obtain ⟨hsettled, hrecords⟩ := (Request.errors_eq_nil_iff htyped hkind hd).1 hquiet
  have hiff : d'.errors = some (.list []) ↔ ¬ r.Spoils clock kind record := by
    rw [Request.errors_eq_nil_iff htyped' hkind hd']
    constructor
    · exact fun hall => hall.2 record (List.mem_append_right _ (List.mem_cons_self ..))
    · intro hfine
      refine ⟨hsettled, fun other hother => ?_⟩
      rcases List.mem_append.1 hother with hbefore | hother
      · exact hrecords other (List.mem_append_left _ hbefore)
      · rcases List.mem_cons.1 hother with rfl | hafter
        · exact hfine
        · exact hrecords other (List.mem_append_right _ hafter)
  refine ⟨?_, d', hd', hiff, fun hfine => ?_⟩
  · have hfiltered := Request.filtered_of_quiet htyped hkind hd hquiet
    exact hfiltered.trans (by rw [← List.filter_append]; rfl)
  · have hfiltered := Request.filtered_of_quiet htyped' hkind hd' (hiff.2 hfine)
    refine hfiltered.trans ?_
    change some (Value.list ((before ++ record :: after).filter (r.displays clock kind))) = _
    rw [List.filter_append, List.filter_cons]
    split <;> rfl

def recentClients : Request where
  kind := .text Kind.client.name
  segment := .saved (.object [("criteria", .list
    [.object [("field", .text "lastInteraction"), ("value", .text "2024-01-01")]])])

def juneClient : Value := .object [("updatedAt", .text "2024-06-01T00:00:00Z")]

/-- A client whose last change is dated before the calendar begins. -/
def earlyClient : Value := .object [("updatedAt", .text "0001-01-01T00:00:00+01:00")]

theorem recentClients_isTyped : recentClients.IsTyped := ⟨⟨_, rfl⟩, .inl rfl, .inl rfl, .inl rfl⟩

theorem recentClients_refresh (records : List Value) :
    (recentClients.withRecords records).refresh midJune
      = .ok (recentClients.withRecords records).otherTab :=
  Request.refresh_other (Request.isTyped_withRecords recentClients_isTyped records)
    fun hlead => absurd (Value.text.inj hlead) (by decide)

/-- A client that is no object is no client in touch, and harmless. -/
theorem recentClients_insert :
    recentClients.IsTyped ∧ Kind.named? recentClients.kind = some .client
      ∧ ∃ d, (recentClients.withRecords [juneClient, juneClient]).refresh midJune = .ok d
        ∧ d.errors = some (.list [])
        ∧ ∃ d', (recentClients.withRecords [juneClient, .null, juneClient]).refresh midJune
              = .ok d'
          ∧ d'.errors = some (.list [])
          ∧ d'.filtered = some (.list [juneClient, juneClient]) := by
  have hquiet : (recentClients.withRecords [juneClient, juneClient]).otherTab.errors
      = some (.list []) := by
    rw [Request.errors_otherTab_iff, ← Attempt.failure?_eq_none_iff]
    decide +kernel
  obtain ⟨-, d', hd', hiff, hfiltered⟩ := refresh_insert_iff recentClients_isTyped rfl
    [juneClient] [juneClient] .null (recentClients_refresh _) hquiet
  have hfine : ¬ recentClients.Spoils midJune .client .null :=
    (Request.not_spoils_other_iff (by decide) rfl).2 ⟨false, by decide +kernel⟩
  have hjune : recentClients.displays midJune .client juneClient = true := by decide +kernel
  have hnull : recentClients.displays midJune .client .null = false := by decide +kernel
  refine ⟨recentClients_isTyped, rfl, _, recentClients_refresh _, hquiet, d', hd', hiff.2 hfine, ?_⟩
  rw [hfiltered hfine]
  simp [hjune, hnull]

/-- One date before the year 1, and no client is shown. -/
theorem earlyClient_spoils :
    ∃ d d', (recentClients.withRecords [juneClient]).refresh midJune = .ok d
      ∧ d.errors = some (.list []) ∧ d.filtered = some (.list [juneClient])
      ∧ (recentClients.withRecords [juneClient, earlyClient]).refresh midJune = .ok d'
      ∧ d'.errors = some (.list [.text "Filter pass failed: date value out of range"])
      ∧ d'.filtered = some (.list []) := by
  have hquiet : (recentClients.withRecords [juneClient]).otherTab.errors = some (.list []) := by
    rw [Request.errors_otherTab_iff, ← Attempt.failure?_eq_none_iff]
    decide +kernel
  have hjune : recentClients.displays midJune .client juneClient = true := by decide +kernel
  have hfiltered := Request.filtered_of_quiet
    (Request.isTyped_withRecords recentClients_isTyped _) rfl (recentClients_refresh _) hquiet
  have hfailed : (recentClients.withRecords [juneClient, earlyClient]).admitted
      [juneClient, earlyClient] = .error .dateOutOfRange := by
    rw [← Attempt.failure?_eq_some_iff]
    decide +kernel
  refine ⟨_, _, recentClients_refresh _, hquiet, ?_, recentClients_refresh _, ?_, ?_⟩
  · refine hfiltered.trans ?_
    change some (Value.list ([juneClient].filter (recentClients.displays midJune .client))) = _
    rw [List.filter_cons_of_pos hjune, List.filter_nil]
  · change some (Value.list (Dashboard.complaint _ (Attempt.failure?
      ((recentClients.withRecords [juneClient, earlyClient]).admitted
        [juneClient, earlyClient])))) = _
    rw [hfailed]
    rfl
  · change some (Value.list
      ((recentClients.withRecords [juneClient, earlyClient]).shown
        [juneClient, earlyClient])) = _
    rw [Request.shown, hfailed]
    rfl

end Audience
