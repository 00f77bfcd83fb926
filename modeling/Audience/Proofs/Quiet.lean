import Audience.Proofs.Shown

/-!
# Requests that leave no message

A refresh fails nowhere on data that stays within the limits of
`Audience.Proofs.Limits`. `Request.IsReadable` says what that takes: three
amounts and three dates of each record, the statuses of the quotes, and the
shape of the filters, the segment and the time. Nothing else that a request
holds can cause a failure, however malformed it is (`refresh_quiet`).

By `Request.errors_eq_nil_iff` it is enough to look at one record at a time.
The queue reads an amount and two dates of it. Of its context the criteria
read only the lifetime value and the last interaction in a way that can fail
(`Rule.overflows_of_noAnswer`), and these two are members of the record
(`Context.lifetimeValue_ofRecord`, `Context.lastInteraction_ofRecord`).
-/

namespace Audience

/-! ## What a context takes over from its record -/

/-- The member in which a record of a kind keeps its worth. -/
def Kind.worthKey : Kind → Text
  | .client => "lifetimeValue"
  | .lead => "estimatedValue"
  | .quote => "totalAmount"

theorem Context.lifetimeValue_ofRecord (kind : Kind) (index : ClientIndex) (record : Value) :
    (ofRecord (some kind) index record).lifetimeValue
      = (record.fields.get kind.worthKey).orElse (.int 0) := by
  cases kind <;> rfl

theorem Context.lastInteraction_ofRecord (kind : Kind) (index : ClientIndex) (record : Value) :
    (ofRecord (some kind) index record).lastInteraction = record.fields.get "updatedAt" := by
  cases kind <;> rfl

/-! ## Requests within the limits -/

namespace Request

/-- The members of a record that are read as amounts. -/
def amountKeys : List Text := ["lifetimeValue", "estimatedValue", "totalAmount"]

theorem worthKey_mem_amountKeys (kind : Kind) : kind.worthKey ∈ amountKeys := by
  cases kind <;> decide

/-- The members of a record that are read as dates. -/
def dateKeys : List Text := ["nextFollowupDate", "lastContactDate", "updatedAt"]

/-- A request whose data can be read wherever a pass has to read it. -/
structure IsReadable (r : Request) (clock : Instant) : Prop where
  /-- No amount of a record is an integer beyond the doubles. -/
  amounts : ∀ record ∈ r.records.items, ∀ key ∈ amountKeys,
    ¬ (record.fields.get key).AmountOverflows
  /-- No date of a record lies off the calendar. -/
  dates : ∀ record ∈ r.records.items, ∀ key ∈ dateKeys,
    ¬ (record.fields.get key).DateOverflows
  /-- The status of a quote for a lead can serve as a key. -/
  quotes : ∀ quote ∈ r.quotes.items, (quote.fields.get "leadId").isNull = false →
    (quote.fields.get "status").isContainer = false
  filters : r.filters = .null ∨ ∃ fields, r.filters = .object fields
  segment : ∃ segment, r.segment.resolve = .ok segment
  /-- There is a time to measure from, and the days to look back from it are
  on the calendar. -/
  time : ∃ now cutoff, LeadQueue.referenceTime clock r.now = .ok now
    ∧ now.daysBefore LeadQueue.stalledAfterDays = .ok cutoff

variable {clock now cutoff : Instant} {r : Request} {kind : Kind} {record : Value}

namespace IsReadable

theorem lifetimeValue_reads (h : r.IsReadable clock) (hrecord : record ∈ r.records.items) :
    ¬ (r.view kind record).lifetimeValue.AmountOverflows := by
  rw [view, Context.lifetimeValue_ofRecord, Value.amountOverflows_orElse_zero]
  exact h.amounts record hrecord _ (worthKey_mem_amountKeys kind)

theorem lastInteraction_reads (h : r.IsReadable clock) (hrecord : record ∈ r.records.items) :
    ¬ (r.view kind record).lastInteraction.DateOverflows := by
  rw [view, Context.lastInteraction_ofRecord]
  exact h.dates record hrecord _ (by decide)

theorem filters_read (h : r.IsReadable clock) : ¬ Sidebar.Unreadable r.controls.filters := by
  rintro ⟨-, hshape⟩
  have hobject : ∃ fields, r.controls.filters = .object fields := by
    rcases h.filters with hnull | ⟨fields, hfields⟩
    · exact ⟨Sidebar.inactive, by rw [controls, hnull]; rfl⟩
    · rw [controls, hfields, Value.orElse]
      split
      · exact ⟨fields, rfl⟩
      · exact ⟨Sidebar.inactive, rfl⟩
  obtain ⟨fields, hfields⟩ := hobject
  rw [hfields] at hshape
  cases hshape

theorem not_unsortable (h : r.IsReadable clock)
    (hcutoff : now.daysBefore LeadQueue.stalledAfterDays = .ok cutoff)
    (hrecord : record ∈ r.records.items) : ¬ LeadQueue.Unsortable now record.fields := by
  rintro ((hnext | hlast | hearly) | hbig)
  · exact h.dates record hrecord _ (by decide) hnext
  · exact h.dates record hrecord _ (by decide) hlast
  · rw [Instant.daysBefore_eq_error_iff.2 ⟨hearly, rfl⟩] at hcutoff
    cases hcutoff
  · exact h.amounts record hrecord _ (by decide) hbig

/-- The controls have an answer for every record. -/
theorem not_noAnswer (h : r.IsReadable clock) {segment : Option Segment}
    (hrecord : record ∈ r.records.items) :
    ¬ r.controls.NoAnswer segment (r.view kind record) := by
  rintro (⟨s, failure, -, _, c, _, -, -, hc⟩ | ⟨-, hfilters⟩)
  · rcases Rule.overflows_of_noAnswer hc with hamount | hdate
    · exact h.lifetimeValue_reads hrecord hamount
    · exact h.lastInteraction_reads hrecord hdate
  · exact h.filters_read hfilters

theorem not_spoils (h : r.IsReadable clock) (hrecord : record ∈ r.records.items) :
    ¬ r.Spoils clock kind record := by
  rintro (⟨-, now, hnow, hunsortable⟩ | ⟨-, segment, -, hunanswered⟩)
  · obtain ⟨now', cutoff, hnow', hcutoff⟩ := h.time
    rw [hnow'] at hnow
    cases hnow
    exact h.not_unsortable hcutoff hrecord hunsortable
  · exact h.not_noAnswer hrecord hunanswered

theorem settled (h : r.IsReadable clock) : r.Settled kind :=
  ⟨h.segment, fun _ => Board.exists_convertedIds_ok_iff.2 h.quotes⟩

theorem exists_refresh (hr : r.IsReadable clock) (h : r.IsTyped) :
    ∃ d, r.refresh clock = .ok d := by
  by_cases hlead : r.kind = .text Kind.lead.name
  · obtain ⟨now, cutoff, hnow, -⟩ := hr.time
    exact ⟨_, refresh_leads h hlead hnow⟩
  · exact ⟨_, refresh_other h hlead⟩

end IsReadable

end Request

/-- **No message.** A refresh of a tab of a known kind ends without a failure
in any pass, if its request is readable; the search, the queue, the clients
and all other members of the records may be anything. -/
theorem refresh_quiet {clock : Instant} {r : Request} {kind : Kind} (h : r.IsTyped)
    (hkind : Kind.named? r.kind = some kind) (hr : r.IsReadable clock) :
    ∃ d, r.refresh clock = .ok d ∧ d.errors = some (.list []) := by
  obtain ⟨d, hd⟩ := hr.exists_refresh h
  refine ⟨d, hd, (Request.errors_eq_nil_iff h hkind hd).2 ⟨hr.settled, ?_⟩⟩
  exact fun record hrecord => hr.not_spoils hrecord

/-- Leads, clients and controls in every shape but those that a request must
not have: entries that are no objects, amounts and dates that are no such
thing, members of the wrong shape, and a quote whose status is a list but
which is for no lead. -/
def untidyLeads : Request where
  kind := .text Kind.lead.name
  records := .list
    [.null, .text "lead", .list [],
      .object [("estimatedValue", .text "12k"), ("nextFollowupDate", .text "soon"),
        ("updatedAt", .int 5), ("tags", .object [])],
      .object [("estimatedValue", .int 20000), ("lastContactDate", .text "2024-13-01"),
        ("customer", .bool true), ("updatedAt", .text "2024-06-01T00:00:00Z")]]
  segment := .saved (.object [("criteria", .list
    [.null, .object [("field", .text "lifetimeValue"), ("value", .int 5000)],
      .object [("field", .text "lastInteraction"), ("value", .text "2024-01-01")]])])
  filters := .object [("tag_filters", .int 3)]
  search := .list [.null]
  queue := .object []
  clients := .list [.int 1]
  quotes := .list [.object [("leadId", .null), ("status", .list [])], .text "quote"]

theorem untidyLeads_quiet :
    untidyLeads.IsTyped ∧ Kind.named? untidyLeads.kind = some .lead
      ∧ untidyLeads.IsReadable midJune
      ∧ ∃ d, untidyLeads.refresh midJune = .ok d ∧ d.errors = some (.list []) := by
  have htyped : untidyLeads.IsTyped :=
    ⟨⟨_, rfl⟩, Value.isListOrNull_list _, Value.isListOrNull_list _, Value.isListOrNull_list _⟩
  have hreadable : untidyLeads.IsReadable midJune := by
    refine ⟨by decide +kernel, by decide +kernel, by decide +kernel, .inr ⟨_, rfl⟩, ?_,
      midJune, ⟨63853444800000000, by decide⟩, rfl, by decide +kernel⟩
    exact Attempt.failure?_eq_none_iff.1 (by decide +kernel)
  exact ⟨htyped, rfl, hreadable, refresh_quiet htyped rfl hreadable⟩

end Audience
