import Audience.Proofs.Refresh

/-!
# Refreshes that meet failures

A pass that fails leaves a message and something harmless in its place. This
file says how far that goes.

- `refresh_reaches_state_iff`: a refresh ends with a state, whatever its
  passes meet, unless it is one of the leads tab whose reference time is a
  date off the calendar. That time is read before any pass protects itself.
- `refresh_leads_degrades`: what the state of the leads tab looks like for
  each combination of failures (`IsLeadsTab`), above all that the lists shown
  are cut out of each other and never made up.
-/

namespace Audience

variable {clock now : Instant} {r : Request} {d : Dashboard}

/-! ## Reaching a state -/

/-- A message that one of the passes leaves about a failure. -/
def IsComplaint (v : Value) : Prop :=
  ∃ pass : String,
    pass ∈ ["Queue pass failed: ", "Filter pass failed: ", "Board aggregation failed: "]
      ∧ ∃ failure : Failure, v = .text (Text.ofString pass ++ failure.message)

/-- A state in which every pass that a request asks for has left its result
or its fallback, and failures are there as messages only. -/
structure IsFinal (r : Request) (d : Dashboard) : Prop where
  queued : ∃ records, d.queued = some (.list records)
  filtered : ∃ records, d.filtered = some (.list records)
  board : r.kind = .text Kind.lead.name → ∃ lanes, d.board = some (Dashboard.lanes lanes)
  errors : ∃ messages, d.errors = some (.list messages) ∧ ∀ m ∈ messages, IsComplaint m

theorem isComplaint_of_mem {pass : String} {failure : Option Failure} {m : Value}
    (hpass : pass ∈
      ["Queue pass failed: ", "Filter pass failed: ", "Board aggregation failed: "])
    (hm : m ∈ Dashboard.complaint pass failure) : IsComplaint m := by
  cases failure with
  | none => cases hm
  | some f =>
      obtain rfl := List.mem_singleton.1 hm
      exact ⟨pass, hpass, f, rfl⟩

theorem isFinal_leadsTab (r : Request) (now : Instant) : IsFinal r (r.leadsTab now) where
  queued := ⟨_, rfl⟩
  filtered := ⟨_, rfl⟩
  board _ := ⟨_, rfl⟩
  errors := by
    refine ⟨_, rfl, fun m hm => ?_⟩
    rcases List.mem_append.1 hm with hm | hm
    · rcases List.mem_append.1 hm with hm | hm
      · exact isComplaint_of_mem (by simp) hm
      · exact isComplaint_of_mem (by simp) hm
    · exact isComplaint_of_mem (by simp) hm

theorem isFinal_otherTab (h : r.kind ≠ .text Kind.lead.name) : IsFinal r r.otherTab where
  queued := ⟨_, rfl⟩
  filtered := ⟨_, rfl⟩
  board hkind := absurd hkind h
  errors := ⟨_, rfl, fun _ hm => isComplaint_of_mem (by simp) hm⟩

/-- **When a refresh reaches a state.** The one failure that stops a refresh
is a reference time off the calendar on the leads tab; all others end up as
messages in the state. -/
theorem refresh_reaches_state_iff (clock : Instant) {r : Request} (h : r.IsTyped) :
    ((∃ d, r.refresh clock = .ok d ∧ IsFinal r d) ↔
        ¬ (r.kind = .text Kind.lead.name ∧ r.now.DateOverflows))
      ∧ (r.kind = .text Kind.lead.name ∧ r.now.DateOverflows →
          r.refresh clock = .error .dateOutOfRange) := by
  by_cases hkind : r.kind = .text Kind.lead.name
  · rcases Request.refresh_leads_cases clock h hkind with
      ⟨hnow, hfail⟩ | ⟨hnow, now, -, hstate⟩
    · simp [hkind, hnow, hfail]
    · refine ⟨iff_of_true ⟨_, hstate, isFinal_leadsTab r now⟩ fun hboth => hnow hboth.2, ?_⟩
      exact fun hboth => absurd hboth.2 hnow
  · refine ⟨iff_of_true ⟨_, Request.refresh_other h hkind, isFinal_otherTab hkind⟩ ?_, ?_⟩
    · exact fun hboth => hkind hboth.1
    · exact fun hboth => absurd hboth.1 hkind

/-- A leads tab on which every pass fails: an estimate beyond the doubles,
filters that are a list, and a quote whose status is a list. -/
def spoiledLeads : Request where
  kind := .text Kind.lead.name
  records := .list [.object [("estimatedValue", .int Quanta.limit)]]
  filters := .list [.null]
  quotes := .list [.object [("leadId", .int 1), ("status", .list [])]]

theorem spoiledLeads_isTyped : spoiledLeads.IsTyped where
  kind := ⟨_, rfl⟩
  records := Value.isListOrNull_list _
  clients := .inl rfl
  quotes := Value.isListOrNull_list _

theorem spoiledLeads_reaches_state :
    spoiledLeads.IsTyped
      ∧ ∃ d, spoiledLeads.refresh midJune = .ok d ∧ IsFinal spoiledLeads d := by
  refine ⟨spoiledLeads_isTyped,
    (refresh_reaches_state_iff midJune spoiledLeads_isTyped).1.2 ?_⟩
  rintro ⟨-, t, s, ht, -⟩
  cases ht

/-- A leads tab without leads, refreshed in the first hour of the year 1 as it
was counted east of Greenwich. -/
def beforeYearOne : Request where
  kind := .text Kind.lead.name
  records := .list []
  now := .text "0001-01-01T00:00:00+01:00"

/-- That hour is no point of the calendar, and the refresh has no answer. -/
theorem beforeYearOne_fails :
    beforeYearOne.IsTyped ∧ beforeYearOne.refresh midJune = .error .dateOutOfRange := by
  have htyped : beforeYearOne.IsTyped :=
    ⟨⟨_, rfl⟩, Value.isListOrNull_list _, .inl rfl, .inl rfl⟩
  have hoff : beforeYearOne.now.DateOverflows := by
    refine ⟨_, ⟨⟨1, 1, 1⟩, .midnight, some 3600000000⟩, rfl, ?_, ?_⟩
    · decide +kernel
    · exact .inl (by decide)
  exact ⟨htyped, Request.refresh_no_time htyped rfl hoff⟩

/-! ## What failures leave behind -/

/-- The leads tab after a refresh with some setbacks, given the records that
it was refreshed with. -/
structure IsLeadsTab (records : List Value) (d : Dashboard) (s : Setbacks)
    (queued filtered : List Value) (board : List Lane) : Prop where
  errors_eq : d.errors = some (.list s.messages)
  queued_eq : d.queued = some (.list queued)
  filtered_eq : d.filtered = some (.list filtered)
  board_eq : d.board = some (Dashboard.lanes board)
  status_eq : board.map Lane.status = Board.statuses
  badges_iff : s.queue.isSome ↔ d.queueCounts = none
  without_queue : s.queue.isSome → queued = records
  without_filter : s.filter.isSome → filtered = []
  without_board : s.board.isSome → ∀ l ∈ board,
    l.leads = [] ∧ l.convertedCount = 0 ∧ l.conversionRate = 0 ∧ l.totalValue = .zero false
  lanes_sublist : ∀ l ∈ board, l.leads.Sublist filtered
  filtered_sublist : filtered.Sublist queued
  queued_sublist : queued.Sublist records

theorem queued_sublist (r : Request) (now : Instant) :
    (r.queued now).Sublist r.records.items := by
  rw [Request.queued]
  cases hsort : r.sorted now with
  | error failure => exact List.Sublist.refl _
  | ok s =>
      obtain ⟨badges, kept⟩ := s
      exact Attempt.keep_sublist (LeadQueue.sort_eq_ok_iff.1 hsort).2

theorem shown_sublist (h : r.IsTyped) (source : List Value) :
    (r.shown source).Sublist source := by
  rw [Request.shown]
  cases hfilter : r.admitted source with
  | error failure => exact List.nil_sublist _
  | ok shown =>
      obtain ⟨word, hword⟩ := h.kind
      rw [Request.admitted, hword] at hfilter
      exact Controls.filter_sublist hfilter

theorem status_board (r : Request) (leads : List Value) :
    (r.board leads).map Lane.status = Board.statuses := by
  rw [Request.board]
  cases hboard : r.laned leads with
  | error failure => rfl
  | ok board => exact Board.status_of_build hboard

theorem lanes_sublist (r : Request) (leads : List Value) :
    ∀ l ∈ r.board leads, l.leads.Sublist leads := by
  rw [Request.board]
  cases hboard : r.laned leads with
  | error failure =>
      intro l hl
      rw [(Board.mem_empty hl).1]
      exact List.nil_sublist _
  | ok board => exact Board.leads_sublist_of_build hboard

/-- **Degradation.** Whatever fails in a refresh of the leads tab, each pass
leaves at most one message, in the order of the passes, its own fallback and
nothing else; and the leads of a lane are always some of those shown, these
some of those queued, and these some of the records, in their order. -/
theorem refresh_leads_degrades (h : r.IsTyped) (hkind : r.kind = .text Kind.lead.name)
    (hd : r.refresh clock = .ok d) :
    ∃ now queued filtered board, LeadQueue.referenceTime clock r.now = .ok now
      ∧ IsLeadsTab r.records.items d (r.setbacks now) queued filtered board := by
  obtain ⟨now, htime, rfl⟩ := Request.eq_leadsTab_of_refresh h hkind hd
  refine ⟨now, _, _, _, htime, rfl, rfl, rfl, rfl, status_board .., ?_, ?_, ?_, ?_,
    lanes_sublist _ _, shown_sublist h _, queued_sublist _ _⟩
  · simp only [Request.setbacks, Request.leadsTab]
    cases r.sorted now <;> simp [Attempt.failure?, Except.toOption]
  · simp only [Request.setbacks, Request.queued]
    cases r.sorted now <;> simp [Attempt.failure?, Except.toOption]
  · simp only [Request.setbacks, Request.shown]
    cases r.admitted (r.queued now) <;> simp [Attempt.failure?, Except.toOption]
  · simp only [Request.setbacks, Request.board]
    cases r.laned (r.shown (r.queued now)) with
    | ok board => simp [Attempt.failure?]
    | error failure => exact fun _ l hl => Board.mem_empty hl

theorem spoiledLeads_degrades :
    spoiledLeads.IsTyped
      ∧ spoiledLeads.refresh midJune = .ok (spoiledLeads.leadsTab midJune)
      ∧ spoiledLeads.setbacks midJune
          = ⟨some .amountTooLarge, some (.noLookup .list), some (.unhashable .list)⟩
      ∧ ∃ now queued filtered board,
          LeadQueue.referenceTime midJune spoiledLeads.now = .ok now
          ∧ IsLeadsTab spoiledLeads.records.items (spoiledLeads.leadsTab midJune)
              (spoiledLeads.setbacks now) queued filtered board := by
  have hstate : spoiledLeads.refresh midJune = .ok (spoiledLeads.leadsTab midJune) :=
    Request.refresh_leads spoiledLeads_isTyped rfl rfl
  exact ⟨spoiledLeads_isTyped, hstate, by decide +kernel,
    refresh_leads_degrades spoiledLeads_isTyped rfl hstate⟩

end Audience
