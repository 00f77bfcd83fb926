import Audience.Dashboard.Refresh
import Audience.Proofs.Controls
import Audience.Proofs.Lanes
import Audience.Proofs.Passes

/-!
# A refresh in closed form

A refresh chains three passes over one state. For a request as the host
promises to make it (`Request.IsTyped`), the chain can be solved: each pass
contributes the result of one attempt, which depends on the request and the
list the pass starts from and on nothing else in the state.

- `Request.sorted`, `Request.admitted` and `Request.laned` are the attempts,
  and `Request.queued`, `Request.shown` and `Request.board` what stands in
  the state after them, whether they succeeded or not;
- `refresh_leads` and `refresh_other` are the final states on the tab of
  leads and on any other tab;
- `refresh_no_time` is the one way not to reach a final state.

Everything that `Audience.Proofs.Fallbacks` and `Audience.Proofs.Shown` say
about a refresh is read off these three equations.
-/

namespace Audience

/-- The failures of a refresh, one for each pass that failed. -/
structure Setbacks where
  queue : Option Failure
  filter : Option Failure
  board : Option Failure
deriving DecidableEq

open Dashboard in
/-- The messages about failures, in the order of the passes. -/
def Setbacks.messages (s : Setbacks) : List Value :=
  complaint "Queue pass failed: " s.queue ++ complaint "Filter pass failed: " s.filter
    ++ complaint "Board aggregation failed: " s.board

namespace Request

/-! ## Requests as promised -/

/-- What the host promises about a request: the kind is a word, and the lists
are lists or null. -/
structure IsTyped (r : Request) : Prop where
  kind : ∃ word, r.kind = .text word
  records : r.records.IsListOrNull
  clients : r.clients.IsListOrNull
  quotes : r.quotes.IsListOrNull

/-- What the user has set, with inactive filters where none are given. -/
def controls (r : Request) : Controls where
  segment := r.segment
  filters := r.filters.orElse (.object Sidebar.inactive)
  search := r.search

/-- The state before the first pass. -/
def opened (r : Request) : Dashboard where
  kind := some r.kind
  records := some (.list r.records.items)
  clients := some (.list r.clients.items)
  quotes := some (.list r.quotes.items)
  segment := some r.segment
  filters := some r.controls.filters
  search := some r.search
  queue := some r.queue
  now := some r.now
  errors := some (.list [])

theorem start_eq {r : Request} (h : r.IsTyped) : r.start = .ok r.opened := by
  simp only [start, Value.elementsOrNone_eq h.records, Value.elementsOrNone_eq h.clients,
    Value.elementsOrNone_eq h.quotes]
  rfl

/-! ## The three attempts -/

/-- The badges of all queues and the leads of the selected one. -/
def sorted (r : Request) (now : Instant) : Attempt (LeadQueue.Counts × List Value) :=
  LeadQueue.sort now (.ofValue r.queue) r.records.items

/-- The leads of the selected queue, or all records if they cannot be
sorted. -/
def queued (r : Request) (now : Instant) : List Value :=
  ((r.sorted now).toOption.map Prod.snd).getD r.records.items

/-- The records of a list that pass the controls. -/
def admitted (r : Request) (source : List Value) : Attempt (List Value) :=
  r.controls.filter r.kind (.list source) (.list r.clients.items)

/-- The records shown, none if the controls cannot be applied. -/
def shown (r : Request) (source : List Value) : List Value :=
  (r.admitted source).toOption.getD []

/-- The board of some leads. -/
def laned (r : Request) (leads : List Value) : Attempt (List Lane) :=
  Board.build (.list leads) (.list r.quotes.items)

/-- The lanes shown, without leads if they cannot be built. -/
def board (r : Request) (leads : List Value) : List Lane :=
  (r.laned leads).toOption.getD Board.empty

/-- The failures of the three attempts on the leads tab. -/
def setbacks (r : Request) (now : Instant) : Setbacks where
  queue := Attempt.failure? (r.sorted now)
  filter := Attempt.failure? (r.admitted (r.queued now))
  board := Attempt.failure? (r.laned (r.shown (r.queued now)))

variable {clock now : Instant} {r : Request}

theorem queued_of_sorted {badges : LeadQueue.Counts} {kept : List Value}
    (h : r.sorted now = .ok (badges, kept)) : r.queued now = kept := by
  rw [queued, h]
  rfl

theorem shown_of_admitted {source shown : List Value} (h : r.admitted source = .ok shown) :
    r.shown source = shown := by
  rw [Request.shown, h]
  rfl

theorem board_of_laned {leads : List Value} {board : List Lane}
    (h : r.laned leads = .ok board) : r.board leads = board := by
  rw [Request.board, h]
  rfl

/-! ## The final states -/

/-- The state after a refresh of the leads tab. -/
def leadsTab (r : Request) (now : Instant) : Dashboard :=
  { r.opened with
    queued := some (.list (r.queued now))
    queueCounts := (r.sorted now).toOption.map fun s => s.1.toValue
    filtered := some (.list (r.shown (r.queued now)))
    board := some (Dashboard.lanes (r.board (r.shown (r.queued now))))
    errors := some (.list (r.setbacks now).messages) }

/-- The state after a refresh of any other tab. -/
def otherTab (r : Request) : Dashboard :=
  { r.opened with
    queued := some (.list r.records.items)
    filtered := some (.list (r.shown r.records.items))
    errors := some (.list (Dashboard.complaint "Filter pass failed: "
      (Attempt.failure? (r.admitted r.records.items)))) }

theorem refresh_eq_run (h : r.IsTyped) : r.refresh clock = r.opened.run clock := by
  rw [refresh, start_eq h]
  rfl

theorem showsLeads_opened : r.opened.showsLeads = r.kind.isText Kind.lead.name := rfl

theorem showsLeads_of_kind (hkind : r.kind = .text Kind.lead.name) :
    r.opened.showsLeads = true := by
  rw [showsLeads_opened, hkind]
  rfl

/-- **The leads tab.** One equation for all eight ways in which the passes can
succeed and fail. -/
theorem refresh_leads (h : r.IsTyped) (hkind : r.kind = .text Kind.lead.name)
    (hnow : LeadQueue.referenceTime clock r.now = .ok now) :
    r.refresh clock = .ok (r.leadsTab now) := by
  have hleads := showsLeads_of_kind hkind
  have hqueue := Dashboard.queuePass_of_errors (d := r.opened) rfl rfl hleads hnow rfl rfl
  rw [refresh_eq_run h, Dashboard.run, hqueue]
  change (Dashboard.filterPass _).result >>= _ = _
  rw [Dashboard.filterPass_of_errors rfl rfl]
  change (if r.opened.showsLeads = true then (Dashboard.boardPass _).result else _) = _
  rw [if_pos hleads, Dashboard.boardPass_of_errors rfl rfl]
  rfl

theorem refresh_other (h : r.IsTyped) (hkind : r.kind ≠ .text Kind.lead.name) :
    r.refresh clock = .ok r.otherTab := by
  have hother : r.opened.showsLeads = false := by
    obtain ⟨word, hword⟩ := h.kind
    rw [showsLeads_opened, hword, Value.isText, decide_eq_false_iff_not]
    rintro rfl
    exact hkind hword
  rw [refresh_eq_run h, Dashboard.run, Dashboard.queuePass_of_other hother]
  change (Dashboard.filterPass _).result >>= _ = _
  rw [Dashboard.filterPass_of_errors rfl rfl]
  change (if r.opened.showsLeads = true then (Dashboard.boardPass _).result else _) = _
  rw [if_neg (by simp [hother])]
  rfl

/-- Without a reference time the leads tab has no final state. -/
theorem refresh_no_time (h : r.IsTyped) (hkind : r.kind = .text Kind.lead.name)
    (hnow : r.now.DateOverflows) : r.refresh clock = .error .dateOutOfRange := by
  have hleads := showsLeads_of_kind hkind
  rw [refresh_eq_run h, Dashboard.run, Dashboard.queuePass_of_no_time hleads
    (LeadQueue.referenceTime_eq_error_iff.2 ⟨hnow, rfl⟩)]
  rfl

/-- The two ways in which a refresh of the leads tab ends. -/
theorem refresh_leads_cases (clock : Instant) (h : r.IsTyped)
    (hkind : r.kind = .text Kind.lead.name) :
    (r.now.DateOverflows ∧ r.refresh clock = .error .dateOutOfRange)
      ∨ (¬ r.now.DateOverflows ∧ ∃ now, LeadQueue.referenceTime clock r.now = .ok now
          ∧ r.refresh clock = .ok (r.leadsTab now)) := by
  by_cases hnow : r.now.DateOverflows
  · exact .inl ⟨hnow, refresh_no_time h hkind hnow⟩
  · obtain ⟨now, htime⟩ : ∃ now, LeadQueue.referenceTime clock r.now = .ok now :=
      Attempt.exists_ok_iff.2 fun f hf => hnow (LeadQueue.referenceTime_eq_error_iff.1 hf).1
    exact .inr ⟨hnow, now, htime, refresh_leads h hkind htime⟩

theorem eq_otherTab_of_refresh {d : Dashboard} (h : r.IsTyped)
    (hkind : r.kind ≠ .text Kind.lead.name) (hd : r.refresh clock = .ok d) : d = r.otherTab := by
  rw [refresh_other h hkind] at hd
  cases hd
  rfl

theorem eq_leadsTab_of_refresh {d : Dashboard} (h : r.IsTyped)
    (hkind : r.kind = .text Kind.lead.name) (hd : r.refresh clock = .ok d) :
    ∃ now, LeadQueue.referenceTime clock r.now = .ok now ∧ d = r.leadsTab now := by
  rcases refresh_leads_cases clock h hkind with ⟨-, hfail⟩ | ⟨-, now, htime, hstate⟩
  · rw [hfail] at hd
    cases hd
  · rw [hstate] at hd
    cases hd
    exact ⟨now, htime, rfl⟩

end Request

/-- Noon on the 15th of June 2024, a clock to refresh by. -/
def midJune : Instant := ⟨63854049600000000, by decide⟩

end Audience
