import Audience.Proofs.Runs

/-!
# What a refresh does not depend on

A pass sees only some of what the host gives. Two refreshes that agree on
that agree on what the pass leaves, whatever the rest is and whether it can be
read at all.

`Request.Same` says that two requests agree in what becomes a field of the
state, `same_start` carries this over to the states that they start from, and
the unwinding of `Audience.Proofs.Runs` carries it through the passes.
-/

namespace Audience

namespace Dashboard

/-! ## The messages of one pass -/

/-- The messages among the errors that a pass has left. -/
def messagesOf (d : Dashboard) (pass : Pass) : List Value :=
  (d.errors.getD (.list [])).items.filter fun m => m.text?.any (·.startsWith pass.label)

theorem not_startsWith_label {pass other : Pass} (h : pass ≠ other) (t : Text) :
    (pass.label ++ t).startsWith other.label = false := by
  cases pass <;> cases other <;> first | exact absurd rfl h | rfl

variable {clock : Instant} {pass other : Pass} {passes : List Pass} {d d' : Dashboard}

theorem messagesOf_run (h : pass.run clock d = .ended d') (hne : pass ≠ other) :
    d'.messagesOf other = d.messagesOf other := by
  unfold messagesOf
  rcases Pass.run_errors h with herrors | ⟨old, failure, hold, herrors⟩
  · rw [herrors]
  · rw [herrors, hold, Option.getD_some, Value.items_list, Value.items_list, List.filter_append]
    rw [List.filter_cons_of_neg (by simp [Value.text?, not_startsWith_label hne]),
      List.filter_nil, List.append_nil]

theorem messagesOf_runAll (h : runAll clock passes d = .ok d') (hother : other ∉ passes) :
    d'.messagesOf other = d.messagesOf other := by
  induction passes generalizing d with
  | nil =>
      obtain rfl := Except.ok.inj h
      rfl
  | cons pass rest ih =>
      obtain ⟨d₁, hpass, hrest⟩ := runAll_cons_eq_ok_iff.1 h
      rw [List.mem_cons, not_or] at hother
      rw [ih hrest hother.2, messagesOf_run hpass (Ne.symm hother.1)]

end Dashboard

/-! ## Requests that agree -/

namespace Request

open Dashboard

variable {clock clock' : Instant} {r s : Request} {d e : Dashboard}

/-- Two requests give the same for a field of the state. The fields of the
passes they do not give at all. -/
def Same (r s : Request) : Field → Prop
  | .kind => r.kind = s.kind
  | .records => r.records = s.records
  | .clients => r.clients = s.clients
  | .quotes => r.quotes = s.quotes
  | .segment => r.segment = s.segment
  | .filters => r.filters = s.filters
  | .search => r.search = s.search
  | .queue => r.queue = s.queue
  | .now => r.now = s.now
  | .queued | .queueCounts | .filtered | .board | .errors => True

theorem same_start (hd : r.start = .ok d) (he : s.start = .ok e) {field : Field}
    (h : r.Same s field) : d.Same e field := by
  obtain ⟨records, clients, quotes, hrecords, hclients, hquotes, rfl⟩ := start_eq_ok_iff.1 hd
  obtain ⟨records', clients', quotes', hrecords', hclients', hquotes', rfl⟩ :=
    start_eq_ok_iff.1 he
  cases field with
  | records =>
      have hsame : r.records = s.records := h
      rw [hsame, hrecords'] at hrecords
      cases hrecords
      rfl
  | clients =>
      have hsame : r.clients = s.clients := h
      rw [hsame, hclients'] at hclients
      cases hclients
      rfl
  | quotes =>
      have hsame : r.quotes = s.quotes := h
      rw [hsame, hquotes'] at hquotes
      cases hquotes
      rfl
  | kind => exact congrArg some h
  | segment => exact congrArg some h
  | filters => exact congrArg (fun filters : Value => some (filters.orElse _)) h
  | search => exact congrArg some h
  | queue => exact congrArg some h
  | now => exact congrArg some h
  | _ => rfl

/-! ## The last pass -/

variable {d₀ d₁ d₂ e₀ e₁ e₂ : Dashboard}

theorem board_messagesOf {b : Bool} (h : runAll clock (if b then [.board] else []) d₂ = .ok d)
    {pass : Pass} (hpass : pass ≠ .board) : d.messagesOf pass = d₂.messagesOf pass := by
  refine messagesOf_runAll h fun hmem => ?_
  cases b with
  | false => cases hmem
  | true => exact hpass (List.mem_singleton.1 hmem)

/-! ## Two refreshes -/

/-- If the queue pass has the same to work with, what it leaves is the same. -/
theorem queue_same (h : ∀ field ∈ Pass.queue.reads, r.Same s field)
    (hd : r.refresh clock = .ok d) (he : s.refresh clock = .ok e) :
    d.queued = e.queued ∧ d.queueCounts = e.queueCounts
      ∧ d.messagesOf .queue = e.messagesOf .queue := by
  obtain ⟨d₀, d₁, d₂, hd₀, hd₁, hd₂, hd⟩ := refresh_eq_ok_iff.1 hd
  obtain ⟨e₀, e₁, e₂, he₀, he₁, he₂, he⟩ := refresh_eq_ok_iff.1 he
  have hsame : ∀ field, r.Same s field → d₁.Same e₁ field :=
    Pass.same_fields h (fun _ => same_start hd₀ he₀) hd₁ he₁
  -- the other two passes do not own what the queue pass leaves
  have hlater : ∀ field, field ∉ Pass.filter.own ∧ field ∉ Pass.board.own →
      r.Same s field → d.Same e field := by
    intro field hown hfield
    have hd₁e₁ : d₁.Same e₁ field := hsame field hfield
    exact (later_frame hd₂ hd hown).trans (hd₁e₁.trans (later_frame he₂ he hown).symm)
  refine ⟨hlater .queued (by decide) trivial, hlater .queueCounts (by decide) trivial, ?_⟩
  have herrors : d₁.errors = e₁.errors := hsame .errors trivial
  rw [board_messagesOf hd (by decide), board_messagesOf he (by decide),
    messagesOf_run hd₂ (by decide), messagesOf_run he₂ (by decide), messagesOf, herrors]
  rfl

/-- The filter pass sees everything but the quotes. -/
theorem filter_same (h : ∀ field, field ≠ .quotes → r.Same s field)
    (hd : r.refresh clock = .ok d) (he : s.refresh clock = .ok e) :
    d.filtered = e.filtered ∧ d.messagesOf .filter = e.messagesOf .filter := by
  obtain ⟨d₀, d₁, d₂, hd₀, hd₁, hd₂, hd⟩ := refresh_eq_ok_iff.1 hd
  obtain ⟨e₀, e₁, e₂, he₀, he₁, he₂, he⟩ := refresh_eq_ok_iff.1 he
  have hsame₀ : ∀ field, field ≠ .quotes → d₀.Same e₀ field :=
    fun field hfield => same_start hd₀ he₀ (h field hfield)
  have hsame₁ : ∀ field, field ≠ .quotes → d₁.Same e₁ field :=
    Pass.same_fields (by decide) hsame₀ hd₁ he₁
  have hsame₂ : ∀ field, field ≠ .quotes → d₂.Same e₂ field :=
    Pass.same_fields (by decide) hsame₁ hd₂ he₂
  constructor
  · have hdframe : d.Same d₂ .filtered := board_frame hd (by decide)
    have heframe : e.Same e₂ .filtered := board_frame he (by decide)
    exact hdframe.trans ((hsame₂ .filtered (by decide)).trans heframe.symm)
  · have herrors : d₂.errors = e₂.errors := hsame₂ .errors (by decide)
    rw [board_messagesOf hd (by decide), board_messagesOf he (by decide), messagesOf, herrors]
    rfl

/-! ## On another tab -/

theorem other_passes (hkind : r.kind ≠ .text Kind.lead.name) (hd : r.refresh clock = .ok d) :
    ∃ d₀ d₁, r.start = .ok d₀ ∧ d₀.showsLeads = false
      ∧ Pass.queue.run clock d₀ = .ended d₁ ∧ Pass.filter.run clock d₁ = .ended d := by
  obtain ⟨d₀, d₁, d₂, hd₀, hd₁, hd₂, hd⟩ := refresh_eq_ok_iff.1 hd
  have hleads : d₀.showsLeads = false :=
    Bool.eq_false_iff.2 fun h => hkind ((showsLeads_start_iff hd₀).1 h)
  rw [hleads] at hd
  obtain rfl := Except.ok.inj hd
  exact ⟨d₀, d₁, hd₀, hleads, hd₁, hd₂⟩

theorem no_badges (hkind : r.kind ≠ .text Kind.lead.name) (hd : r.refresh clock = .ok d) :
    d.queueCounts = none ∧ d.board = none := by
  obtain ⟨d₀, d₁, hd₀, hleads, hqueue, hfilter⟩ := other_passes hkind hd
  obtain ⟨records, clients, quotes, -, -, -, rfl⟩ := start_eq_ok_iff.1 hd₀
  cases (queuePass_of_other hleads).symm.trans hqueue
  have hcounts : d.Same _ .queueCounts := Pass.run_frame hfilter (by decide)
  have hboard : d.Same _ .board := Pass.run_frame hfilter (by decide)
  exact ⟨hcounts, hboard⟩

/-- Without queues neither the queue nor the time is looked at, and without a
board the quotes are not. -/
theorem other_same (hkind : r.kind ≠ .text Kind.lead.name)
    (h : ∀ field ∉ [.queue, .now, .quotes], r.Same s field)
    (hd : r.refresh clock = .ok d) (he : s.refresh clock' = .ok e) :
    d.queued = e.queued ∧ d.filtered = e.filtered ∧ d.errors = e.errors := by
  have hkind' : s.kind ≠ .text Kind.lead.name := by
    have hsame : r.kind = s.kind := h .kind (by decide)
    rwa [← hsame]
  obtain ⟨d₀, d₁, hd₀, hdleads, hdqueue, hdfilter⟩ := other_passes hkind hd
  obtain ⟨e₀, e₁, he₀, heleads, hequeue, hefilter⟩ := other_passes hkind' he
  have hsame₀ : ∀ field ∉ [.queue, .now, .quotes], d₀.Same e₀ field :=
    fun field hfield => same_start hd₀ he₀ (h field hfield)
  have hsame₁ : ∀ field ∉ [.queue, .now, .quotes], d₁.Same e₁ field := by
    have hrecords : d₀.records = e₀.records := hsame₀ .records (by decide)
    have heffect : Pass.queue.effect clock d₀ = Pass.queue.effect clock' e₀ := by
      rw [Pass.effect_queue_other clock hdleads, Pass.effect_queue_other clock' heleads, hrecords]
    exact fun field hfield => Pass.same_of_run heffect hdqueue hequeue (.inl (hsame₀ field hfield))
  have hsame₂ : ∀ field ∉ [.queue, .now, .quotes], d.Same e field := by
    have hreads : ∀ field ∈ Pass.filter.reads, field ∉ [.queue, .now, .quotes] := by decide
    have heffect : Pass.filter.effect clock d₁ = Pass.filter.effect clock' e₁ :=
      Pass.effect_congr fun field hfield => hsame₁ field (hreads field hfield)
    exact fun field hfield =>
      Pass.same_of_run heffect hdfilter hefilter (.inl (hsame₁ field hfield))
  exact ⟨hsame₂ .queued (by decide), hsame₂ .filtered (by decide), hsame₂ .errors (by decide)⟩

end Request

/-- **Non-interference.** Of two refreshes that both end:
those that differ in the segment, the filters, the search and the lists to
look things up in leave the same queue, badges and message about the queue;
those that differ in the quotes alone show the same records as well; and on a
tab without queues those that differ in the queue, the time and the quotes
leave the same lists and errors, at any two times, and neither has badges or
a board. -/
theorem refresh_noninterference {clock clock' : Instant} {r s : Request} {d e : Dashboard}
    (hd : r.refresh clock = .ok d) (he : s.refresh clock' = .ok e) :
    (clock = clock' →
        s = { r with segment := s.segment, filters := s.filters, search := s.search,
                     clients := s.clients, quotes := s.quotes } →
        d.queued = e.queued ∧ d.queueCounts = e.queueCounts
          ∧ d.messagesOf .queue = e.messagesOf .queue)
      ∧ (clock = clock' → s = { r with quotes := s.quotes } →
          (d.queued = e.queued ∧ d.queueCounts = e.queueCounts
            ∧ d.messagesOf .queue = e.messagesOf .queue)
          ∧ d.filtered = e.filtered ∧ d.messagesOf .filter = e.messagesOf .filter)
      ∧ (r.kind ≠ .text Kind.lead.name →
          s = { r with queue := s.queue, now := s.now, quotes := s.quotes } →
          (d.queued = e.queued ∧ d.filtered = e.filtered ∧ d.errors = e.errors)
          ∧ (d.queueCounts = none ∧ d.board = none)
          ∧ e.queueCounts = none ∧ e.board = none) := by
  refine ⟨?_, ?_, ?_⟩
  · rintro rfl hs
    refine Request.queue_same (fun field hfield => ?_) hd he
    rw [hs]
    cases field <;> first | rfl | exact trivial | exact absurd hfield (by decide)
  · rintro rfl hs
    have hsame : ∀ field, field ≠ .quotes → r.Same s field := by
      intro field hfield
      rw [hs]
      cases field <;> first | rfl | exact trivial | exact absurd rfl hfield
    have hreads : ∀ field ∈ Dashboard.Pass.queue.reads, field ≠ .quotes := by decide
    exact ⟨Request.queue_same (fun field hfield => hsame field (hreads field hfield)) hd he,
      Request.filter_same hsame hd he⟩
  · intro hkind hs
    have hkind' : s.kind ≠ .text Kind.lead.name := by
      rw [hs]
      exact hkind
    have hsame : ∀ field ∉ [.queue, .now, .quotes], r.Same s field := by
      intro field hfield
      rw [hs]
      cases field <;> first | rfl | exact trivial | exact absurd (by decide) hfield
    exact ⟨Request.other_same hkind hsame hd he, Request.no_badges hkind hd,
      Request.no_badges hkind' he⟩

/-- Two leads on the tab of one queue. -/
def twoLeads : Request where
  kind := .text Kind.lead.name
  records := .list [.object [("estimatedValue", .int 20000)], .null]
  queue := .text (LeadQueue.name .highValue)

/-- The same leads, with filters and quotes that cannot be read. -/
def twoLeadsSpoiled : Request :=
  { twoLeads with
    filters := .list [.null]
    quotes := .list [.object [("leadId", .int 1), ("status", .list [])]] }

theorem twoLeads_noninterference :
    ∃ d e, twoLeads.refresh midJune = .ok d ∧ twoLeadsSpoiled.refresh midJune = .ok e
      ∧ twoLeads.setbacks midJune = ⟨none, none, none⟩
      ∧ twoLeadsSpoiled.setbacks midJune
          = ⟨none, some (.noLookup .list), some (.unhashable .list)⟩
      ∧ d.queued = e.queued ∧ d.queueCounts = e.queueCounts
      ∧ d.messagesOf .queue = e.messagesOf .queue := by
  have htyped : twoLeads.IsTyped := ⟨⟨_, rfl⟩, Value.isListOrNull_list _, .inl rfl, .inl rfl⟩
  have htyped' : twoLeadsSpoiled.IsTyped :=
    ⟨⟨_, rfl⟩, Value.isListOrNull_list _, .inl rfl, Value.isListOrNull_list _⟩
  have hd : twoLeads.refresh midJune = .ok (twoLeads.leadsTab midJune) :=
    Request.refresh_leads htyped rfl rfl
  have he : twoLeadsSpoiled.refresh midJune = .ok (twoLeadsSpoiled.leadsTab midJune) :=
    Request.refresh_leads htyped' rfl rfl
  exact ⟨_, _, hd, he, by decide +kernel, by decide +kernel,
    (refresh_noninterference hd he).1 rfl rfl⟩

end Audience
