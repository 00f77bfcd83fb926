import Audience.Proofs.Runs

/-!
# Badges count what the queues list

The badges are counted by classifying every lead once, by all rules; a queue
is listed by asking every lead for one rule. What the badges say is how long
the lists are, whatever the leads look like, and if the badges can be counted
at all no list can fail.

The two paths meet in one lead (`classifyAt_eq_ok_iff`): its flags are the
answers of the queues, and it has flags exactly if every queue has an answer.
Counting the flags is then counting the answers (`countP_of_each`), lead by
lead.
-/

namespace Audience

namespace LeadQueue

variable {clock time : Instant} {now lead v : Value} {queue : LeadQueue} {leads kept : List Value}
  {flags : Flags} {badges : Counts}

/-! ## The selected queue -/

/-- The queue that a value selects: the one that it names, and that of all
leads if it names none. -/
def IsSelected (v : Value) (queue : LeadQueue) : Prop :=
  v = .text queue.name ∨ queue = .all ∧ ∀ other : LeadQueue, v ≠ .text other.name

theorem isSelected_iff : IsSelected v queue ↔ ofValue v = queue := by
  have hname : ∀ q : LeadQueue, ofValue (.text q.name) = q := by
    intro q
    cases q <;> rfl
  have hother : (∀ q : LeadQueue, v ≠ .text q.name) → ofValue v = .all := by
    intro hnone
    have hfind : [stalled, awaitingResponse, highValue].find? (fun q => v.isText q.name) = none :=
      List.find?_eq_none.2 fun q _ hq => hnone q (Value.isText_iff.1 hq)
    rw [ofValue, hfind]
    rfl
  constructor
  · rintro (rfl | ⟨rfl, hnone⟩)
    · exact hname queue
    · exact hother hnone
  · rintro rfl
    by_cases h : ∃ q : LeadQueue, v = .text q.name
    · obtain ⟨q, rfl⟩ := h
      exact .inl (by rw [hname])
    · exact .inr ⟨hother fun q hq => h ⟨q, hq⟩, fun q hq => h ⟨q, hq⟩⟩

/-! ## One lead -/

theorem holdsAt_eq (hnow : referenceTime clock now = .ok time) (lead : Value)
    (queue : LeadQueue) : holdsAt clock now lead queue = holds time lead.fields queue := by
  cases queue with
  | stalled => rw [holdsAt, hnow]; rfl
  | all => rfl
  | awaitingResponse => rfl
  | highValue => rfl

theorem classifyAt_eq_ok_iff :
    classifyAt clock now lead = .ok flags ↔
      ∀ queue, holdsAt clock now lead queue = .ok (flags.marks queue) := by
  constructor
  · intro h queue
    rw [classifyAt, Attempt.bind_eq_ok_iff] at h
    obtain ⟨time, hnow, hflags⟩ := h
    rw [holdsAt_eq hnow]
    exact holds_of_classify hflags queue
  · intro h
    have hstalled := h .stalled
    rw [holdsAt, Attempt.bind_eq_ok_iff] at hstalled
    obtain ⟨time, hnow, hstalled⟩ := hstalled
    have hvalue : isHighValue lead.fields = .ok flags.highValue := h .highValue
    have hawaits : awaitsResponse lead.fields = flags.awaitingResponse :=
      Except.ok.inj (h .awaitingResponse)
    simp only [classifyAt, classify, hnow, hstalled, hvalue, hawaits, bind, Except.bind,
      Attempt.pure_eq_ok, Flags.marks]

/-! ## All leads -/

def Counts.of (badges : Counts) : LeadQueue → Nat
  | .all => badges.all
  | .stalled => badges.stalled
  | .awaitingResponse => badges.awaitingResponse
  | .highValue => badges.highValue

theorem Counts.of_ofFlags (flags : List Flags) (queue : LeadQueue) :
    (Counts.ofFlags flags).of queue = flags.countP (·.marks queue) := by
  cases queue with
  | all => exact (congrFun List.countP_true flags).symm
  | stalled => rfl
  | awaitingResponse => rfl
  | highValue => rfl

theorem Counts.get_toValue (badges : Counts) (queue : LeadQueue) :
    badges.toValue.fields.get queue.name = .int (badges.of queue) := by
  cases queue <;> rfl

theorem of_counts (h : counts time (.list leads) = .ok badges) (queue : LeadQueue) :
    badges.of queue
      = leads.countP fun lead => Attempt.passed (queue.holds time lead.fields) := by
  rw [counts_list, Attempt.map_eq_ok_iff] at h
  obtain ⟨flags, hflags, rfl⟩ := h
  rw [Counts.of_ofFlags]
  refine (Attempt.countP_of_each hflags fun lead f hf => ?_).symm
  rw [holds_of_classify hf, Attempt.passed]

theorem length_of_sort (h : sort time queue leads = .ok (badges, kept)) :
    kept.length = badges.of queue := by
  obtain ⟨hbadges, hkept⟩ := sort_eq_ok_iff.1 h
  rw [of_counts hbadges, (Attempt.keep_eq_ok_iff.1 hkept).2, List.countP_eq_length_filter]

theorem holdsAt_of_countsAt (h : countsAt clock now (.list leads) = .ok badges)
    (queue : LeadQueue) :
    (∀ lead ∈ leads, ∃ b, holdsAt clock now lead queue = .ok b)
      ∧ badges.of queue = leads.countP fun lead => Attempt.passed (holdsAt clock now lead queue) := by
  rw [countsAt, Attempt.bind_eq_ok_iff] at h
  obtain ⟨time, hnow, hbadges⟩ := h
  simp only [holdsAt_eq hnow]
  obtain ⟨kept, hkept⟩ := exists_keep_holds_of_counts hbadges queue
  exact ⟨(Attempt.keep_eq_ok_iff.1 hkept).1, of_counts hbadges queue⟩

end LeadQueue

/-! ## In a refresh -/

theorem Request.queueCounts_leadsTab (r : Request) (now : Instant) :
    (r.leadsTab now).queueCounts
      = ((r.sorted now).toOption.map Prod.fst).map LeadQueue.Counts.toValue := by
  rw [Option.map_map]
  rfl

open Dashboard in
/-- Badges that a queue pass has written to a state without any are those of
the leads that it has sorted, and so is the list. -/
theorem Dashboard.sort_of_queueCounts {clock : Instant} {d e : Dashboard} {records : List Value}
    {badges : Value} (hleads : d.showsLeads = true) (hrecords : d.records = some (.list records))
    (hfresh : d.queueCounts = none) (he : Pass.queue.run clock d = .ended e)
    (hbadges : e.queueCounts = some badges) :
    ∃ time counts kept,
      LeadQueue.sort time (.ofValue (d.queue.getD .null)) records = .ok (counts, kept)
        ∧ badges = counts.toValue ∧ e.queued = some (.list kept) := by
  cases hnow : LeadQueue.referenceTime clock (d.now.getD .null) with
  | error failure =>
      rw [Pass.run, queuePass_of_no_time hleads hnow] at he
      cases he
  | ok time =>
      have hitems : (d.records.getD (.list [])).elements = .ok records := by rw [hrecords]; rfl
      obtain ⟨x, hx, hon⟩ := Pass.run_eq_ended_iff.1 he
      rw [Pass.effect_queue_leads hleads hnow hitems] at hx
      obtain ⟨errors, -, rfl⟩ := Effect.on_eq_ended_iff.1 hon
      change x.queueCounts.or d.queueCounts = some badges at hbadges
      rw [hfresh, Option.or_none] at hbadges
      change ∃ time counts kept, _ ∧ _ ∧ x.queued.or d.queued = some (.list kept)
      cases hsort : LeadQueue.sort time (.ofValue (d.queue.getD .null)) records with
      | error failure =>
          rw [hsort] at hx
          cases hx
          cases hbadges
      | ok sorted =>
          rw [hsort] at hx
          cases hx
          cases hbadges
          exact ⟨time, sorted.1, sorted.2, hsort, rfl, rfl⟩

open Dashboard in
/-- The same for the state that a refresh leaves, which no later pass
changes in these fields. -/
theorem Request.sort_of_queueCounts {clock : Instant} {r : Request} {d : Dashboard}
    {badges : Value} (hkind : r.kind = .text Kind.lead.name) (hd : r.refresh clock = .ok d)
    (hbadges : d.queueCounts = some badges) :
    ∃ time leads counts kept, LeadQueue.sort time (.ofValue r.queue) leads = .ok (counts, kept)
      ∧ badges = counts.toValue ∧ d.queued = some (.list kept) := by
  obtain ⟨d₀, d₁, d₂, hd₀, hqueue, hfilter, hboard⟩ := refresh_eq_ok_iff.1 hd
  have hleads : d₀.showsLeads = true := (showsLeads_start_iff hd₀).2 hkind
  have hcounts : d.Same d₁ .queueCounts := later_frame hfilter hboard (by decide)
  have hqueued : d.Same d₁ .queued := later_frame hfilter hboard (by decide)
  obtain ⟨records, clients, quotes, -, -, -, rfl⟩ := start_eq_ok_iff.1 hd₀
  obtain ⟨time, counts, kept, hsort, hvalue, hkept⟩ :=
    Dashboard.sort_of_queueCounts hleads rfl rfl hqueue
      (Eq.trans (Eq.symm hcounts) hbadges)
  exact ⟨time, records, counts, kept, hsort, hvalue, Eq.trans hqueued hkept⟩

namespace LeadQueue

/-- **Badges and lists agree.** If the badges of some leads can be counted,
every lead has an answer for every queue, and a badge is the number of leads
with the answer yes. After a refresh with badges the selected queue is as
long as its badge says. And the flags of one lead are the answers of the
queues. What is compared reads one clock, which matters only where `now` is no
time. -/
theorem badges_match_lists (clock : Instant) :
    (∀ (now : Value) (leads : List Value) (badges : Counts),
      countsAt clock now (.list leads) = .ok badges → ∀ queue : LeadQueue,
        (∀ lead ∈ leads, ∃ b, holdsAt clock now lead queue = .ok b)
          ∧ badges.toValue.fields.get queue.name
              = .int (leads.countP fun lead => Attempt.passed (holdsAt clock now lead queue)))
      ∧ (∀ (r : Request) (d : Dashboard) (badges : Value), r.kind = .text Kind.lead.name →
          r.refresh clock = .ok d → d.queueCounts = some badges →
          ∃ kept, d.queued = some (.list kept) ∧ ∀ queue : LeadQueue, IsSelected r.queue queue →
            badges.fields.get queue.name = .int kept.length)
      ∧ ∀ (now lead : Value) (flags : Flags), classifyAt clock now lead = .ok flags ↔
          ∀ queue : LeadQueue, holdsAt clock now lead queue = .ok (flags.marks queue) := by
  refine ⟨fun now leads badges h queue => ?_, fun r d badges hkind hd hbadges => ?_,
    fun now lead flags => classifyAt_eq_ok_iff⟩
  · obtain ⟨hanswers, hcount⟩ := holdsAt_of_countsAt h queue
    exact ⟨hanswers, by rw [Counts.get_toValue, hcount]⟩
  · obtain ⟨time, leads, counts, kept, hsort, rfl, hqueued⟩ :=
      Request.sort_of_queueCounts hkind hd hbadges
    refine ⟨kept, hqueued, fun queue hselected => ?_⟩
    rw [isSelected_iff.1 hselected] at hsort
    rw [Counts.get_toValue, length_of_sort hsort]

/-- One lead of high value, one that was contacted, and two entries that are
no leads. -/
def mixedLeads : Request where
  kind := .text Kind.lead.name
  records := .list
    [.object [("estimatedValue", .int 20000)],
      .object [("status", .text contacted), ("lastContactDate", .text "2024-06-12T00:00:00Z")],
      .null, .int 3]
  queue := .text (name .stalled)

theorem mixedLeads_badges :
    countsAt midJune mixedLeads.now mixedLeads.records = .ok ⟨4, 3, 1, 1⟩
      ∧ (∀ queue : LeadQueue, ∀ lead ∈ mixedLeads.records.items,
          ∃ b, holdsAt midJune mixedLeads.now lead queue = .ok b)
      ∧ (∃ d kept, mixedLeads.refresh midJune = .ok d ∧ d.queued = some (.list kept)
          ∧ Value.int 3 = .int kept.length)
      ∧ ∀ queue : LeadQueue, holdsAt midJune mixedLeads.now .null queue
          = .ok (Flags.marks ⟨true, false, false⟩ queue) := by
  obtain ⟨hlists, hrefresh, hflags⟩ := badges_match_lists midJune
  have hbadges : countsAt midJune mixedLeads.now mixedLeads.records = .ok ⟨4, 3, 1, 1⟩ := by
    decide +kernel
  have htyped : mixedLeads.IsTyped := ⟨⟨_, rfl⟩, Value.isListOrNull_list _, .inl rfl, .inl rfl⟩
  have hstate : mixedLeads.refresh midJune = .ok (mixedLeads.leadsTab midJune) :=
    Request.refresh_leads htyped rfl rfl
  have hsorted : (mixedLeads.sorted midJune).toOption.map Prod.fst = some ⟨4, 3, 1, 1⟩ := by
    decide +kernel
  have hcounts : (mixedLeads.leadsTab midJune).queueCounts
      = some (Counts.toValue ⟨4, 3, 1, 1⟩) := by
    rw [Request.queueCounts_leadsTab, hsorted, Option.map_some]
  obtain ⟨kept, hkept, hlength⟩ := hrefresh mixedLeads _ _ rfl hstate hcounts
  exact ⟨hbadges, fun queue => (hlists _ _ _ hbadges queue).1,
    ⟨_, kept, hstate, hkept, hlength .stalled (.inl rfl)⟩,
    (hflags _ _ _).1 (by decide +kernel)⟩

end LeadQueue

end Audience
