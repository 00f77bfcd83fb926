import Audience.Proofs.Limits

/-!
# Queues and their badges

Two code paths look at a lead: `LeadQueue.classify` applies every rule to
it, for the badges, and `LeadQueue.holds` only the rule of the selected
queue, for the list. They agree (`holds_of_classify`), so once the badges
have been counted the list cannot fail - the fact that the queue pass needs
between its two writes.

`LeadQueue.sort` is that pass as one attempt. It succeeds exactly on leads
none of which is `Unsortable`, a condition on three fields of the lead and
on the reference time.
-/

namespace Audience

namespace LeadQueue

variable {now : Instant} {lead : Fields} {failure : Failure}

/-! ## When the rules have no answer -/

/-- A date of the lead is off the calendar, or the reference time is too
early to look back from. -/
def StalledUnknown (now : Instant) (lead : Fields) : Prop :=
  (lead.get "nextFollowupDate").DateOverflows ∨ (lead.get "lastContactDate").DateOverflows
    ∨ now.micros < stalledAfterDays * microsPerDay

theorem isStalled_eq_error_iff :
    isStalled now lead = .error failure ↔
      StalledUnknown now lead ∧ failure = .dateOutOfRange := by
  simp only [isStalled, StalledUnknown, Attempt.bind_eq_error_iff, Value.toInstant?_eq_error_iff,
    Instant.daysBefore_eq_error_iff, Attempt.pure_eq_ok, reduceCtorEq, and_false, exists_false,
    or_false]
  constructor
  · rintro (⟨h, rfl⟩ | ⟨_, -, ⟨h, rfl⟩ | ⟨_, -, h, rfl⟩⟩)
    · exact ⟨.inl h, rfl⟩
    · exact ⟨.inr (.inl h), rfl⟩
    · exact ⟨.inr (.inr h), rfl⟩
  · rintro ⟨h, rfl⟩
    by_cases hnext : (lead.get "nextFollowupDate").DateOverflows
    · exact .inl ⟨hnext, rfl⟩
    · obtain ⟨followup, hfollowup⟩ := Value.exists_toInstant?_ok_iff.2 hnext
      refine .inr ⟨followup, hfollowup, ?_⟩
      by_cases hlast : (lead.get "lastContactDate").DateOverflows
      · exact .inl ⟨hlast, rfl⟩
      · obtain ⟨contact, hcontact⟩ := Value.exists_toInstant?_ok_iff.2 hlast
        exact .inr ⟨contact, hcontact, (h.resolve_left hnext).resolve_left hlast, rfl⟩

theorem exists_isStalled_ok_iff :
    (∃ stalled, isStalled now lead = .ok stalled) ↔ ¬ StalledUnknown now lead := by
  simp only [Attempt.exists_ok_iff, ne_eq, isStalled_eq_error_iff]
  exact ⟨fun h hunknown => h _ ⟨hunknown, rfl⟩, fun h _ hfailure => h hfailure.1⟩

theorem isHighValue_eq_error_iff :
    isHighValue lead = .error failure ↔
      (lead.get "estimatedValue").AmountOverflows ∧ failure = .amountTooLarge := by
  rw [isHighValue, Attempt.map_eq_error_iff, Value.toAmount_eq_error_iff,
    Value.amountOverflows_orElse_zero]

/-- A lead that cannot be sorted into the queues: it can be told neither
whether it is stalled nor, in the other case, whether it is of high
value. -/
def Unsortable (now : Instant) (lead : Fields) : Prop :=
  StalledUnknown now lead ∨ (lead.get "estimatedValue").AmountOverflows

theorem classify_eq_error_iff :
    classify now lead = .error failure ↔
      (StalledUnknown now lead ∧ failure = .dateOutOfRange)
        ∨ (¬ StalledUnknown now lead ∧ (lead.get "estimatedValue").AmountOverflows
            ∧ failure = .amountTooLarge) := by
  simp only [classify, Attempt.bind_eq_error_iff, isStalled_eq_error_iff,
    isHighValue_eq_error_iff, Attempt.pure_eq_ok, reduceCtorEq, and_false, exists_false, or_false]
  refine or_congr_right ⟨?_, ?_⟩
  · rintro ⟨stalled, hstalled, hvalue⟩
    refine ⟨fun h => ?_, hvalue⟩
    rw [isStalled_eq_error_iff.2 ⟨h, rfl⟩] at hstalled
    cases hstalled
  · rintro ⟨hknown, hvalue⟩
    obtain ⟨stalled, hstalled⟩ := exists_isStalled_ok_iff.2 hknown
    exact ⟨stalled, hstalled, hvalue⟩

theorem exists_classify_ok_iff :
    (∃ flags, classify now lead = .ok flags) ↔ ¬ Unsortable now lead := by
  simp only [Attempt.exists_ok_iff, ne_eq, classify_eq_error_iff, Unsortable]
  constructor
  · intro h hun
    by_cases hs : StalledUnknown now lead
    · exact h _ (.inl ⟨hs, rfl⟩)
    · exact h _ (.inr ⟨hs, hun.resolve_left hs, rfl⟩)
  · rintro h _ (⟨hs, -⟩ | ⟨-, hv, -⟩)
    · exact h (.inl hs)
    · exact h (.inr hv)

/-! ## Badges and lists agree -/

/-- Whether flags put their lead into a queue. -/
def Flags.marks (flags : Flags) : LeadQueue → Bool
  | .all => true
  | .stalled => flags.stalled
  | .awaitingResponse => flags.awaitingResponse
  | .highValue => flags.highValue

/-- A lead that was classified is in the queues of its flags. One case per
queue. -/
theorem holds_of_classify {flags : Flags} (h : classify now lead = .ok flags)
    (queue : LeadQueue) : holds now lead queue = .ok (flags.marks queue) := by
  simp only [classify, Attempt.bind_eq_ok_iff, Attempt.pure_eq_ok, Except.ok.injEq] at h
  obtain ⟨stalled, hstalled, highValue, hvalue, rfl⟩ := h
  cases queue with
  | all => rfl
  | stalled => exact hstalled
  | awaitingResponse => rfl
  | highValue => exact hvalue

theorem counts_list (now : Instant) (leads : List Value) :
    counts now (.list leads)
      = (Attempt.each (fun lead => classify now lead.fields) leads).map Counts.ofFlags := by
  rw [counts, Value.elementsOrNone_eq (Value.isListOrNull_list leads)]
  rfl

/-- The badges can be counted if each lead can be sorted, on its own. -/
theorem exists_counts_ok_iff {leads : List Value} :
    (∃ badges, counts now (.list leads) = .ok badges) ↔
      ∀ lead ∈ leads, ¬ Unsortable now lead.fields := by
  simp only [counts_list, Attempt.exists_map_ok_iff, Attempt.exists_each_ok_iff,
    exists_classify_ok_iff]

/-! ## The queue pass as one attempt -/

/-- The badges of all queues, and the leads of one of them. -/
def sort (now : Instant) (queue : LeadQueue) (leads : List Value) :
    Attempt (Counts × List Value) := do
  let badges ← counts now (.list leads)
  let kept ← Attempt.keep (fun lead => queue.holds now lead.fields) leads
  return (badges, kept)

theorem sort_eq_ok_iff {queue : LeadQueue} {leads kept : List Value} {badges : Counts} :
    sort now queue leads = .ok (badges, kept) ↔
      counts now (.list leads) = .ok badges
        ∧ Attempt.keep (fun lead => queue.holds now lead.fields) leads = .ok kept := by
  simp only [sort, Attempt.bind_eq_ok_iff, Attempt.pure_eq_ok, Except.ok.injEq, Prod.mk.injEq]
  constructor
  · rintro ⟨_, hbadges, _, hkept, rfl, rfl⟩
    exact ⟨hbadges, hkept⟩
  · rintro ⟨hbadges, hkept⟩
    exact ⟨badges, hbadges, kept, hkept, rfl, rfl⟩

/-- Once the badges are there, the selected queue is. -/
theorem exists_keep_holds_of_counts {leads : List Value} {badges : Counts}
    (h : counts now (.list leads) = .ok badges) (queue : LeadQueue) :
    ∃ kept, Attempt.keep (fun lead => queue.holds now lead.fields) leads = .ok kept := by
  rw [counts_list, Attempt.map_eq_ok_iff] at h
  obtain ⟨flags, hflags, -⟩ := h
  refine Attempt.exists_keep_ok_iff.2 fun lead hlead => ?_
  obtain ⟨f, hf⟩ := Attempt.exists_each_ok_iff.1 ⟨flags, hflags⟩ lead hlead
  exact ⟨_, holds_of_classify hf queue⟩

/-- Leads can be sorted if each of them can, on its own. -/
theorem exists_sort_ok_iff {queue : LeadQueue} {leads : List Value} :
    (∃ r, sort now queue leads = .ok r) ↔ ∀ lead ∈ leads, ¬ Unsortable now lead.fields := by
  simp only [← exists_counts_ok_iff, Prod.exists, sort_eq_ok_iff]
  constructor
  · rintro ⟨badges, kept, hbadges, -⟩
    exact ⟨badges, hbadges⟩
  · rintro ⟨badges, hbadges⟩
    obtain ⟨kept, hkept⟩ := exists_keep_holds_of_counts hbadges queue
    exact ⟨badges, kept, hbadges, hkept⟩

end LeadQueue

end Audience
