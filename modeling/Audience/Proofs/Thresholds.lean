import Audience.Proofs.Badges
import Audience.Proofs.Coercions
import Audience.Proofs.Composition
import Audience.Proofs.Quiet

/-!
# Queues with a threshold

Two of the lead queues draw a line. Whether a lead is stalled is a question of
when it is asked: its two dates fix a time after which the answer is yes, and
`Overdue` says which time that is. Whether it is of high value is a question of
one amount.

- `isStalled_eq_ok_iff` is the rule about dates as a condition on the reference
  time. It only grows with the time (`Overdue.mono`), so time puts leads into
  the queue and never takes them out, and the badge of the queue cannot shrink
  (`counts_mono`).
- `Controls.filter_of_worth` is the filter by a single criterion about the
  lifetime value. On leads this is the estimate, and the line that the queue
  draws is also drawn by a saved segment (`high_value_as_segment`).
-/

namespace Audience

/-! ## Counting days back -/

/-- A time so many days back lies so many days back. -/
theorem Instant.micros_daysBefore {i cutoff : Instant} {days : Nat}
    (h : i.daysBefore days = .ok cutoff) : cutoff.micros + days * microsPerDay = i.micros := by
  unfold daysBefore ofMicros at h
  split at h
  · rename_i hrange
    cases h
    dsimp only
    omega
  · cases h

/-- What names a time counts as given. -/
theorem Value.isTruthy_of_toInstant? {v : Value} {date : Instant}
    (h : v.toInstant? = .ok (some date)) : v.isTruthy = true := by
  cases v with
  | text t =>
      cases t with
      | nil => cases h
      | cons c rest => rfl
  | _ => cases h

namespace LeadQueue

variable {clock now later : Instant} {v w next last : Value} {lead : Fields}

/-! ## Stalled from a time on -/

/-- A lead with these two dates is overdue: its follow-up is past, or none is
scheduled and the last contact is more than the allowed days ago or never
was. -/
inductive Overdue (now : Instant) (next last : Value) : Prop where
  | followup {date : Instant} (hdate : next.toInstant? = .ok (some date))
      (hpast : date.micros < now.micros)
  | contact {date : Instant} (hfree : next.isTruthy = false)
      (hdate : last.toInstant? = .ok (some date))
      (hpast : date.micros + stalledAfterDays * microsPerDay < now.micros)
  | never (hfree : next.isTruthy = false) (hnever : last.isTruthy = false)

/-- What keeps a lead from being overdue, whatever else is known of it: a
follow-up that is given but no date, none and a last contact that is given but
no date, or a follow-up that is not past. -/
inductive Spared (now : Instant) (next last : Value) : Prop where
  | vagueFollowup (hgiven : next.isTruthy = true) (hnone : next.toInstant? = .ok none)
  | vagueContact (hfree : next.isTruthy = false) (hgiven : last.isTruthy = true)
      (hnone : last.toInstant? = .ok none)
  | upcoming {date : Instant} (hdate : next.toInstant? = .ok (some date))
      (hahead : now.micros ≤ date.micros)

theorem Overdue.mono (h : Overdue now next last) (hle : now.micros ≤ later.micros) :
    Overdue later next last := by
  cases h with
  | followup hdate hpast => exact .followup hdate (Nat.lt_of_lt_of_le hpast hle)
  | contact hfree hdate hpast => exact .contact hfree hdate (Nat.lt_of_lt_of_le hpast hle)
  | never hfree hnever => exact .never hfree hnever

theorem Spared.not_overdue (h : Spared now next last) : ¬ Overdue now next last := by
  intro hover
  cases h with
  | vagueFollowup hgiven hnone =>
      cases hover with
      | followup hdate _ => cases hnone.symm.trans hdate
      | contact hfree _ _ => cases hgiven.symm.trans hfree
      | never hfree _ => cases hgiven.symm.trans hfree
  | vagueContact hfree hgiven hnone =>
      cases hover with
      | followup hdate _ => cases (Value.isTruthy_of_toInstant? hdate).symm.trans hfree
      | contact _ hdate _ => cases hnone.symm.trans hdate
      | never _ hnever => cases hgiven.symm.trans hnever
  | upcoming hdate hahead =>
      have hgiven := Value.isTruthy_of_toInstant? hdate
      cases hover with
      | followup hdate' hpast =>
          cases hdate.symm.trans hdate'
          exact absurd hpast (Nat.not_lt.2 hahead)
      | contact hfree _ _ => cases hgiven.symm.trans hfree
      | never hfree _ => cases hgiven.symm.trans hfree

/-- The test of the queue, once the dates have been read. -/
theorem overdue_iff {followup contact : Option Instant} {cutoff : Instant}
    (hfollowup : next.toInstant? = .ok followup) (hcontact : last.toInstant? = .ok contact)
    (hcutoff : now.daysBefore stalledAfterDays = .ok cutoff) :
    (followup.any (·.before now)
        || (!next.isTruthy && (contact.any (·.before cutoff) || !last.isTruthy))) = true ↔
      Overdue now next last := by
  have hmicros := Instant.micros_daysBefore hcutoff
  simp only [Bool.or_eq_true, Bool.and_eq_true, Bool.not_eq_true', Option.any_eq_true,
    Instant.before, decide_eq_true_eq]
  constructor
  · rintro (⟨date, rfl, hpast⟩ | ⟨hfree, ⟨date, rfl, hpast⟩ | hnever⟩)
    · exact .followup hfollowup hpast
    · exact .contact hfree hcontact (by omega)
    · exact .never hfree hnever
  · intro h
    cases h with
    | followup hdate hpast =>
        cases hfollowup.symm.trans hdate
        exact .inl ⟨_, rfl, hpast⟩
    | contact hfree hdate hpast =>
        cases hcontact.symm.trans hdate
        exact .inr ⟨hfree, .inl ⟨_, rfl, by omega⟩⟩
    | never hfree hnever => exact .inr ⟨hfree, .inr hnever⟩

theorem isStalled_eq_ok_iff {stalled : Bool} :
    isStalled now lead = .ok stalled ↔
      ¬ StalledUnknown now lead
        ∧ (stalled = true ↔
            Overdue now (lead.get "nextFollowupDate") (lead.get "lastContactDate")) := by
  have hanswer : ∀ b, isStalled now lead = .ok b →
      (b = true ↔ Overdue now (lead.get "nextFollowupDate") (lead.get "lastContactDate")) := by
    intro b hb
    simp only [isStalled, Attempt.bind_eq_ok_iff, Attempt.pure_eq_ok, Except.ok.injEq] at hb
    obtain ⟨followup, hfollowup, contact, hcontact, cutoff, hcutoff, rfl⟩ := hb
    exact overdue_iff hfollowup hcontact hcutoff
  constructor
  · exact fun h => ⟨exists_isStalled_ok_iff.1 ⟨stalled, h⟩, hanswer stalled h⟩
  · rintro ⟨hknown, hiff⟩
    obtain ⟨b, hb⟩ := exists_isStalled_ok_iff.2 hknown
    rw [hb, Bool.eq_iff_iff.2 ((hanswer b hb).trans hiff.symm)]

/-- A later time does not make the rule about dates unanswerable. -/
theorem StalledUnknown.anti (h : StalledUnknown later lead) (hle : now.micros ≤ later.micros) :
    StalledUnknown now lead := by
  rcases h with hnext | hlast | hearly
  · exact .inl hnext
  · exact .inr (.inl hlast)
  · exact .inr (.inr (Nat.lt_of_le_of_lt hle hearly))

theorem Unsortable.anti (h : Unsortable later lead) (hle : now.micros ≤ later.micros) :
    Unsortable now lead :=
  h.imp_left fun hunknown => hunknown.anti hle

/-- A lead that is stalled stays so. -/
theorem isStalled_mono (h : isStalled now lead = .ok true) (hle : now.micros ≤ later.micros) :
    isStalled later lead = .ok true := by
  obtain ⟨hknown, hiff⟩ := isStalled_eq_ok_iff.1 h
  refine isStalled_eq_ok_iff.2 ⟨fun hunknown => hknown (hunknown.anti hle), ?_⟩
  exact iff_of_true rfl ((hiff.1 rfl).mono hle)

/-- **Badges in time.** What could be counted can be counted later, and of the
badges only that of the stalled leads changes; it does not shrink. -/
theorem counts_mono {leads : List Value} {badges : Counts}
    (h : counts now (.list leads) = .ok badges) (hle : now.micros ≤ later.micros) :
    ∃ stalled, counts later (.list leads) = .ok { badges with stalled }
      ∧ badges.stalled ≤ stalled := by
  obtain ⟨badges', h'⟩ := exists_counts_ok_iff.2 fun lead hlead hunsortable =>
    exists_counts_ok_iff.1 ⟨badges, h⟩ lead hlead (hunsortable.anti hle)
  have hall : badges'.all = badges.all := (of_counts h' .all).trans (of_counts h .all).symm
  have hawaits : badges'.awaitingResponse = badges.awaitingResponse :=
    (of_counts h' .awaitingResponse).trans (of_counts h .awaitingResponse).symm
  have hvalue : badges'.highValue = badges.highValue :=
    (of_counts h' .highValue).trans (of_counts h .highValue).symm
  refine ⟨badges'.stalled, ?_, ?_⟩
  · rw [h', ← hall, ← hawaits, ← hvalue]
  · have hstalled : badges.stalled = _ := of_counts h .stalled
    have hstalled' : badges'.stalled = _ := of_counts h' .stalled
    rw [hstalled, hstalled']
    refine List.countP_mono_left fun lead _ hpassed => ?_
    have hstays := isStalled_mono (Attempt.passed_eq_true_iff.1 hpassed) hle
    exact Attempt.passed_eq_true_iff.2 hstays

/-! ## With a time that is still a value -/

theorem isStalledAt_object (hnow : referenceTime clock v = .ok now) (lead : Fields) :
    isStalledAt clock v (.object lead) = isStalled now lead := by
  rw [isStalledAt, hnow]
  rfl

theorem countsAt_eq (hnow : referenceTime clock v = .ok now) (leads : Value) :
    countsAt clock v leads = counts now leads := by
  rw [countsAt, hnow]
  rfl

theorem isStalledAt_mono {lead : Value} (hnow : referenceTime clock v = .ok now)
    (hlater : referenceTime clock w = .ok later) (hle : now.micros ≤ later.micros)
    (h : isStalledAt clock v lead = .ok true) : isStalledAt clock w lead = .ok true := by
  cases lead with
  | object fields =>
      rw [isStalledAt_object hnow] at h
      rw [isStalledAt_object hlater]
      exact isStalled_mono h hle
  | _ =>
      rw [isStalledAt, hnow] at h
      cases h

/-- **Stalled from a time on.** With a time to look back from and two dates on
the calendar there is an answer. It is yes exactly if the lead is overdue, and
so it is no for a lead that is spared. Once it is yes it stays yes, and the badge
of the stalled leads does not shrink. -/
theorem stalled_from_a_time_on (clock : Instant) :
    (∀ (v : Value) (now cutoff : Instant) (lead : Fields), referenceTime clock v = .ok now →
        now.daysBefore stalledAfterDays = .ok cutoff →
        ¬ (lead.get "nextFollowupDate").DateOverflows →
        ¬ (lead.get "lastContactDate").DateOverflows →
        ∃ stalled, isStalledAt clock v (.object lead) = .ok stalled
          ∧ (stalled = true ↔
              Overdue now (lead.get "nextFollowupDate") (lead.get "lastContactDate"))
          ∧ (Spared now (lead.get "nextFollowupDate") (lead.get "lastContactDate") →
              stalled = false))
      ∧ ∀ (v w : Value) (now later : Instant), referenceTime clock v = .ok now →
          referenceTime clock w = .ok later → now.micros ≤ later.micros →
          (∀ lead, isStalledAt clock v lead = .ok true → isStalledAt clock w lead = .ok true)
            ∧ ∀ leads badges, countsAt clock v (.list leads) = .ok badges →
                ∃ stalled, countsAt clock w (.list leads) = .ok { badges with stalled }
                  ∧ badges.stalled ≤ stalled := by
  refine ⟨fun v now cutoff lead hnow hcutoff hnext hlast => ?_,
    fun v w now later hnow hlater hle => ⟨fun lead => isStalledAt_mono hnow hlater hle,
      fun leads badges hbadges => ?_⟩⟩
  · have hknown : ¬ StalledUnknown now lead := by
      rintro (hunknown | hunknown | hearly)
      · exact hnext hunknown
      · exact hlast hunknown
      · have hmicros := Instant.micros_daysBefore hcutoff
        omega
    obtain ⟨stalled, hstalled⟩ := exists_isStalled_ok_iff.2 hknown
    obtain ⟨-, hover⟩ := isStalled_eq_ok_iff.1 hstalled
    refine ⟨stalled, (isStalledAt_object hnow lead).trans hstalled, hover, fun hspared => ?_⟩
    exact Bool.eq_false_iff.2 fun h => hspared.not_overdue (hover.1 h)
  · rw [countsAt_eq hnow] at hbadges
    rw [countsAt_eq hlater]
    exact counts_mono hbadges hle

/-- A lead with nothing scheduled that was last contacted seven days before
`midJune`, to the microsecond. -/
def quietLead : Fields :=
  [("nextFollowupDate", .text ""), ("lastContactDate", .text "2024-06-08T12:00:00Z")]

/-- A lead whose follow-up is given but no date, and whose last contact was
years before. -/
def vagueLead : Fields :=
  [("nextFollowupDate", .text "soon"), ("lastContactDate", .text "2020-01-01")]

/-- Seven days after the contact is not yet too long; a microsecond more is. -/
theorem quietLead_stalled :
    ∃ later, referenceTime midJune (.text "2024-06-15T12:00:00.000001Z") = .ok later
      ∧ isStalledAt midJune .null (.object quietLead) = .ok false
      ∧ isStalledAt midJune (.text "2024-06-15T12:00:00.000001Z") (.object quietLead) = .ok true
      ∧ isStalledAt midJune (.text "2030-01-01") (.object quietLead) = .ok true
      ∧ isStalledAt midJune .null (.object vagueLead) = .ok false
      ∧ ∃ stalled, countsAt midJune (.text "2030-01-01") mixedLeads.records
          = .ok ⟨4, stalled, 1, 1⟩ ∧ 3 ≤ stalled := by
  obtain ⟨hanswer, hlasts⟩ := stalled_from_a_time_on midJune
  let later : Instant := ⟨midJune.micros + 1, by decide⟩
  let contact : Instant := ⟨63853444800000000, by decide⟩
  have hnow : referenceTime midJune .null = .ok midJune := rfl
  have hlater : referenceTime midJune (.text "2024-06-15T12:00:00.000001Z") = .ok later := by
    rfl
  have hcontact : (quietLead.get "lastContactDate").toInstant? = .ok (some contact) := by
    rfl
  have hcutoff : midJune.daysBefore stalledAfterDays = .ok contact := by decide +kernel
  have hstays : isStalledAt midJune (.text "2024-06-15T12:00:00.000001Z") (.object quietLead)
      = .ok true := by
    obtain ⟨stalled, hstalled, hiff, -⟩ := hanswer _ _ ⟨contact.micros + 1, by decide⟩ quietLead
      hlater (by decide +kernel) (by decide +kernel) (by decide +kernel)
    rw [hstalled, hiff.2 (.contact rfl hcontact (by decide))]
  obtain ⟨newYear, hnewYear, hfar⟩ : ∃ newYear,
      referenceTime midJune (.text "2030-01-01") = .ok newYear ∧ later.micros ≤ newYear.micros :=
    ⟨⟨64029052800000000, by decide⟩, by decide +kernel, by decide⟩
  refine ⟨later, hlater, ?_, hstays, ?_, ?_, ?_⟩
  · obtain ⟨stalled, hstalled, hiff, -⟩ := hanswer _ _ _ quietLead hnow hcutoff
      (by decide +kernel) (by decide +kernel)
    have hnot : stalled ≠ true := by
      intro h
      cases hiff.1 h with
      | followup hdate hpast => cases hdate
      | contact hfree hdate hpast =>
          cases hcontact.symm.trans hdate
          exact absurd hpast (by decide)
      | never hfree hnever => cases hnever
    rw [hstalled, Bool.eq_false_iff.2 hnot]
  · exact (hlasts _ _ _ _ hlater hnewYear hfar).1 _ hstays
  · obtain ⟨stalled, hstalled, -, hspared⟩ := hanswer _ _ _ vagueLead hnow hcutoff
      (by decide +kernel) (by decide +kernel)
    rw [hstalled, hspared (.vagueFollowup rfl (by decide +kernel))]
  · have hle : midJune.micros ≤ newYear.micros := Nat.le_trans (by decide) hfar
    exact (hlasts _ _ _ _ hnow hnewYear hle).2 _ ⟨4, 3, 1, 1⟩ (by decide +kernel)

end LeadQueue

/-! ## A criterion about the worth -/

theorem Value.isNull_orElse_zero (v : Value) : (v.orElse (.int 0)).isNull = false := by
  unfold orElse
  split
  · cases v with
    | null => contradiction
    | _ => rfl
  · rfl

/-- The lifetime value of a record's context is the worth that the record states,
and zero if it states none. -/
theorem Rule.lifetime_ofRecord (kind : Kind) (index : ClientIndex) (record : Value) :
    lifetime (.ofRecord (some kind) index record)
      = ((record.fields.get kind.worthKey).orElse (.int 0)).toAmount := by
  rw [lifetime, Context.lifetimeValue_ofRecord, Value.isNull_orElse_zero]
  rfl

theorem Value.eq_ofInt_of_toAmount {i : Int} {x : Binary64} (h : (int i).toAmount = .ok x) :
    x = .ofInt i := by
  unfold toAmount at h
  dsimp only at h
  split at h
  · exact (Except.ok.inj h).symm
  · cases h

/-- A criterion about the lifetime value with a single integer asks for at least
that much. -/
theorem Criterion.rule_of_worth {criterion : Fields} {c : Criterion} {i : Int}
    (h : ofValue (.object criterion) = .ok c)
    (hfield : memberText criterion "field" = Text.ofString "lifetimeValue")
    (hvalue : criterion.get "value" = .int i) : c.rule = .lifetimeMinimum (.ofInt i) := by
  obtain ⟨rule, hrule, h⟩ := Attempt.bind_eq_ok_iff.1 h
  rw [hfield, hvalue] at hrule
  change (Value.int i).toAmount.map Rule.lifetimeMinimum = .ok rule at hrule
  obtain ⟨minimum, hminimum, rfl⟩ := Attempt.map_eq_ok_iff.1 hrule
  cases h
  rw [Value.eq_ofInt_of_toAmount hminimum]

namespace Selection

/-- The selected segment has one criterion, the one that a value describes. -/
def HasOnly (selection : Selection) (v : Value) : Prop :=
  ∃ s c, selection.resolve = .ok (some s) ∧ Criterion.ofValue v = .ok c ∧ s.criteria = [c]

theorem hasOnly_saved {fields : Fields} {v : Value}
    (hcriteria : fields.get "criteria" = .list [v])
    (hreads : ∃ s, Segment.ofValue (.object fields) = .ok s) :
    (saved (.object fields)).HasOnly v := by
  obtain ⟨s, hs⟩ := hreads
  obtain ⟨_, criteria, _, -, heach, -, rfl⟩ := Segment.ofValue_object_eq_ok_iff.1 hs
  rw [hcriteria, Value.items_list, Attempt.each_eq_ok_iff] at heach
  obtain ⟨c, rest, rfl, hc, hrest⟩ := List.map_eq_cons_iff.1 heach.symm
  cases List.map_eq_nil_iff.1 hrest
  exact ⟨_, c, resolve_saved_object_eq_ok_iff.2 ⟨_, hs, rfl⟩, hc.symm, rfl⟩

end Selection

namespace Controls

variable {controls : Controls} {v clients : Value} {kind : Kind} {criterion : Fields}

/-- **The filter by worth.** Where only a criterion about the lifetime value can
exclude a record, the filter keeps the records whose worth is at least the bound. -/
theorem filter_of_worth {i : Int} (hplain : controls.IsPlain)
    (hsegment : controls.segment.HasOnly (.object criterion))
    (hfield : Criterion.memberText criterion "field" = Text.ofString "lifetimeValue")
    (hvalue : criterion.get "value" = .int i) (hkind : Kind.named? v = some kind)
    (hclients : clients.IsListOrNull) (records : List Value) :
    controls.filter v (.list records) clients
      = Attempt.keep (fun record => ((record.fields.get kind.worthKey).orElse (.int 0)).toAmount.map
          (Binary64.ofInt i).le) records := by
  obtain ⟨s, c, hs, hc, hcriteria⟩ := hsegment
  rw [filter_of_test (test_of_resolve hs hkind hclients)]
  congr 1
  funext record
  rw [passes_of_isPlain hplain, Selection.accepts_of_resolve hs]
  change Attempt.all _ s.criteria = _
  rw [hcriteria, Attempt.all_cons, Attempt.all, Attempt.both_true,
    Criterion.rule_of_worth hc hfield hvalue, Rule.holds, Rule.lifetime_ofRecord]

end Controls

namespace LeadQueue

/-- **The queue as a segment.** A segment with the one criterion that the lifetime
value is at least 10,000 leaves of some leads those that are in the queue of the
leads of high value, at any time. Both fail if the estimate of a lead is an integer
beyond the doubles, with the same failure, and on no other leads. -/
theorem high_value_as_segment {controls : Controls} {criterion : Fields} {clients : Value}
    (hplain : controls.IsPlain) (hsegment : controls.segment.HasOnly (.object criterion))
    (hfield : Criterion.memberText criterion "field" = Text.ofString "lifetimeValue")
    (hvalue : criterion.get "value" = .int 10000) (hclients : clients.IsListOrNull)
    (clock : Instant) (now : Value) (leads : List Value) :
    controls.filter (.text Kind.lead.name) (.list leads) clients
        = Attempt.keep (fun lead => holdsAt clock now lead (.ofValue (.text "high_value"))) leads
      ∧ ∀ failure, controls.filter (.text Kind.lead.name) (.list leads) clients = .error failure ↔
          failure = .amountTooLarge
            ∧ ∃ lead ∈ leads, (lead.fields.get "estimatedValue").AmountOverflows := by
  have hkind : Kind.named? (.text Kind.lead.name) = some .lead := rfl
  have hkept : controls.filter (.text Kind.lead.name) (.list leads) clients
      = Attempt.keep (fun lead => isHighValue lead.fields) leads :=
    Controls.filter_of_worth hplain hsegment hfield hvalue hkind hclients leads
  have hfails : ∀ failure, controls.filter (.text Kind.lead.name) (.list leads) clients
      = .error failure → failure = .amountTooLarge := by
    intro failure h
    rw [hkept, Attempt.keep_eq_error_iff] at h
    obtain ⟨_, lead, _, -, -, hlead⟩ := h
    exact (isHighValue_eq_error_iff.1 hlead).2
  have hreads : (∃ failure, controls.filter (.text Kind.lead.name) (.list leads) clients
      = .error failure) ↔ ∃ lead ∈ leads, (lead.fields.get "estimatedValue").AmountOverflows := by
    rw [hkept, Attempt.exists_error_iff, Attempt.exists_keep_ok_iff]
    simp only [Attempt.exists_ok_iff, ne_eq, isHighValue_eq_error_iff]
    simp
  refine ⟨hkept, fun failure => ⟨fun h => ⟨hfails failure h, hreads.1 ⟨failure, h⟩⟩, ?_⟩⟩
  rintro ⟨rfl, hlead⟩
  obtain ⟨failure, h⟩ := hreads.2 hlead
  rw [h, hfails failure h]

/-- A criterion for a worth of at least ten thousand. -/
def worthTenThousand : Fields := [("field", .text "lifetimeValue"), ("value", .int 10000)]

/-- Controls with nothing set but a segment of that one criterion. -/
def valuable : Controls := .only [.object worthTenThousand]

def estimated (v : Value) : Value := .object [("estimatedValue", v)]

/-- Estimates on the line, just below it, beyond all bounds and not a number, two
that are not given, and two entries that are no leads. -/
def pricedLeads : List Value :=
  [estimated (.int 10000), estimated (.text " 9999.99 "), estimated (.text "inf"),
    estimated (.text "nan"), estimated .null, estimated (.list []), .null, .text "lead"]

theorem pricedLeads_agree :
    valuable.IsPlain
      ∧ valuable.segment.HasOnly (.object worthTenThousand)
      ∧ valuable.filter (.text Kind.lead.name) (.list pricedLeads) .null
          = .ok [estimated (.int 10000), estimated (.text "inf")]
      ∧ valuable.filter (.text Kind.lead.name)
          (.list (pricedLeads ++ [estimated (.int (.ofNat (Nat.pow 10 400)))])) .null
          = .error .amountTooLarge := by
  have hplain : valuable.IsPlain := Controls.isPlain_null _
  have hsegment : valuable.segment.HasOnly (.object worthTenThousand) :=
    Selection.hasOnly_saved (by rfl) (Attempt.failure?_eq_none_iff.1 (by decide +kernel))
  have hagree := high_value_as_segment hplain hsegment (by rfl) (by rfl) (.inl rfl) midJune .null
  refine ⟨hplain, hsegment, ?_, ?_⟩
  · have hanswers : pricedLeads.map (fun lead =>
          holdsAt midJune .null lead (.ofValue (.text "high_value")))
        = [.ok true, .ok false, .ok true, .ok false, .ok false, .ok false, .ok false,
            .ok false] := by decide +kernel
    simp only [pricedLeads, List.map_cons, List.cons.injEq] at hanswers
    rw [(hagree pricedLeads).1]
    simp only [pricedLeads, Attempt.keep, hanswers]
    rfl
  · exact ((hagree _).2 _).2 ⟨rfl, _, List.mem_append_right _ (List.mem_singleton_self _),
      by decide +kernel⟩

end LeadQueue

end Audience
