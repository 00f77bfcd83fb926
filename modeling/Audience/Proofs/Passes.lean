import Audience.Dashboard.Pass
import Audience.Proofs.Queues

/-!
# What one pass does to the state

Each pass runs one attempt - sorting the leads, filtering the records,
building the board - and writes either its result or a harmless stand-in and
a message. This file says so once per pass, for any state the pass can start
its work on: `queuePass_of_sorted` and `queuePass_of_unsorted` and their
counterparts give the state after it as an update of the state before.

With a list of errors there is no third ending. The uniform form, in which
`complaint` is the message about a failure and nothing without one, is what
`Audience.Proofs.Refresh` chains together.
-/

namespace Audience

theorem Value.length_of_elements {v : Value} {items : List Value} (h : v.elements = .ok items) :
    v.length = .ok items.length := by
  cases v with
  | list l => cases h; rfl
  | text t => cases h; simp [length]
  | object fields => cases h; simp [length]
  | null => cases h
  | bool b => cases h
  | int i => cases h
  | real x => cases h

theorem Value.elementsOrNone_of_elements {v : Value} {items : List Value}
    (h : v.elements = .ok items) : v.elementsOrNone = .ok items := by
  rw [elementsOrNone]
  split
  · exact h
  · rename_i hempty
    cases v with
    | list l => cases l <;> simp_all [elements, isTruthy]
    | text t => cases t <;> simp_all [elements, isTruthy]
    | object fields => cases fields <;> simp_all [elements, isTruthy]
    | null => cases h
    | bool b => cases h
    | int i => cases h
    | real x => cases h

namespace Dashboard

variable {clock now : Instant} {d : Dashboard} {failure : Failure}

/-- The message that a pass leaves, if its attempt failed. -/
def complaint (pass : Text) : Option Failure → List Value
  | none => []
  | some failure => [.text (pass ++ failure.message)]

theorem fallBack_of_errors {errors : List Value} (h : d.errors = some (.list errors))
    (pass : Text) (failure : Failure) (settle : Dashboard → Dashboard) :
    d.fallBack pass failure settle
      = .ended (settle { d with
          errors := some (.list (errors ++ [.text (pass ++ failure.message)])) }) := by
  simp only [fallBack, h, Option.getD_some]

/-! ## The queue pass -/

theorem queuePass_of_other (h : d.showsLeads = false) :
    d.queuePass clock = .ended { d with queued := some (d.records.getD (.list [])) } := by
  rw [queuePass, if_neg (by simp [h])]

theorem queuePass_of_no_time (h : d.showsLeads = true)
    (hnow : LeadQueue.referenceTime clock (d.now.getD .null) = .error failure) :
    d.queuePass clock = .stopped d failure := by
  rw [queuePass, if_pos h, hnow]

section Leads

variable {records : List Value}

theorem queuePass_eq_sortLeads (h : d.showsLeads = true)
    (hnow : LeadQueue.referenceTime clock (d.now.getD .null) = .ok now)
    (hrecords : (d.records.getD (.list [])).elements = .ok records) :
    d.queuePass clock = d.sortLeads now (d.records.getD (.list [])) := by
  simp only [queuePass, if_pos h, hnow, Value.length_of_elements hrecords]

theorem counts_of_elements {v : Value} (hrecords : v.elements = .ok records) :
    LeadQueue.counts now v = LeadQueue.counts now (.list records) := by
  rw [LeadQueue.counts, LeadQueue.counts, Value.elementsOrNone_of_elements hrecords,
    Value.elementsOrNone_eq (Value.isListOrNull_list records), Value.items_list]

/-- Sorted leads: the badges and the selected queue are written. -/
theorem queuePass_of_sorted (h : d.showsLeads = true)
    (hnow : LeadQueue.referenceTime clock (d.now.getD .null) = .ok now)
    (hrecords : (d.records.getD (.list [])).elements = .ok records)
    {badges : LeadQueue.Counts} {kept : List Value}
    (hsort : LeadQueue.sort now (.ofValue (d.queue.getD .null)) records = .ok (badges, kept)) :
    d.queuePass clock
      = .ended { d with queueCounts := some badges.toValue, queued := some (.list kept) } := by
  obtain ⟨hbadges, hkept⟩ := LeadQueue.sort_eq_ok_iff.1 hsort
  rw [queuePass_eq_sortLeads h hnow hrecords, sortLeads, counts_of_elements hrecords, hbadges]
  simp only [hrecords, Except.bind, hkept]

/-- Unsorted leads: all records stay, and no badges are written. The pass has
two places to fail in, and `exists_keep_holds_of_counts` rules out the
second, where the badges would be there already. -/
theorem queuePass_of_unsorted (h : d.showsLeads = true)
    (hnow : LeadQueue.referenceTime clock (d.now.getD .null) = .ok now)
    (hrecords : (d.records.getD (.list [])).elements = .ok records)
    (hsort : LeadQueue.sort now (.ofValue (d.queue.getD .null)) records = .error failure) :
    d.queuePass clock
      = d.fallBack "Queue pass failed: " failure fun e =>
          { e with queued := some (d.records.getD (.list [])) } := by
  have hbadges : LeadQueue.counts now (.list records) = .error failure := by
    rw [LeadQueue.sort, Attempt.bind_eq_error_iff] at hsort
    rcases hsort with hbadges | ⟨badges, hbadges, hkept⟩
    · exact hbadges
    · obtain ⟨kept, hok⟩ := LeadQueue.exists_keep_holds_of_counts hbadges
        (.ofValue (d.queue.getD .null))
      rw [hok] at hkept
      cases hkept
  rw [queuePass_eq_sortLeads h hnow hrecords, sortLeads, counts_of_elements hrecords, hbadges]

end Leads

/-! ## The filter pass -/

/-- The attempt of the filter pass. -/
def filtering (d : Dashboard) : Attempt (List Value) :=
  d.controls.filter (d.kind.getD (.text Kind.client.name))
    (d.queued.getD (d.records.getD (.list []))) (d.clients.getD .null)

section Source

variable {source : List Value}

theorem filterPass_of_shown
    (hsource : (d.queued.getD (d.records.getD (.list []))).elements = .ok source)
    {shown : List Value} (hshown : d.filtering = .ok shown) :
    d.filterPass = .ended { d with filtered := some (.list shown) } := by
  rw [filtering] at hshown
  simp only [filterPass, Value.length_of_elements hsource, hshown]

theorem filterPass_of_failed
    (hsource : (d.queued.getD (d.records.getD (.list []))).elements = .ok source)
    (hfailed : d.filtering = .error failure) :
    d.filterPass
      = d.fallBack "Filter pass failed: " failure fun e =>
          { e with filtered := some (.list []) } := by
  rw [filtering] at hfailed
  simp only [filterPass, Value.length_of_elements hsource, hfailed]

end Source

/-! ## The board pass -/

/-- The attempt of the board pass. -/
def boarding (d : Dashboard) : Attempt (List Lane) :=
  Board.build (d.filtered.getD (.list [])) (d.quotes.getD (.list []))

section Leads

variable {leads : List Value}

theorem boardPass_of_built (hleads : (d.filtered.getD (.list [])).elements = .ok leads)
    {board : List Lane} (hboard : d.boarding = .ok board) :
    d.boardPass = .ended { d with board := some (lanes board) } := by
  rw [boarding] at hboard
  simp only [boardPass, Value.length_of_elements hleads, hboard]

theorem boardPass_of_failed (hleads : (d.filtered.getD (.list [])).elements = .ok leads)
    (hfailed : d.boarding = .error failure) :
    d.boardPass
      = d.fallBack "Board aggregation failed: " failure fun e =>
          { e with board := some (lanes Board.empty) } := by
  rw [boarding] at hfailed
  simp only [boardPass, Value.length_of_elements hleads, hfailed]

end Leads

/-! ## With a list of errors

Every pass that starts its work ends, and appends its complaint. -/

section Errors

variable {errors : List Value}

theorem queuePass_of_errors (herrors : d.errors = some (.list errors))
    (hfresh : d.queueCounts = none) (h : d.showsLeads = true)
    (hnow : LeadQueue.referenceTime clock (d.now.getD .null) = .ok now) {records : List Value}
    (hrecords : d.records = some (.list records))
    {sorted : Attempt (LeadQueue.Counts × List Value)}
    (hsort : LeadQueue.sort now (.ofValue (d.queue.getD .null)) records = sorted) :
    d.queuePass clock = .ended { d with
      queued := some (.list ((sorted.toOption.map Prod.snd).getD records))
      queueCounts := sorted.toOption.map fun s => s.1.toValue
      errors := some (.list
        (errors ++ complaint "Queue pass failed: " (Attempt.failure? sorted))) } := by
  have hitems : (d.records.getD (.list [])).elements = .ok records := by rw [hrecords]; rfl
  cases sorted with
  | ok s =>
      rw [queuePass_of_sorted h hnow hitems hsort]
      simp only [Attempt.failure?, complaint, List.append_nil, Except.toOption, Option.map_some,
        Option.getD_some, ← herrors]
  | error failure =>
      rw [queuePass_of_unsorted h hnow hitems hsort, fallBack_of_errors herrors]
      simp only [Attempt.failure?, complaint, Except.toOption, Option.map_none, Option.getD_none,
        hrecords, Option.getD_some, ← hfresh]

theorem filterPass_of_errors (herrors : d.errors = some (.list errors)) {source : List Value}
    (hsource : d.queued = some (.list source)) :
    d.filterPass = .ended { d with
      filtered := some (.list (d.filtering.toOption.getD []))
      errors := some (.list
        (errors ++ complaint "Filter pass failed: " (Attempt.failure? d.filtering))) } := by
  have hitems : (d.queued.getD (d.records.getD (.list []))).elements = .ok source := by
    rw [hsource]; rfl
  cases hfilter : d.filtering with
  | ok shown =>
      rw [filterPass_of_shown hitems hfilter]
      simp only [Attempt.failure?, complaint, List.append_nil, Except.toOption, Option.getD_some,
        ← herrors]
  | error failure =>
      rw [filterPass_of_failed hitems hfilter, fallBack_of_errors herrors]
      rfl

theorem boardPass_of_errors (herrors : d.errors = some (.list errors)) {leads : List Value}
    (hleads : d.filtered = some (.list leads)) :
    d.boardPass = .ended { d with
      board := some (lanes (d.boarding.toOption.getD Board.empty))
      errors := some (.list
        (errors ++ complaint "Board aggregation failed: " (Attempt.failure? d.boarding))) } := by
  have hitems : (d.filtered.getD (.list [])).elements = .ok leads := by rw [hleads]; rfl
  cases hboard : d.boarding with
  | ok board =>
      rw [boardPass_of_built hitems hboard]
      simp only [Attempt.failure?, complaint, List.append_nil, Except.toOption, Option.getD_some,
        ← herrors]
  | error failure =>
      rw [boardPass_of_failed hitems hboard, fallBack_of_errors herrors]
      rfl

end Errors

end Dashboard

end Audience
