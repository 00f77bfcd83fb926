import Audience.Proofs.Refresh

/-!
# What a pass reads and what it writes

The state of a tab may be anything when a pass meets it: fields may be
missing, hold values of the wrong shape, or be left over from earlier passes.
This file says what every pass does to every state.

The work of a pass can be told apart from the state that it is done on.
`Pass.effect` reads a few fields (`Pass.reads`, `effect_congr`) and says what
will be written, `Effect.on` writes it, and `run_eq` puts the two together
again. Two facts follow.

- *Frame*: `run_frame`. A pass that is stopped has changed nothing, one that
  ends has changed its own fields only (`Pass.own`).
- *Unwinding*: `same_of_run`. A pass that does the same work on two states
  keeps the fields equal that are equal in both, and makes those equal that it
  sets (`Pass.sets`).

`Audience.Proofs.Runs` takes both from one pass to several.
-/

namespace Audience

theorem Value.exists_elements_of_length {v : Value} {n : Nat} (h : v.length = .ok n) :
    ∃ items, v.elements = .ok items := by
  cases v with
  | list l => exact ⟨_, rfl⟩
  | text t => exact ⟨_, rfl⟩
  | object fields => exact ⟨_, rfl⟩
  | null => cases h
  | bool b => cases h
  | int i => cases h
  | real x => cases h

namespace Dashboard

/-! ## Fields that two states share -/

/-- Two states hold the same in a field, or neither holds anything. -/
def Same (d e : Dashboard) : Field → Prop
  | .kind => d.kind = e.kind
  | .records => d.records = e.records
  | .clients => d.clients = e.clients
  | .quotes => d.quotes = e.quotes
  | .segment => d.segment = e.segment
  | .filters => d.filters = e.filters
  | .search => d.search = e.search
  | .queue => d.queue = e.queue
  | .now => d.now = e.now
  | .queued => d.queued = e.queued
  | .queueCounts => d.queueCounts = e.queueCounts
  | .filtered => d.filtered = e.filtered
  | .board => d.board = e.board
  | .errors => d.errors = e.errors

theorem Same.refl (d : Dashboard) (field : Field) : Same d d field := by
  cases field <;> rfl

theorem Same.symm {d e : Dashboard} {field : Field} (h : Same d e field) : Same e d field := by
  cases field <;> exact Eq.symm h

theorem Same.trans {d e f : Dashboard} {field : Field} (hde : Same d e field)
    (hef : Same e f field) : Same d f field := by
  cases field <;> exact Eq.trans hde hef

/-- A message can be added to the errors: they are a list, or missing. -/
def TakesErrors (d : Dashboard) : Prop := ∃ old, d.errors.getD (.list []) = .list old

/-! ## Passes and their effects -/

inductive Pass where
  | queue | filter | board
deriving DecidableEq, Repr

/-- What a pass that got to its work leaves: the values it writes, and the
failure it met if it did. -/
structure Effect where
  queued : Option Value := none
  queueCounts : Option Value := none
  filtered : Option Value := none
  board : Option Value := none
  failure : Option Failure := none

namespace Effect

def written (x : Effect) : Field → Option Value
  | .queued => x.queued
  | .queueCounts => x.queueCounts
  | .filtered => x.filtered
  | .board => x.board
  | _ => none

def write (x : Effect) (d : Dashboard) : Dashboard :=
  { d with
    queued := x.queued.or d.queued
    queueCounts := x.queueCounts.or d.queueCounts
    filtered := x.filtered.or d.filtered
    board := x.board.or d.board }

/-- The outcome of a pass with this effect. -/
def on (x : Effect) (label : Text) (d : Dashboard) : Outcome :=
  match x.failure with
  | none => .ended (x.write d)
  | some failure => d.fallBack label failure x.write

/-- How the errors before a pass and those after it differ. -/
def Logs (x : Effect) (label : Text) (before after : Option Value) : Prop :=
  match x.failure with
  | none => after = before
  | some failure => ∃ old, before.getD (.list []) = .list old
      ∧ after = some (.list (old ++ [.text (label ++ failure.message)]))

theorem on_eq_ended_iff {x : Effect} {label : Text} {d e : Dashboard} :
    x.on label d = .ended e ↔
      ∃ errors, x.Logs label d.errors errors ∧ e = { x.write d with errors } := by
  unfold on Logs
  cases x.failure with
  | none =>
      constructor
      · intro h
        cases h
        exact ⟨_, rfl, rfl⟩
      · rintro ⟨_, rfl, rfl⟩
        rfl
  | some failure =>
      simp only [fallBack]
      split
      · rename_i old hold
        constructor
        · intro h
          cases h
          exact ⟨_, ⟨old, hold, rfl⟩, rfl⟩
        · rintro ⟨_, ⟨old', hold', rfl⟩, rfl⟩
          cases hold.symm.trans hold'
          rfl
      · rename_i hnone
        constructor
        · intro h
          cases h
        · rintro ⟨_, ⟨old, hold, -⟩, -⟩
          exact absurd hold (hnone old)

theorem exists_on_eq_ended_iff {x : Effect} (label : Text) {d : Dashboard} :
    (∃ e, x.on label d = .ended e) ↔ (x.failure.isSome → d.TakesErrors) := by
  unfold on TakesErrors
  cases x.failure with
  | none =>
      refine iff_of_true ⟨_, rfl⟩ ?_
      intro h
      cases h
  | some failure =>
      simp only [fallBack, Option.isSome_some, forall_const]
      split
      · rename_i old hold
        exact iff_of_true ⟨_, rfl⟩ ⟨old, hold⟩
      · rename_i hnone
        refine iff_of_false ?_ ?_
        · rintro ⟨e, he⟩
          cases he
        · rintro ⟨old, hold⟩
          exact hnone old hold

theorem on_cases (x : Effect) (label : Text) (d : Dashboard) :
    (∃ e, x.on label d = .ended e) ∨ ∃ failure, x.on label d = .stopped d failure := by
  unfold on
  cases x.failure with
  | none => exact .inl ⟨_, rfl⟩
  | some failure =>
      simp only [fallBack]
      split
      · exact .inl ⟨_, rfl⟩
      · exact .inr ⟨_, rfl⟩

theorem same_of_not_written {x : Effect} {label : Text} {d e : Dashboard} {field : Field}
    (h : x.on label d = .ended e) (hfield : x.written field = none) (herrors : field ≠ .errors) :
    Same e d field := by
  obtain ⟨errors, -, rfl⟩ := on_eq_ended_iff.1 h
  cases field with
  | queued => exact (congrArg (·.or d.queued) hfield).trans (Option.none_or ..)
  | queueCounts => exact (congrArg (·.or d.queueCounts) hfield).trans (Option.none_or ..)
  | filtered => exact (congrArg (·.or d.filtered) hfield).trans (Option.none_or ..)
  | board => exact (congrArg (·.or d.board) hfield).trans (Option.none_or ..)
  | errors => exact absurd rfl herrors
  | _ => rfl

/-- One effect on two states: what was equal stays equal, and what is written
becomes equal. -/
theorem same_on {x : Effect} {label : Text} {d d' e e' : Dashboard} {field : Field}
    (hd : x.on label d = .ended d') (he : x.on label e = .ended e')
    (h : Same d e field ∨ (x.written field).isSome) : Same d' e' field := by
  obtain ⟨errors, hlog, rfl⟩ := on_eq_ended_iff.1 hd
  obtain ⟨errors', hlog', rfl⟩ := on_eq_ended_iff.1 he
  have hor : ∀ {w v v' : Option Value}, v = v' ∨ w.isSome → w.or v = w.or v' := by
    rintro (_ | w) v v' (rfl | hw)
    · rfl
    · cases hw
    · rfl
    · rfl
  cases field with
  | queued => exact hor h
  | queueCounts => exact hor h
  | filtered => exact hor h
  | board => exact hor h
  | errors =>
      have hsame : d.errors = e.errors := h.resolve_right (by simp [written])
      change errors = errors'
      unfold Logs at hlog hlog'
      rw [← hsame] at hlog'
      cases hfailure : x.failure with
      | none =>
          simp only [hfailure] at hlog hlog'
          rw [hlog, hlog']
      | some failure =>
          simp only [hfailure] at hlog hlog'
          obtain ⟨old, hold, rfl⟩ := hlog
          obtain ⟨old', hold', rfl⟩ := hlog'
          cases hold.symm.trans hold'
          rfl
  | _ => exact h.resolve_right (by simp [written])

end Effect

namespace Pass

/-- The beginning of the messages that a pass leaves. -/
def label : Pass → Text
  | .queue => "Queue pass failed: "
  | .filter => "Filter pass failed: "
  | .board => "Board aggregation failed: "

def run (clock : Instant) (pass : Pass) (d : Dashboard) : Outcome :=
  match pass with
  | .queue => d.queuePass clock
  | .filter => d.filterPass
  | .board => d.boardPass

/-- The fields that a pass may change. -/
def own : Pass → List Field
  | .queue => [.queued, .queueCounts, .errors]
  | .filter => [.filtered, .errors]
  | .board => [.board, .errors]

/-- The fields that a pass writes whenever it ends. -/
def sets : Pass → List Field
  | .queue => [.queued]
  | .filter => [.filtered]
  | .board => [.board]

/-- The fields that a pass takes its work from. -/
def reads : Pass → List Field
  | .queue => [.kind, .records, .queue, .now]
  | .filter => [.kind, .records, .queued, .segment, .filters, .search, .clients]
  | .board => [.filtered, .quotes]

/-- What a pass leaves, if it gets to its work. -/
def effect (clock : Instant) (pass : Pass) (d : Dashboard) : Attempt Effect :=
  match pass with
  | .queue =>
    let records := d.records.getD (.list [])
    if d.showsLeads then do
      let now ← LeadQueue.referenceTime clock (d.now.getD .null)
      let _ ← records.length
      let sorted := records.elements.bind (LeadQueue.sort now (.ofValue (d.queue.getD .null)))
      return { queued := some ((sorted.toOption.map fun s => .list s.2).getD records)
               queueCounts := sorted.toOption.map fun s => s.1.toValue
               failure := Attempt.failure? sorted }
    else return { queued := some records }
  | .filter => do
    let _ ← (d.queued.getD (d.records.getD (.list []))).length
    return { filtered := some (.list (d.filtering.toOption.getD []))
             failure := Attempt.failure? d.filtering }
  | .board => do
    let _ ← (d.filtered.getD (.list [])).length
    return { board := some (lanes (d.boarding.toOption.getD Board.empty))
             failure := Attempt.failure? d.boarding }

variable {clock clock' : Instant} {pass : Pass} {d d' e e' : Dashboard}

theorem effect_queue_other (clock : Instant) (h : d.showsLeads = false) :
    queue.effect clock d = .ok { queued := some (d.records.getD (.list [])) } := by
  simp [effect, h]

theorem effect_queue_leads (h : d.showsLeads = true) {now : Instant}
    (hnow : LeadQueue.referenceTime clock (d.now.getD .null) = .ok now) {leads : List Value}
    (hleads : (d.records.getD (.list [])).elements = .ok leads) :
    let sorted := LeadQueue.sort now (.ofValue (d.queue.getD .null)) leads
    queue.effect clock d = .ok
      { queued := some ((sorted.toOption.map fun s => .list s.2).getD (d.records.getD (.list [])))
        queueCounts := sorted.toOption.map fun s => s.1.toValue
        failure := Attempt.failure? sorted } := by
  simp only [effect, h, if_true, hnow, Value.length_of_elements hleads, hleads]
  rfl

theorem effect_filter (clock : Instant) {source : List Value}
    (hsource : (d.queued.getD (d.records.getD (.list []))).elements = .ok source) :
    filter.effect clock d = .ok
      { filtered := some (.list (d.filtering.toOption.getD []))
        failure := Attempt.failure? d.filtering } := by
  simp only [effect, Value.length_of_elements hsource]
  rfl

theorem effect_board (clock : Instant) {leads : List Value}
    (hleads : (d.filtered.getD (.list [])).elements = .ok leads) :
    board.effect clock d = .ok
      { board := some (lanes (d.boarding.toOption.getD Board.empty))
        failure := Attempt.failure? d.boarding } := by
  simp only [effect, Value.length_of_elements hleads]
  rfl

/-- A pass is its effect written to the state. One case per pass, and in each
the work either cannot start, or fails, or succeeds. -/
theorem run_eq (clock : Instant) (pass : Pass) (d : Dashboard) :
    pass.run clock d =
      match pass.effect clock d with
      | .error failure => .stopped d failure
      | .ok x => x.on pass.label d := by
  cases pass with
  | queue =>
      cases hleads : d.showsLeads with
      | false => rw [effect_queue_other clock hleads, run, queuePass_of_other hleads]; rfl
      | true =>
          cases hnow : LeadQueue.referenceTime clock (d.now.getD .null) with
          | error failure =>
              rw [run, queuePass_of_no_time hleads hnow]
              simp [effect, hleads, hnow, bind, Except.bind]
          | ok now =>
              cases hlength : (d.records.getD (.list [])).length with
              | error failure =>
                  simp [run, queuePass, effect, hleads, hnow, hlength, bind, Except.bind]
              | ok n =>
                  obtain ⟨leads, helements⟩ := Value.exists_elements_of_length hlength
                  rw [effect_queue_leads hleads hnow helements, run]
                  cases hsort :
                      LeadQueue.sort now (.ofValue (d.queue.getD .null)) leads with
                  | ok s => rw [queuePass_of_sorted hleads hnow helements hsort]; rfl
                  | error failure =>
                      rw [queuePass_of_unsorted hleads hnow helements hsort]; rfl
  | filter =>
      cases hlength : (d.queued.getD (d.records.getD (.list []))).length with
      | error failure => simp [run, filterPass, effect, hlength, bind, Except.bind]
      | ok n =>
          obtain ⟨source, helements⟩ := Value.exists_elements_of_length hlength
          rw [effect_filter clock helements, run]
          cases hfilter : d.filtering with
          | ok shown => rw [filterPass_of_shown helements hfilter]; rfl
          | error failure => rw [filterPass_of_failed helements hfilter]; rfl
  | board =>
      cases hlength : (d.filtered.getD (.list [])).length with
      | error failure => simp [run, boardPass, effect, hlength, bind, Except.bind]
      | ok n =>
          obtain ⟨leads, helements⟩ := Value.exists_elements_of_length hlength
          rw [effect_board clock helements, run]
          cases hboard : d.boarding with
          | ok board => rw [boardPass_of_built helements hboard]; rfl
          | error failure => rw [boardPass_of_failed helements hboard]; rfl

theorem run_eq_ended_iff :
    pass.run clock d = .ended d' ↔
      ∃ x, pass.effect clock d = .ok x ∧ x.on pass.label d = .ended d' := by
  rw [run_eq]
  cases pass.effect clock d with
  | error failure =>
      simp only [reduceCtorEq, false_and, exists_false, iff_false]
      intro h
      cases h
  | ok x => simp

/-! ## What an effect is made of -/

theorem effect_congr (h : ∀ field ∈ pass.reads, Same d e field) :
    pass.effect clock d = pass.effect clock e := by
  cases pass with
  | queue =>
      have hkind : d.kind = e.kind := h .kind (by decide)
      have hleads : d.showsLeads = e.showsLeads := by rw [showsLeads, hkind, showsLeads]
      have hrecords : d.records = e.records := h .records (by decide)
      have hqueue : d.queue = e.queue := h .queue (by decide)
      have hnow : d.now = e.now := h .now (by decide)
      simp only [effect, hleads, hrecords, hqueue, hnow]
  | filter =>
      have hkind : d.kind = e.kind := h .kind (by decide)
      have hrecords : d.records = e.records := h .records (by decide)
      have hqueued : d.queued = e.queued := h .queued (by decide)
      have hsegment : d.segment = e.segment := h .segment (by decide)
      have hfilters : d.filters = e.filters := h .filters (by decide)
      have hsearch : d.search = e.search := h .search (by decide)
      have hclients : d.clients = e.clients := h .clients (by decide)
      simp only [effect, filtering, controls, hkind, hrecords, hqueued, hsegment, hfilters,
        hsearch, hclients]
  | board =>
      have hfiltered : d.filtered = e.filtered := h .filtered (by decide)
      have hquotes : d.quotes = e.quotes := h .quotes (by decide)
      simp only [effect, boarding, hfiltered, hquotes]

/-- Effects that write all that a pass sets, and nothing that it does not
own. -/
structure Fits (pass : Pass) (x : Effect) : Prop where
  sets : ∀ field ∈ pass.sets, (x.written field).isSome
  own : ∀ field ∉ pass.own, x.written field = none

theorem fits_queue (v : Value) (counts : Option Value) (failure : Option Failure) :
    queue.Fits { queued := some v, queueCounts := counts, failure } where
  sets field h := by
    obtain rfl := List.mem_singleton.1 h
    rfl
  own field h := by cases field <;> first | rfl | exact absurd (by decide) h

theorem fits_filter (v : Value) (failure : Option Failure) :
    filter.Fits { filtered := some v, failure } where
  sets field h := by
    obtain rfl := List.mem_singleton.1 h
    rfl
  own field h := by cases field <;> first | rfl | exact absurd (by decide) h

theorem fits_board (v : Value) (failure : Option Failure) :
    board.Fits { board := some v, failure } where
  sets field h := by
    obtain rfl := List.mem_singleton.1 h
    rfl
  own field h := by cases field <;> first | rfl | exact absurd (by decide) h

theorem fits_of_effect {x : Effect} (hx : pass.effect clock d = .ok x) : pass.Fits x := by
  cases pass with
  | queue =>
      simp only [effect] at hx
      split at hx
      · simp only [Attempt.bind_eq_ok_iff] at hx
        obtain ⟨now, -, n, -, hx⟩ := hx
        cases hx
        exact fits_queue ..
      · cases hx
        exact fits_queue ..
  | filter =>
      simp only [effect, Attempt.bind_eq_ok_iff] at hx
      obtain ⟨n, -, hx⟩ := hx
      cases hx
      exact fits_filter ..
  | board =>
      simp only [effect, Attempt.bind_eq_ok_iff] at hx
      obtain ⟨n, -, hx⟩ := hx
      cases hx
      exact fits_board ..

theorem errors_mem_own (pass : Pass) : Field.errors ∈ pass.own := by
  cases pass <;> decide

/-! ## One pass -/

/-- A pass either ends or leaves the state as it was. -/
theorem run_cases (clock : Instant) (pass : Pass) (d : Dashboard) :
    (∃ d', pass.run clock d = .ended d') ∨ ∃ failure, pass.run clock d = .stopped d failure := by
  rw [run_eq]
  cases pass.effect clock d with
  | error failure => exact .inr ⟨failure, rfl⟩
  | ok x => exact x.on_cases pass.label d

theorem run_frame (h : pass.run clock d = .ended d') {field : Field} (hfield : field ∉ pass.own) :
    Same d' d field := by
  obtain ⟨x, hx, hon⟩ := run_eq_ended_iff.1 h
  refine Effect.same_of_not_written hon ((fits_of_effect hx).own field hfield) ?_
  rintro rfl
  exact hfield pass.errors_mem_own

theorem run_errors (h : pass.run clock d = .ended d') :
    d'.errors = d.errors ∨ ∃ old, ∃ failure : Failure, d.errors.getD (.list []) = .list old
      ∧ d'.errors = some (.list (old ++ [.text (pass.label ++ failure.message)])) := by
  obtain ⟨x, -, hon⟩ := run_eq_ended_iff.1 h
  obtain ⟨errors, hlog, rfl⟩ := Effect.on_eq_ended_iff.1 hon
  unfold Effect.Logs at hlog
  split at hlog
  · exact .inl hlog
  · rename_i failure hfailure
    obtain ⟨old, hold, rfl⟩ := hlog
    exact .inr ⟨old, failure, hold, rfl⟩

theorem takesErrors_iff_of_run (h : pass.run clock d = .ended d') :
    d'.TakesErrors ↔ d.TakesErrors := by
  rcases run_errors h with herrors | ⟨old, failure, hold, herrors⟩
  · simp only [TakesErrors, herrors]
  · exact iff_of_true ⟨_, by rw [herrors]; rfl⟩ ⟨old, hold⟩

/-- **Atomicity and frame.** Whatever a state holds, a pass that is stopped
leaves it exactly as it was. A pass that ends changes no field but its own,
and the errors are as they were or one message longer. -/
theorem run_atomic (clock : Instant) (pass : Pass) (d : Dashboard) :
    (∀ failure, (pass.run clock d).failure = some failure → (pass.run clock d).state = d)
      ∧ ((pass.run clock d).failure = none →
          (∀ field ∉ pass.own, Same (pass.run clock d).state d field)
            ∧ ((pass.run clock d).state.errors = d.errors
                ∨ ∃ old, ∃ failure : Failure, d.errors.getD (.list []) = .list old
                  ∧ (pass.run clock d).state.errors
                      = some (.list (old ++ [.text (pass.label ++ failure.message)])))) := by
  rcases run_cases clock pass d with ⟨d', hended⟩ | ⟨failure, hstopped⟩
  · rw [hended]
    refine ⟨?_, fun _ => ⟨fun field hfield => run_frame hended hfield, run_errors hended⟩⟩
    intro failure h
    cases h
  · rw [hstopped]
    refine ⟨fun _ _ => rfl, ?_⟩
    intro h
    cases h

/-- A tab whose filters cannot be read, with something left over in place of
the records shown. -/
def halfDone : Dashboard where
  records := some (.list [.null])
  filters := some (.list [.null])
  filtered := some (.int 5)
  errors := some (.list [.text "earlier"])

theorem halfDone_atomic :
    (board.run midJune halfDone).failure = some (.noLength .int)
      ∧ (board.run midJune halfDone).state = halfDone
      ∧ (filter.run midJune halfDone).failure = none
      ∧ (filter.run midJune halfDone).state.errors
          = some (.list [.text "earlier",
              .text "Filter pass failed: 'list' object has no attribute 'get'"])
      ∧ ∀ field ∉ filter.own, Same (filter.run midJune halfDone).state halfDone field := by
  obtain ⟨hstopped, -⟩ := run_atomic midJune board halfDone
  obtain ⟨-, hended⟩ := run_atomic midJune filter halfDone
  exact ⟨rfl, hstopped _ rfl, rfl, rfl, (hended rfl).1⟩

theorem exists_effect_of_runs (heffect : pass.effect clock d = pass.effect clock' e)
    (hd : pass.run clock d = .ended d') (he : pass.run clock' e = .ended e') :
    ∃ x, pass.effect clock d = .ok x ∧ x.on pass.label d = .ended d'
      ∧ x.on pass.label e = .ended e' := by
  obtain ⟨x, hx, hon⟩ := run_eq_ended_iff.1 hd
  obtain ⟨x', hx', hon'⟩ := run_eq_ended_iff.1 he
  rw [← heffect, hx] at hx'
  obtain rfl := Except.ok.inj hx'
  exact ⟨x, hx, hon, hon'⟩

/-- **Unwinding.** A pass with the same work to do on two states keeps equal
what is equal in both, and makes equal what it sets. -/
theorem same_of_run (heffect : pass.effect clock d = pass.effect clock' e)
    (hd : pass.run clock d = .ended d') (he : pass.run clock' e = .ended e') {field : Field}
    (h : Same d e field ∨ field ∈ pass.sets) : Same d' e' field := by
  obtain ⟨x, hx, hon, hon'⟩ := exists_effect_of_runs heffect hd he
  exact Effect.same_on hon hon' (h.imp_right ((fits_of_effect hx).sets field))

/-- States that agree in some fields, those that a pass reads among them, agree
in these fields after the pass. -/
theorem same_fields {P : Field → Prop} (hreads : ∀ field ∈ pass.reads, P field)
    (h : ∀ field, P field → Same d e field) (hd : pass.run clock d = .ended d')
    (he : pass.run clock e = .ended e') : ∀ field, P field → Same d' e' field := by
  have heffect : pass.effect clock d = pass.effect clock e :=
    effect_congr fun field hfield => h field (hreads field hfield)
  exact fun field hfield => same_of_run heffect hd he (.inl (h field hfield))

/-- A pass that ends on one state ends on another with the same work to do, if
it can leave a message there too. -/
theorem exists_run_of_run (heffect : pass.effect clock d = pass.effect clock' e)
    (herrors : d.TakesErrors → e.TakesErrors) (hd : pass.run clock d = .ended d') :
    ∃ e', pass.run clock' e = .ended e' ∧ (d'.TakesErrors → e'.TakesErrors) := by
  obtain ⟨x, hx, hon⟩ := run_eq_ended_iff.1 hd
  obtain ⟨e', hon'⟩ : ∃ e', x.on pass.label e = .ended e' :=
    (Effect.exists_on_eq_ended_iff _).2 fun hfailure =>
      herrors ((Effect.exists_on_eq_ended_iff _).1 ⟨d', hon⟩ hfailure)
  have he : pass.run clock' e = .ended e' := run_eq_ended_iff.2 ⟨x, heffect ▸ hx, hon'⟩
  refine ⟨e', he, ?_⟩
  rw [takesErrors_iff_of_run hd, takesErrors_iff_of_run he]
  exact herrors

end Pass

end Dashboard

end Audience
