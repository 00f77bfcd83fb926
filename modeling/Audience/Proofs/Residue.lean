import Audience.Proofs.Runs

/-!
# Earlier passes leave no residue

A state may have been through any passes before it is refreshed, some of
which ended and some of which were stopped, and what they left in it may be
stale. None of it shows afterwards: the passes of a refresh leave the same
lists, badges and board as if they had been the first.

`Descends` is the invariant behind this. It says what any run of passes keeps
of the state it started from: the fields that the host gives, the errors so
far, and - the one field that a refresh does not always overwrite - the badges
that a queue pass would leave. `descends_run` is the step, `descends_perform`
the run, and `runAll_of_descends` compares a refresh of both states.
-/

namespace Audience

namespace Dashboard

variable {clock : Instant} {pass : Pass} {d d' e : Dashboard}

/-- The state after some passes, all of which read one clock. A pass that is
stopped does not keep the next one from being tried. -/
def perform (clock : Instant) (passes : List Pass) (d : Dashboard) : Dashboard :=
  passes.foldl (fun d pass => (pass.run clock d).state) d

theorem perform_append (clock : Instant) (passes more : List Pass) (d : Dashboard) :
    perform clock (passes ++ more) d = perform clock more (perform clock passes d) :=
  List.foldl_append ..

theorem perform_eq_of_runAll {passes : List Pass} (h : runAll clock passes d = .ok e) :
    perform clock passes d = e := by
  induction passes generalizing d with
  | nil => exact Except.ok.inj h
  | cons pass rest ih =>
      obtain ⟨d₁, hpass, hrest⟩ := runAll_cons_eq_ok_iff.1 h
      rw [perform, List.foldl_cons, hpass]
      exact ih hrest

/-! ## Errors -/

/-- The errors are those of an earlier state, or these with more after them. -/
def Grows (d e : Dashboard) : Prop :=
  e.errors = d.errors
    ∨ ∃ old more, d.errors.getD (.list []) = .list old ∧ e.errors = some (.list (old ++ more))

theorem Grows.refl (d : Dashboard) : Grows d d := .inl rfl

theorem Grows.trans {f : Dashboard} (hde : Grows d e) (hef : Grows e f) : Grows d f := by
  rcases hde with hde | ⟨old, more, hold, hde⟩
  · unfold Grows at hef ⊢
    rwa [hde] at hef
  · rcases hef with hef | ⟨old', more', hold', hef⟩
    · exact .inr ⟨old, more, hold, hef.trans hde⟩
    · rw [hde] at hold'
      obtain rfl := Value.list.inj hold'
      exact .inr ⟨old, more ++ more', hold, by rw [hef, List.append_assoc]⟩

theorem Grows.takesErrors (h : Grows d e) (hd : d.TakesErrors) : e.TakesErrors := by
  rcases h with h | ⟨old, more, -, h⟩
  · obtain ⟨old, hold⟩ := hd
    exact ⟨old, by rw [h, hold]⟩
  · exact ⟨_, by rw [h]; rfl⟩

theorem grows_of_run (h : pass.run clock d = .ended d') : Grows d d' := by
  rcases Pass.run_errors h with herrors | ⟨old, failure, hold, herrors⟩
  · exact .inl herrors
  · exact .inr ⟨old, _, hold, herrors⟩

theorem grows_perform (clock : Instant) (passes : List Pass) (d : Dashboard) :
    Grows d (perform clock passes d) := by
  induction passes generalizing d with
  | nil => exact .refl d
  | cons pass rest ih =>
      rw [perform, List.foldl_cons]
      refine .trans ?_ (ih _)
      rcases Pass.run_cases clock pass d with ⟨d', h⟩ | ⟨failure, h⟩
      · rw [h]
        exact grows_of_run h
      · rw [h]
        exact .refl d

/-! ## What earlier passes keep -/

def Field.given : List Field :=
  [.kind, .records, .clients, .quotes, .segment, .filters, .search, .queue, .now]

theorem not_mem_own_of_given {field : Field} (h : field ∈ Field.given) : field ∉ pass.own := by
  cases pass <;> cases field <;> first | decide | exact absurd h (by decide)

/-- A state that passes may have left of another. -/
structure Descends (clock : Instant) (d e : Dashboard) : Prop where
  given : ∀ field ∈ Field.given, Same d e field
  badges : ∀ x, Pass.queue.effect clock d = .ok x →
    x.queueCounts.or d.queueCounts = x.queueCounts.or e.queueCounts
  errors : Grows d e

theorem Descends.refl (clock : Instant) (d : Dashboard) : Descends clock d d :=
  ⟨fun field _ => .refl d field, fun _ _ => rfl, .refl d⟩

theorem Descends.queue_effect (h : Descends clock d e) :
    Pass.queue.effect clock d = Pass.queue.effect clock e :=
  Pass.effect_congr fun field hfield =>
    h.given field ((by decide : Pass.queue.reads ⊆ Field.given) hfield)

/-- One pass more. The queue pass writes the badges that it would have
written, and the other passes leave the badges alone. -/
theorem descends_run (h : Descends clock d e) (pass : Pass) :
    Descends clock d (pass.run clock e).state := by
  rcases Pass.run_cases clock pass e with ⟨e', he⟩ | ⟨failure, he⟩
  · rw [he]
    refine ⟨fun field hfield => ?_, fun x hx => ?_, h.errors.trans (grows_of_run he)⟩
    · exact (h.given field hfield).trans (Pass.run_frame he (not_mem_own_of_given hfield)).symm
    · rw [h.badges x hx]
      cases pass with
      | queue =>
          obtain ⟨x', hx', hon⟩ := Pass.run_eq_ended_iff.1 he
          rw [← h.queue_effect, hx] at hx'
          cases hx'
          obtain ⟨errors, -, rfl⟩ := Effect.on_eq_ended_iff.1 hon
          change _ = x.queueCounts.or (x.queueCounts.or e.queueCounts)
          rw [← Option.or_assoc, Option.or_self]
      | filter =>
          have hsame : Same e' e .queueCounts := Pass.run_frame he (by decide)
          exact congrArg x.queueCounts.or hsame.symm
      | board =>
          have hsame : Same e' e .queueCounts := Pass.run_frame he (by decide)
          exact congrArg x.queueCounts.or hsame.symm
  · rw [he]
    exact h

theorem descends_perform (clock : Instant) (passes : List Pass) (d : Dashboard) :
    Descends clock d (perform clock passes d) := by
  suffices h : ∀ e, Descends clock d e → Descends clock d (perform clock passes e) from
    h d (.refl clock d)
  induction passes with
  | nil => exact fun e h => h
  | cons pass rest ih => exact fun e h => ih _ (descends_run h pass)

theorem queue_run_of_descends (h : Descends clock d e)
    (hd : Pass.queue.run clock d = .ended d') :
    ∃ e', Pass.queue.run clock e = .ended e' ∧ (d'.TakesErrors → e'.TakesErrors)
      ∧ ∀ field, Same d e field ∨ field ∈ [.queued, .queueCounts] → Same d' e' field := by
  obtain ⟨e', he, herrors⟩ := Pass.exists_run_of_run h.queue_effect h.errors.takesErrors hd
  refine ⟨e', he, herrors, ?_⟩
  rintro field (hfield | hfield)
  · exact Pass.same_of_run h.queue_effect hd he (.inl hfield)
  · simp only [List.mem_cons, List.not_mem_nil, or_false] at hfield
    rcases hfield with rfl | rfl
    · exact Pass.same_of_run h.queue_effect hd he (.inr (by decide))
    · obtain ⟨x, hx, hon, hon'⟩ := Pass.exists_effect_of_runs h.queue_effect hd he
      obtain ⟨errors, -, rfl⟩ := Effect.on_eq_ended_iff.1 hon
      obtain ⟨errors', -, rfl⟩ := Effect.on_eq_ended_iff.1 hon'
      exact h.badges x hx

/-- A queue pass and others after it do not see what earlier passes have
left. -/
theorem runAll_of_descends (h : Descends clock d e) {rest : List Pass}
    (hcovered : Covered ([.queued, .queueCounts] ++ Field.given) rest)
    (hd : runAll clock (.queue :: rest) d = .ok d') :
    ∃ e', runAll clock (.queue :: rest) e = .ok e'
      ∧ ∀ field, Same d e field ∨ field ∈ [.queued, .queueCounts]
          ∨ (∃ pass ∈ rest, field ∈ pass.sets) → Same d' e' field := by
  obtain ⟨d₁, hqueue, hrest⟩ := runAll_cons_eq_ok_iff.1 hd
  obtain ⟨e₁, he₁, herrors, hsame⟩ := queue_run_of_descends h hqueue
  have hfields : ∀ field ∈ [.queued, .queueCounts] ++ Field.given, Same d₁ e₁ field := by
    intro field hfield
    rcases List.mem_append.1 hfield with hset | hgiven
    · exact hsame field (.inr hset)
    · exact hsame field (.inl (h.given field hgiven))
  obtain ⟨e', he', hsame'⟩ := runAll_same hcovered hfields herrors hrest
  refine ⟨e', runAll_cons_eq_ok_iff.2 ⟨e₁, he₁, he'⟩, ?_⟩
  rintro field (hfield | hset | hset)
  · exact hsame' field (.inl (hsame field (.inl hfield)))
  · exact hsame' field (.inl (hsame field (.inr hset)))
  · exact hsame' field (.inr hset)

theorem runAll_all_of_descends (h : Descends clock d e)
    (hd : runAll clock Pass.all d = .ok d') :
    ∃ e', runAll clock Pass.all e = .ok e'
      ∧ ∀ field ∈ [.queued, .queueCounts, .filtered, .board], Same d' e' field := by
  have hcovered : Covered ([.queued, .queueCounts] ++ Field.given) [.filter, .board] :=
    ⟨by decide, by decide, trivial⟩
  obtain ⟨e', he', hsame⟩ := runAll_of_descends h hcovered hd
  refine ⟨e', he', fun field hfield => hsame field (.inr ?_)⟩
  simp only [List.mem_cons, List.not_mem_nil, or_false] at hfield
  rcases hfield with rfl | rfl | rfl | rfl
  · exact .inl (by decide)
  · exact .inl (by decide)
  · exact .inr ⟨.filter, by decide, by decide⟩
  · exact .inr ⟨.board, by decide, by decide⟩

/-! ## States that a refresh can start from -/

/-- A state with lists, or nothing, where a refresh needs lists before it can
protect itself, and with a reference time. -/
structure Startable (d : Dashboard) : Prop where
  records : d.records = none ∨ ∃ records, d.records = some (.list records)
  errors : d.errors = none ∨ ∃ errors, d.errors = some (.list errors)
  now : ∃ time, (d.now.getD .null).toInstant? = .ok time

theorem Startable.takesErrors (h : d.Startable) : d.TakesErrors := by
  rcases h.errors with herrors | ⟨errors, herrors⟩
  · exact ⟨[], by rw [herrors]; rfl⟩
  · exact ⟨errors, by rw [herrors]; rfl⟩

theorem Startable.exists_records (h : d.Startable) :
    ∃ records, d.records.getD (.list []) = .list records := by
  rcases h.records with hrecords | ⟨records, hrecords⟩
  · exact ⟨[], by rw [hrecords]; rfl⟩
  · exact ⟨records, by rw [hrecords]; rfl⟩

theorem run_of_effect {x : Effect} (hx : pass.effect clock d = .ok x) (herrors : d.TakesErrors) :
    ∃ errors, pass.run clock d = .ended { x.write d with errors } := by
  obtain ⟨d', hon⟩ := (Effect.exists_on_eq_ended_iff pass.label).2 fun _ => herrors
  obtain ⟨errors, hlog, rfl⟩ := Effect.on_eq_ended_iff.1 hon
  exact ⟨errors, Pass.run_eq_ended_iff.2 ⟨x, hx, hon⟩⟩

theorem exists_queue_run (clock : Instant) (h : d.Startable) :
    ∃ d', Pass.queue.run clock d = .ended d' ∧ ∃ queued, d'.queued = some (.list queued) := by
  obtain ⟨records, hrecords⟩ := h.exists_records
  cases hleads : d.showsLeads with
  | false =>
      obtain ⟨errors, hrun⟩ :=
        run_of_effect (Pass.effect_queue_other clock hleads) h.takesErrors
      exact ⟨_, hrun, records, congrArg some hrecords⟩
  | true =>
      obtain ⟨time, htime⟩ := h.now
      have hnow : LeadQueue.referenceTime clock (d.now.getD .null) = .ok (time.getD clock) := by
        rw [LeadQueue.referenceTime, htime]
        rfl
      have hitems : (d.records.getD (.list [])).elements = .ok records := by rw [hrecords]; rfl
      obtain ⟨errors, hrun⟩ :=
        run_of_effect (Pass.effect_queue_leads hleads hnow hitems) h.takesErrors
      refine ⟨_, hrun, ?_⟩
      change ∃ queued, some (Option.getD (Option.map _ (Except.toOption
        (LeadQueue.sort _ _ records))) (d.records.getD (.list []))) = some (Value.list queued)
      cases LeadQueue.sort (time.getD clock) (.ofValue (d.queue.getD .null)) records with
      | ok s => exact ⟨s.2, rfl⟩
      | error failure => exact ⟨records, congrArg some hrecords⟩

theorem exists_filter_run (clock : Instant) (herrors : d.TakesErrors) {queued : List Value}
    (hqueued : d.queued = some (.list queued)) :
    ∃ d', Pass.filter.run clock d = .ended d' ∧ ∃ shown, d'.filtered = some (.list shown) := by
  have hsource : (d.queued.getD (d.records.getD (.list []))).elements = .ok queued := by
    rw [hqueued]; rfl
  obtain ⟨errors, hrun⟩ := run_of_effect (Pass.effect_filter clock hsource) herrors
  exact ⟨_, hrun, _, rfl⟩

theorem exists_board_run (clock : Instant) (herrors : d.TakesErrors) {shown : List Value}
    (hshown : d.filtered = some (.list shown)) :
    ∃ d', Pass.board.run clock d = .ended d' := by
  have hleads : (d.filtered.getD (.list [])).elements = .ok shown := by rw [hshown]; rfl
  obtain ⟨errors, hrun⟩ := run_of_effect (Pass.effect_board clock hleads) herrors
  exact ⟨_, hrun⟩

/-- The passes of a refresh all end. Each finds the list that the one before
it has left. -/
theorem exists_runAll (clock : Instant) (h : d.Startable) :
    ∃ d', runAll clock Pass.all d = .ok d' := by
  obtain ⟨d₁, hqueue, queued, hqueued⟩ := exists_queue_run clock h
  have herrors₁ := (Pass.takesErrors_iff_of_run hqueue).2 h.takesErrors
  obtain ⟨d₂, hfilter, shown, hshown⟩ := exists_filter_run clock herrors₁ hqueued
  have herrors₂ := (Pass.takesErrors_iff_of_run hfilter).2 herrors₁
  obtain ⟨d₃, hboard⟩ := exists_board_run clock herrors₂ hshown
  simp only [Pass.all, runAll_cons_eq_ok_iff]
  exact ⟨d₃, d₁, hqueue, d₂, hfilter, d₃, hboard, rfl⟩

theorem exists_run (clock : Instant) (h : d.Startable) : ∃ d', d.run clock = .ok d' := by
  obtain ⟨d', hall⟩ := exists_runAll clock h
  obtain ⟨d₁, hqueue, hrest⟩ := runAll_cons_eq_ok_iff.1 hall
  obtain ⟨d₂, hfilter, hboard⟩ := runAll_cons_eq_ok_iff.1 hrest
  simp only [run_eq_runAll, tabPasses, runAll_cons_eq_ok_iff]
  cases d.showsLeads with
  | true => exact ⟨d', d₁, hqueue, d₂, hfilter, hboard⟩
  | false => exact ⟨d₂, d₁, hqueue, d₂, hfilter, rfl⟩

/-- A refresh of its own result changes nothing but the errors. -/
theorem run_run (hd : d.run clock = .ok d') :
    ∃ e, d'.run clock = .ok e ∧ (∀ field, field ≠ .errors → Same d' e field) ∧ Grows d' e := by
  rw [run_eq_runAll] at hd
  have hdescends : Descends clock d d' := by
    rw [← perform_eq_of_runAll hd]
    exact descends_perform clock d.tabPasses d
  have hleads : d'.showsLeads = d.showsLeads :=
    (showsLeads_of_same (hdescends.given .kind (by decide))).symm
  have htab : d'.tabPasses = d.tabPasses := by rw [tabPasses, hleads, tabPasses]
  have hcovered : Covered ([.queued, .queueCounts] ++ Field.given)
      (.filter :: if d.showsLeads then [.board] else []) := by
    refine ⟨by decide, ?_⟩
    cases d.showsLeads with
    | true => exact ⟨by decide, trivial⟩
    | false => trivial
  obtain ⟨e, he, hsame⟩ := runAll_of_descends hdescends hcovered hd
  refine ⟨e, by rw [run_eq_runAll, htab]; exact he, fun field hfield => hsame field ?_, ?_⟩
  · cases field with
    | errors => exact absurd rfl hfield
    | queued => exact .inr (.inl (by decide))
    | queueCounts => exact .inr (.inl (by decide))
    | filtered => exact .inr (.inr ⟨.filter, by simp, by decide⟩)
    | board =>
        cases hboard : d.showsLeads with
        | true => exact .inr (.inr ⟨.board, by simp, by decide⟩)
        | false =>
            refine .inl (runAll_frame hd fun pass hpass => ?_).symm
            simp only [tabPasses, hboard, Bool.false_eq_true, if_false, List.mem_cons,
              List.not_mem_nil, or_false] at hpass
            rcases hpass with rfl | rfl <;> decide
    | _ => exact .inl (hdescends.given _ (by decide))
  · rw [← perform_eq_of_runAll he]
    exact grows_perform clock _ d'

/-- **No residue.** Whatever passes a state has been through, the passes of a
refresh then end and leave the same in every field of theirs as on the state
itself; the errors only ever grow; and a refresh of its own result changes
nothing else. The earlier passes and the refreshes all read one clock, the time
at which they are compared; where the state names a time of its own, none of
them looks at it. -/
theorem no_residue (clock : Instant) (h : d.Startable) (steps : List Pass) :
    (runAll clock Pass.all d = .ok (perform clock Pass.all d)
        ∧ runAll clock Pass.all (perform clock steps d)
            = .ok (perform clock (steps ++ Pass.all) d)
        ∧ ∀ field ∈ [.queued, .queueCounts, .filtered, .board],
            Same (perform clock Pass.all d) (perform clock (steps ++ Pass.all) d) field)
      ∧ (∀ passes more, Grows (perform clock passes d) (perform clock (passes ++ more) d))
      ∧ ∃ once twice, d.run clock = .ok once ∧ once.run clock = .ok twice
          ∧ (∀ field, field ≠ .errors → Same once twice field) ∧ Grows once twice := by
  obtain ⟨direct, hdirect⟩ := exists_runAll clock h
  obtain ⟨later, hlater, hsame⟩ :=
    runAll_all_of_descends (descends_perform clock steps d) hdirect
  obtain ⟨once, honce⟩ := exists_run clock h
  obtain ⟨twice, htwice, hrerun⟩ := run_run honce
  refine ⟨?_, fun passes more => ?_, once, twice, honce, htwice, hrerun⟩
  · rw [perform_append, perform_eq_of_runAll hlater, perform_eq_of_runAll hdirect]
    exact ⟨hdirect, hlater, hsame⟩
  · rw [perform_append]
    exact grows_perform clock more _

/-- A leads tab with things left over that no pass would leave. -/
def staleTab : Dashboard where
  kind := some (.text Kind.lead.name)
  records := some (.list [.object [("estimatedValue", .int 20000)]])
  filters := some (.list [.null])
  queued := some (.int 5)
  queueCounts := some (.text "stale")
  filtered := some (.bool true)

/-- Two passes are stopped at what is left over, and then a queue pass ends;
nothing of it is seen later. -/
theorem staleTab_no_residue :
    staleTab.Startable
      ∧ (Pass.filter.run midJune staleTab).failure = some (.noLength .int)
      ∧ (Pass.board.run midJune staleTab).failure = some (.noLength .bool)
      ∧ ∀ field ∈ [.queued, .queueCounts, .filtered, .board],
          Same (perform midJune Pass.all staleTab)
            (perform midJune ([.filter, .board, .queue] ++ Pass.all) staleTab) field := by
  have hstartable : staleTab.Startable := ⟨.inr ⟨_, rfl⟩, .inl rfl, none, rfl⟩
  exact ⟨hstartable, rfl, rfl, (no_residue midJune hstartable [.filter, .board, .queue]).1.2.2⟩

end Dashboard

end Audience
