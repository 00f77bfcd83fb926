import Audience.Proofs.Frames

/-!
# Runs of several passes

A refresh is a run of passes over one state, and `runAll` is such a run for
any list of passes. What `Audience.Proofs.Frames` says about one pass holds of
a run by induction on the list.

- `runAll_frame`: what no pass of the run owns stays as it was.
- `runAll_same`: a run on two states that agree in what the run sees leaves
  states that agree there and in all that it sets. What a pass sees may have
  been set by a pass before it (`Covered`).

`run_eq_runAll` is the refresh as a run: the passes of its tab, which are the
same at the end as at the beginning. `Audience.Proofs.Badges`,
`Audience.Proofs.Residue` and `Audience.Proofs.Interference` start from there.
-/

namespace Audience

namespace Dashboard

def Pass.all : List Pass := [.queue, .filter, .board]

/-- Passes one after another. A pass that is stopped stops the rest. -/
def runAll (clock : Instant) : List Pass → Dashboard → Attempt Dashboard
  | [], d => .ok d
  | pass :: rest, d => (pass.run clock d).result >>= runAll clock rest

section

variable {clock clock' : Instant} {pass : Pass} {passes : List Pass} {d d' e e' : Dashboard}

theorem Outcome.result_eq_ok_iff {o : Outcome} : o.result = .ok d ↔ o = .ended d := by
  obtain ⟨state, failure⟩ := o
  cases failure <;> simp [result, ended]

theorem runAll_cons_eq_ok_iff :
    runAll clock (pass :: passes) d = .ok e ↔
      ∃ d', pass.run clock d = .ended d' ∧ runAll clock passes d' = .ok e := by
  simp only [runAll, Attempt.bind_eq_ok_iff, Outcome.result_eq_ok_iff]

theorem runAll_frame {field : Field} (h : runAll clock passes d = .ok d')
    (hfield : ∀ pass ∈ passes, field ∉ pass.own) : Same d' d field := by
  induction passes generalizing d with
  | nil =>
      obtain rfl := Except.ok.inj h
      exact .refl _ field
  | cons pass rest ih =>
      obtain ⟨d₁, hpass, hrest⟩ := runAll_cons_eq_ok_iff.1 h
      obtain ⟨hfirst, hothers⟩ := List.forall_mem_cons.1 hfield
      exact (ih hrest hothers).trans (Pass.run_frame hpass hfirst)

/-- Every pass reads only such of the fields as are there before the first
one or set by an earlier one. -/
def Covered : List Field → List Pass → Prop
  | _, [] => True
  | fields, pass :: rest => pass.reads ⊆ fields ∧ Covered (pass.sets ++ fields) rest

/-- **Unwinding, for several passes.** -/
theorem runAll_same {fields : List Field} (hcovered : Covered fields passes)
    (hsame : ∀ field ∈ fields, Same d e field) (herrors : d.TakesErrors → e.TakesErrors)
    (hd : runAll clock passes d = .ok d') :
    ∃ e', runAll clock passes e = .ok e'
      ∧ ∀ field, Same d e field ∨ (∃ pass ∈ passes, field ∈ pass.sets) → Same d' e' field := by
  induction passes generalizing fields d e with
  | nil =>
      cases hd
      refine ⟨e, rfl, ?_⟩
      rintro field (h | ⟨_, hpass, -⟩)
      · exact h
      · cases hpass
  | cons pass rest ih =>
      obtain ⟨hreads, hcovered⟩ := hcovered
      obtain ⟨d₁, hpass, hrest⟩ := runAll_cons_eq_ok_iff.1 hd
      have heffect : pass.effect clock d = pass.effect clock e :=
        Pass.effect_congr fun field hfield => hsame field (hreads hfield)
      obtain ⟨e₁, he₁, herrors₁⟩ := Pass.exists_run_of_run heffect herrors hpass
      have hsame₁ : ∀ field, Same d e field ∨ field ∈ pass.sets → Same d₁ e₁ field :=
        fun field => Pass.same_of_run heffect hpass he₁
      have hfields : ∀ field ∈ pass.sets ++ fields, Same d₁ e₁ field := by
        intro field hfield
        rcases List.mem_append.1 hfield with hset | hfield
        · exact hsame₁ field (.inr hset)
        · exact hsame₁ field (.inl (hsame field hfield))
      obtain ⟨e', he', hsame'⟩ := ih hcovered hfields herrors₁ hrest
      refine ⟨e', runAll_cons_eq_ok_iff.2 ⟨e₁, he₁, he'⟩, ?_⟩
      rintro field (h | ⟨q, hq, hset⟩)
      · exact hsame' field (.inl (hsame₁ field (.inl h)))
      · rcases List.mem_cons.1 hq with rfl | hq
        · exact hsame' field (.inl (hsame₁ field (.inr hset)))
        · exact hsame' field (.inr ⟨q, hq, hset⟩)

/-! ## The workflow -/

/-- The passes of a tab. Only the tab of leads has a board. -/
def tabPasses (d : Dashboard) : List Pass :=
  .queue :: .filter :: if d.showsLeads then [.board] else []

theorem board_frame {b : Bool} (h : runAll clock (if b then [.board] else []) d = .ok d')
    {field : Field} (hfield : field ∉ Pass.board.own) : Same d' d field := by
  refine runAll_frame h fun pass hpass => ?_
  cases b with
  | false => cases hpass
  | true =>
      obtain rfl := List.mem_singleton.1 hpass
      exact hfield

theorem showsLeads_of_same (h : Same d e .kind) : d.showsLeads = e.showsLeads :=
  congrArg (fun kind : Option Value => (kind.getD .null).isText Kind.lead.name) h

/-- What neither of the later passes owns is as the queue pass has left it. -/
theorem later_frame {b : Bool} (hfilter : Pass.filter.run clock d = .ended d')
    (hboard : runAll clock (if b then [.board] else []) d' = .ok e) {field : Field}
    (hfield : field ∉ Pass.filter.own ∧ field ∉ Pass.board.own) : Same e d field :=
  (board_frame hboard hfield.2).trans (Pass.run_frame hfilter hfield.1)

/-- A refresh runs the passes of its tab. Which tab it is no pass changes. -/
theorem run_eq_runAll (clock : Instant) (d : Dashboard) :
    d.run clock = runAll clock d.tabPasses d := by
  change ((Pass.queue.run clock d).result >>= fun d₁ => (Pass.filter.run clock d₁).result >>=
      fun d₂ => if d₂.showsLeads then (Pass.board.run clock d₂).result else .ok d₂)
    = ((Pass.queue.run clock d).result >>= fun d₁ => (Pass.filter.run clock d₁).result >>=
      runAll clock (if d.showsLeads then [.board] else []))
  rcases Pass.run_cases clock .queue d with ⟨d₁, hqueue⟩ | ⟨failure, hqueue⟩
  · rcases Pass.run_cases clock .filter d₁ with ⟨d₂, hfilter⟩ | ⟨failure, hfilter⟩
    · have htab : d₂.showsLeads = d.showsLeads :=
        showsLeads_of_same ((Pass.run_frame hfilter (by decide)).trans
          (Pass.run_frame hqueue (by decide)))
      rw [hqueue]
      change (Pass.filter.run clock d₁).result >>= _ = (Pass.filter.run clock d₁).result >>= _
      rw [hfilter]
      change (if d₂.showsLeads then (Pass.board.run clock d₂).result else .ok d₂)
        = runAll clock (if d.showsLeads then [.board] else []) d₂
      rw [htab]
      cases d.showsLeads with
      | false => rfl
      | true =>
          change _ = (Pass.board.run clock d₂).result >>= _
          cases (Pass.board.run clock d₂).result <;> rfl
    · rw [hqueue]
      change (Pass.filter.run clock d₁).result >>= _ = (Pass.filter.run clock d₁).result >>= _
      rw [hfilter]
      rfl
  · rw [hqueue]
    rfl

end

end Dashboard

namespace Request

open Dashboard

variable {clock : Instant} {r : Request} {d : Dashboard}

theorem start_eq_ok_iff :
    r.start = .ok d ↔ ∃ records clients quotes, r.records.elementsOrNone = .ok records
      ∧ r.clients.elementsOrNone = .ok clients ∧ r.quotes.elementsOrNone = .ok quotes
      ∧ d = { kind := some r.kind, records := some (.list records)
              clients := some (.list clients), quotes := some (.list quotes)
              segment := some r.segment, filters := some r.controls.filters
              search := some r.search, queue := some r.queue, now := some r.now
              errors := some (.list []) } := by
  simp only [start, Attempt.bind_eq_ok_iff, Attempt.pure_eq_ok, Except.ok.injEq, controls,
    eq_comm (a := d), exists_and_left]

theorem showsLeads_start_iff (h : r.start = .ok d) :
    d.showsLeads = true ↔ r.kind = .text Kind.lead.name := by
  obtain ⟨records, clients, quotes, -, -, -, rfl⟩ := start_eq_ok_iff.1 h
  exact Value.isText_iff

theorem refresh_eq_ok_iff :
    r.refresh clock = .ok d ↔ ∃ d₀ d₁ d₂, r.start = .ok d₀
      ∧ Pass.queue.run clock d₀ = .ended d₁ ∧ Pass.filter.run clock d₁ = .ended d₂
      ∧ runAll clock (if d₀.showsLeads then [.board] else []) d₂ = .ok d := by
  simp only [refresh, Attempt.bind_eq_ok_iff, run_eq_runAll, tabPasses, runAll_cons_eq_ok_iff,
    exists_and_left]

end Request

end Audience
