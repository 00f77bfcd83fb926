import Audience.Proofs.Segments

/-!
# Filtering more than once

The filter pipeline is one test of one record (`Controls.filter_eq_keep`), so
no record has a part in what happens to another. `Controls.keeps` says this
without the test: whether a record stays when it is filtered on its own.
Everything here is about whole lists and comes from that.

- Two settings, one after the other, leave what both leave, in either order;
  the second cannot fail on what the first has left. The same setting twice is
  the same setting once.
- A list can be filtered in parts (`filter_append`), failures included.
- Criteria can be moved from one segment into another: where nothing but the
  segment excludes a record, two segments in a row are one segment with the
  criteria of both (`passes_of_joins`).
-/

namespace Audience

namespace Controls

variable {controls c₁ c₂ : Controls} {v clients : Value} {records shown : List Value}
  {test : Value → Attempt Bool}

/-! ## One record on its own -/

/-- Whether a record stays when it is filtered on its own. -/
def keeps (controls : Controls) (kind clients record : Value) : Bool :=
  match controls.filter kind (.list [record]) clients with
  | .ok shown => !shown.isEmpty
  | .error _ => false

theorem keeps_of_test (h : controls.test v clients = .ok test) (record : Value) :
    controls.keeps v clients record = Attempt.passed (test record) := by
  rw [keeps, filter_of_test h]
  cases hrecord : test record with
  | error failure => simp [Attempt.keep, hrecord, Attempt.passed]
  | ok b => cases b <;> simp [Attempt.keep, hrecord, Except.map, Attempt.passed]

/-- What is shown is what stays on its own. -/
theorem eq_filter_keeps (h : controls.filter v (.list records) clients = .ok shown) :
    shown = records.filter (controls.keeps v clients) := by
  obtain ⟨test, htest, hkeep⟩ := filter_eq_ok_iff.1 h
  have hkeeps : controls.keeps v clients = fun record => Attempt.passed (test record) := by
    funext record
    exact keeps_of_test htest record
  rw [hkeeps]
  exact (Attempt.keep_eq_ok_iff.1 hkeep).2

/-- Fewer records cannot cause a failure. -/
theorem filter_of_subset (h : controls.filter v (.list records) clients = .ok shown)
    {part : List Value} (hpart : ∀ record ∈ part, record ∈ records) :
    controls.filter v (.list part) clients
      = .ok (part.filter (controls.keeps v clients)) := by
  obtain ⟨test, htest, hkeep⟩ := filter_eq_ok_iff.1 h
  have hfilter := (filter_of_test htest part).trans (Attempt.keep_of_subset hkeep hpart)
  rw [hfilter, ← eq_filter_keeps hfilter]

/-! ## Lists in parts -/

theorem filter_append (controls : Controls) (v : Value) (front back : List Value)
    (clients : Value) :
    controls.filter v (.list (front ++ back)) clients = (do
      let kept ← controls.filter v (.list front) clients
      let more ← controls.filter v (.list back) clients
      return kept ++ more) := by
  simp only [filter_eq_keep]
  cases controls.test v clients with
  | error failure => rfl
  | ok test =>
      change Attempt.keep test (front ++ back) = _
      rw [Attempt.keep_append]
      change _ = (Attempt.keep test front).bind fun kept =>
        (Attempt.keep test back).bind fun more => .ok (kept ++ more)
      cases Attempt.keep test front with
      | error failure => rfl
      | ok kept => cases Attempt.keep test back <;> rfl

/-! ## Two settings in a row -/

theorem filter_filter (h₁ : c₁.filter v (.list records) clients = .ok shown)
    {other : List Value} (h₂ : c₂.filter v (.list records) clients = .ok other) :
    c₂.filter v (.list shown) clients
      = .ok (records.filter fun record =>
          c₁.keeps v clients record && c₂.keeps v clients record) := by
  have hsub : ∀ record ∈ shown, record ∈ records := fun _ h => (filter_sublist h₁).subset h
  rw [filter_of_subset h₂ hsub, eq_filter_keeps h₁, List.filter_filter]
  congr 2
  funext record
  exact Bool.and_comm ..

/-! ## Two segments in a row -/

/-- Controls that leave everything to the segment: nothing is entered in the
sidebar, and nothing is searched for. -/
structure IsPlain (controls : Controls) : Prop where
  filters : ∃ sidebar, Sidebar.ofValue controls.filters = .ok sidebar ∧ sidebar.isInactive = true
  search : controls.search.isTruthy = false

end Controls

theorem Search.finds_of_not_given {term : Value} (h : term.isTruthy = false)
    (kind : Option Kind) (record : Value) : finds kind term record = true := by
  simp [finds, h]

namespace Controls

variable {controls c₁ c₂ : Controls} {v clients : Value} {records shown : List Value}

/-- Plain controls leave the decision to the segment. -/
theorem passes_of_isPlain (h : controls.IsPlain) (kind : Kind) (index : ClientIndex)
    (record : Value) :
    controls.passes kind index record
      = controls.segment.accepts (Context.ofRecord (some kind) index record) := by
  obtain ⟨sidebar, hsidebar, hinactive⟩ := h.filters
  rw [passes_eq_both, Sidebar.admitsBy, hsidebar, Except.map,
    Sidebar.accepts_of_isInactive hinactive, Attempt.both_true,
    Search.finds_of_not_given h.search, Attempt.both_true]

theorem passes_of_joins (h : controls.IsPlain) (h₁ : c₁.IsPlain) (h₂ : c₂.IsPlain)
    (hjoins : controls.segment.Joins c₁.segment c₂.segment) (kind : Kind) (index : ClientIndex)
    (record : Value) :
    controls.passes kind index record
      = Attempt.both (c₁.passes kind index record) (c₂.passes kind index record) := by
  rw [passes_of_isPlain h, passes_of_isPlain h₁, passes_of_isPlain h₂]
  exact Selection.accepts_of_joins hjoins _

/-- One segment with the criteria of two filters as the two do in a row. -/
theorem filter_of_joins (h : controls.IsPlain) (h₁ : c₁.IsPlain) (h₂ : c₂.IsPlain)
    (hjoins : controls.segment.Joins c₁.segment c₂.segment)
    (hshown : c₁.filter v (.list records) clients = .ok shown) :
    controls.filter v (.list records) clients = c₂.filter v (.list shown) clients := by
  obtain ⟨test₁, htest₁, hkeep⟩ := filter_eq_ok_iff.1 hshown
  obtain ⟨segment, -, segment₂, hsegment, -, hsegment₂, -⟩ := id hjoins
  rcases test_cases htest₁ with ⟨hkind, rfl⟩ | ⟨kind, index, -, hkind, hindex, -, rfl⟩
  · have hnone : ∀ c : Controls, c.test v clients = .ok fun _ => .ok true := by
      intro c
      rw [test, hkind]
      rfl
    rw [filter_of_test (hnone controls), filter_of_test (hnone c₂), hkeep, Attempt.keep_eq_self]
  · rw [filter_of_test (test_of_parts hkind hindex hsegment),
      filter_of_test (test_of_parts hkind hindex hsegment₂), Attempt.keep_keep _ hkeep]
    congr 1
    funext record
    exact passes_of_joins h h₁ h₂ hjoins kind index record

/-! ## The laws -/

/-- **Filter passes compose.** Let two settings each filter some records: what
each leaves is what it keeps, record by record. One after the other they
leave, in either order, the records that both keep, in their order; each of
them leaves its own result as it is; and if nothing but the segments exclude
records, a segment with the criteria of both leaves the same. Records put
together are filtered as they are on their own, whether that fails or not. -/
theorem filter_compose {c₁ c₂ : Controls} {kind clients : Value}
    {records shown₁ shown₂ : List Value}
    (h₁ : c₁.filter kind (.list records) clients = .ok shown₁)
    (h₂ : c₂.filter kind (.list records) clients = .ok shown₂) :
    (∃ shown, c₂.filter kind (.list shown₁) clients = .ok shown
        ∧ c₁.filter kind (.list shown₂) clients = .ok shown
        ∧ shown = records.filter (fun record =>
            c₁.keeps kind clients record && c₂.keeps kind clients record)
        ∧ ∀ joined : Controls, joined.IsPlain → c₁.IsPlain → c₂.IsPlain →
            joined.segment.Joins c₁.segment c₂.segment →
            joined.filter kind (.list records) clients = .ok shown)
      ∧ shown₁ = records.filter (c₁.keeps kind clients)
      ∧ shown₂ = records.filter (c₂.keeps kind clients)
      ∧ c₁.filter kind (.list shown₁) clients = .ok shown₁
      ∧ ∀ front back, c₁.filter kind (.list (front ++ back)) clients = (do
          let kept ← c₁.filter kind (.list front) clients
          let more ← c₁.filter kind (.list back) clients
          return kept ++ more) := by
  have hboth := filter_filter h₁ h₂
  have hswap := filter_filter h₂ h₁
  simp only [Bool.and_comm (c₂.keeps kind clients _)] at hswap
  refine ⟨⟨_, hboth, hswap, rfl, ?_⟩, eq_filter_keeps h₁, eq_filter_keeps h₂, ?_, ?_⟩
  · intro joined hplain hplain₁ hplain₂ hjoins
    rw [filter_of_joins hplain hplain₁ hplain₂ hjoins h₁, hboth]
  · have htwice := filter_filter h₁ h₁
    simp only [Bool.and_self] at htwice
    rw [htwice, ← eq_filter_keeps h₁]
  · intro front back
    exact filter_append c₁ kind front back clients

/-- Controls with nothing set but a saved segment. -/
def only (criteria : List Value) : Controls where
  segment := .saved (.object [("criteria", .list criteria)])
  filters := .null
  search := .null

theorem isPlain_null (segment : Selection) : IsPlain ⟨segment, .null, .null⟩ :=
  ⟨⟨_, rfl, rfl⟩, rfl⟩

/-- Three clients, two of them in California and two with the tag `vip`, and
an entry that is none. -/
def coastClients : List Value :=
  [.object [("billingState", .text "CA"), ("tags", .list [.text "VIP", .int 3])],
    .object [("billingState", .text "NV"), ("tags", .list [.text "vip", .text "cats"])],
    .text "client",
    .object [("billingState", .text "ca"), ("tags", .list [.text "cats"])]]

def californian : Value := .object [("field", .text "state"), ("value", .text "ca")]

def important : Value := .object [("field", .text "tag"), ("value", .list [.text "vip"])]

/-- The important ones of the Californians are the Californians of the
important ones. -/
theorem filter_compose_coast :
    ∃ nearby valued, (only [californian]).filter (.text "client") (.list coastClients) .null
        = .ok nearby
      ∧ (only [important]).filter (.text "client") (.list coastClients) .null = .ok valued
      ∧ ∃ shown, (only [important]).filter (.text "client") (.list nearby) .null = .ok shown
        ∧ (only [californian]).filter (.text "client") (.list valued) .null = .ok shown
        ∧ (only [californian, important]).filter (.text "client") (.list coastClients) .null
            = .ok shown
        ∧ shown = coastClients.take 1 := by
  have hnearby : (only [californian]).filter (.text "client") (.list coastClients) .null
      = .ok [coastClients[0], coastClients[3]] := by rfl
  have hvalued : (only [important]).filter (.text "client") (.list coastClients) .null
      = .ok (coastClients.take 2) := by rfl
  have hjoins : (only [californian, important]).segment.Joins (only [californian]).segment
      (only [important]).segment := by
    refine Selection.joins_saved (by rfl) (by rfl) (by rfl) ?_
    simp only [List.forall_mem_cons]
    exact ⟨⟨_, rfl⟩, ⟨_, rfl⟩, ⟨_, rfl⟩, List.forall_mem_nil _⟩
  obtain ⟨⟨shown, hboth, hswap, -, hjoined⟩, -⟩ := filter_compose hnearby hvalued
  have hshown := hjoined _ (isPlain_null _) (isPlain_null _) (isPlain_null _) hjoins
  refine ⟨_, _, hnearby, hvalued, shown, hboth, hswap, hshown, ?_⟩
  have hfirst : (only [important]).filter (.text "client")
      (.list [coastClients[0], coastClients[3]]) .null = .ok (coastClients.take 1) := by rfl
  rw [hfirst] at hboth
  exact (Except.ok.inj hboth).symm

end Controls

end Audience
