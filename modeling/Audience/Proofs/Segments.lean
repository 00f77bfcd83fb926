import Audience.Proofs.Controls

/-!
# The criteria of a segment

A segment reaches the rules through its list of criteria, whether it was saved
or read before. Two things can be done to that list and are understood here
without looking at any rule: it can be put together from two
(`Selection.Joins`), and it can be put into another order
(`Selection.Permuted`). In both cases `Segment.ofValue_object_eq_ok_iff` takes
the members of the saved object apart, of which the criteria are one.

What order does is the second half. A criterion that is not satisfied ends the
evaluation, so only two of them that end it differently can tell orders apart:
one that refuses the context, and one that has no answer for it
(`Segment.Clashes`). Then, and only then, does the order matter
(`Selection.alike_iff_not_clashes`).
-/

namespace Audience

/-! ## Reading a saved segment -/

namespace Segment

/-- A saved object is read member by member. -/
theorem ofValue_object_eq_ok_iff {fields : Fields} {s : Segment} :
    ofValue (.object fields) = .ok s ↔
      ∃ audienceCount criteria sampleTags,
        (fields.get "audienceCount").toCount = .ok audienceCount
          ∧ Attempt.each Criterion.ofValue (fields.get "criteria").items = .ok criteria
          ∧ (fields.get "sampleTags").elementsOrNone = .ok sampleTags
          ∧ s = { id := Criterion.memberText fields "id"
                  name := Criterion.memberText fields "name"
                  description := fields.get "description", criteria, audienceCount
                  sampleTags } := by
  simp only [ofValue, Attempt.bind_eq_ok_iff, Attempt.pure_eq_ok, Except.ok.injEq]
  constructor
  · rintro ⟨audienceCount, hcount, criteria, hcriteria, sampleTags, htags, rfl⟩
    exact ⟨audienceCount, criteria, sampleTags, hcount, hcriteria, htags, rfl⟩
  · rintro ⟨audienceCount, criteria, sampleTags, hcount, hcriteria, htags, rfl⟩
    exact ⟨audienceCount, hcount, criteria, hcriteria, sampleTags, htags, rfl⟩

/-- An object that differs in its criteria only is read to a segment that
does. -/
theorem ofValue_of_other_criteria {fields fields' : Fields} {s : Segment}
    (hs : ofValue (.object fields) = .ok s)
    (hrest : ∀ key, key ≠ Text.ofString "criteria" → fields'.get key = fields.get key)
    {criteria : List Criterion}
    (hcriteria : Attempt.each Criterion.ofValue (fields'.get "criteria").items = .ok criteria) :
    ofValue (.object fields') = .ok { s with criteria } := by
  obtain ⟨count, _, tags, hcount, -, htags, rfl⟩ := ofValue_object_eq_ok_iff.1 hs
  refine ofValue_object_eq_ok_iff.2 ⟨count, criteria, tags, ?_, hcriteria, ?_, ?_⟩
  · rw [hrest _ (by decide), hcount]
  · rw [hrest _ (by decide), htags]
  · simp only [Criterion.memberText]
    rw [hrest _ (by decide), hrest _ (by decide), hrest _ (by decide)]

/-- The criteria of a selected segment, none without one. -/
def criteriaOf (segment : Option Segment) : List Criterion :=
  (segment.map Segment.criteria).getD []

theorem acceptedBy_eq_all (segment : Option Segment) (ctx : Context) :
    acceptedBy segment ctx = Attempt.all (fun c => c.rule.holds ctx) (criteriaOf segment) := by
  cases segment <;> rfl

end Segment

/-! ## Criteria put together -/

namespace Selection

/-- A selection has the criteria of one selection and then those of
another. -/
def Joins (joined first second : Selection) : Prop :=
  ∃ segment segment₁ segment₂, joined.resolve = .ok segment ∧ first.resolve = .ok segment₁
    ∧ second.resolve = .ok segment₂
    ∧ Segment.criteriaOf segment
        = Segment.criteriaOf segment₁ ++ Segment.criteriaOf segment₂

theorem accepts_of_joins {joined first second : Selection} (h : joined.Joins first second)
    (ctx : Context) :
    joined.accepts ctx = Attempt.both (first.accepts ctx) (second.accepts ctx) := by
  obtain ⟨segment, segment₁, segment₂, hjoined, hfirst, hsecond, hcriteria⟩ := h
  rw [accepts_of_resolve hjoined, accepts_of_resolve hfirst, accepts_of_resolve hsecond,
    Segment.acceptedBy_eq_all, Segment.acceptedBy_eq_all, Segment.acceptedBy_eq_all, hcriteria,
    Attempt.all_append]
  cases Attempt.all (fun c => c.rule.holds ctx) (Segment.criteriaOf segment₁) with
  | error failure => rfl
  | ok b => cases b <;> rfl

theorem resolve_saved_object_eq_ok_iff {fields : Fields} {segment : Option Segment} :
    (saved (.object fields)).resolve = .ok segment ↔
      ∃ s, Segment.ofValue (.object fields) = .ok s ∧ segment = some s := by
  change (Segment.ofValue (.object fields)).map some = .ok segment ↔ _
  rw [Attempt.map_eq_ok_iff]
  simp only [eq_comm]

/-- Saved segments are joined by joining their lists. -/
theorem joins_saved {joined first second : Fields} {items₁ items₂ : List Value}
    (hfirst : first.get "criteria" = .list items₁)
    (hsecond : second.get "criteria" = .list items₂)
    (hjoined : joined.get "criteria" = .list (items₁ ++ items₂))
    (hreads : ∀ fields ∈ [joined, first, second], ∃ s, Segment.ofValue (.object fields) = .ok s) :
    (saved (.object joined)).Joins (saved (.object first)) (saved (.object second)) := by
  obtain ⟨s, hs⟩ := hreads joined (by simp)
  obtain ⟨s₁, hs₁⟩ := hreads first (by simp)
  obtain ⟨s₂, hs₂⟩ := hreads second (by simp)
  refine ⟨some s, some s₁, some s₂, resolve_saved_object_eq_ok_iff.2 ⟨s, hs, rfl⟩,
    resolve_saved_object_eq_ok_iff.2 ⟨s₁, hs₁, rfl⟩,
    resolve_saved_object_eq_ok_iff.2 ⟨s₂, hs₂, rfl⟩, ?_⟩
  obtain ⟨_, criteria, _, -, hcriteria, -, rfl⟩ := Segment.ofValue_object_eq_ok_iff.1 hs
  obtain ⟨_, criteria₁, _, -, hcriteria₁, -, rfl⟩ := Segment.ofValue_object_eq_ok_iff.1 hs₁
  obtain ⟨_, criteria₂, _, -, hcriteria₂, -, rfl⟩ := Segment.ofValue_object_eq_ok_iff.1 hs₂
  rw [hfirst, Value.items_list] at hcriteria₁
  rw [hsecond, Value.items_list] at hcriteria₂
  rw [hjoined, Value.items_list, Attempt.each_append, hcriteria₁, hcriteria₂] at hcriteria
  exact (Except.ok.inj hcriteria).symm

/-! ## Criteria in another order -/

/-- Two selections of the same segment, the criteria of the second in another
order: the items of the saved list, or the criteria as they were read. -/
inductive Permuted : Selection → Selection → Prop where
  | saved {fields fields' : Fields} {items items' : List Value}
      (hitems : fields.get "criteria" = .list items)
      (hitems' : fields'.get "criteria" = .list items') (hperm : items'.Perm items)
      (hrest : ∀ key, key ≠ Text.ofString "criteria" → fields'.get key = fields.get key) :
      Permuted (.saved (.object fields)) (.saved (.object fields'))
  | read {s : Segment} {criteria : List Criterion} (hperm : criteria.Perm s.criteria) :
      Permuted (.read s) (.read { s with criteria })

variable {a b : Selection} {s : Segment} {ctx : Context}

theorem Permuted.symm (h : a.Permuted b) : b.Permuted a := by
  cases h with
  | saved hitems hitems' hperm hrest =>
      exact .saved hitems' hitems hperm.symm fun key hkey => (hrest key hkey).symm
  | @read s criteria hperm =>
      exact .read (s := { s with criteria }) hperm.symm

theorem Permuted.refl_left (h : a.Permuted b) : a.Permuted a := by
  cases h with
  | saved hitems hitems' hperm hrest => exact .saved hitems hitems (.refl _) fun _ _ => rfl
  | @read s criteria hperm => exact .read (s := s) (.refl _)

/-- What can be put into another order is never "no segment". -/
theorem Permuted.resolve_ne_none (h : a.Permuted b) : a.resolve ≠ .ok none := by
  cases h with
  | saved hitems hitems' hperm hrest =>
      intro hnone
      obtain ⟨_, -, heq⟩ := resolve_saved_object_eq_ok_iff.1 hnone
      cases heq
  | read hperm => exact fun hnone => by cases hnone

/-- Both are read to the same segment, but for the order. -/
theorem Permuted.resolve (h : a.Permuted b) (hs : a.resolve = .ok (some s)) :
    ∃ criteria, criteria.Perm s.criteria ∧ b.resolve = .ok (some { s with criteria }) := by
  cases h with
  | @saved fields fields' items items' hitems hitems' hperm hrest =>
      obtain ⟨_, hread, heq⟩ := resolve_saved_object_eq_ok_iff.1 hs
      cases heq
      obtain ⟨_, criteria, _, -, hcriteria, -, rfl⟩ := Segment.ofValue_object_eq_ok_iff.1 hread
      rw [hitems, Value.items_list] at hcriteria
      obtain ⟨criteria', hcriteria', hperm'⟩ := Attempt.each_perm hcriteria hperm
      rw [← Value.items_list items', ← hitems'] at hcriteria'
      have hread' := Segment.ofValue_of_other_criteria hread hrest hcriteria'
      exact ⟨criteria', hperm', resolve_saved_object_eq_ok_iff.2 ⟨_, hread', rfl⟩⟩
  | @read s' criteria hperm =>
      cases hs
      exact ⟨criteria, hperm, rfl⟩

/-- If one order can be read, so can every other. -/
theorem Permuted.exists_resolve_iff (h : a.Permuted b) :
    (∃ segment, a.resolve = .ok segment) ↔ ∃ segment, b.resolve = .ok segment := by
  have hone : ∀ {c d : Selection}, c.Permuted d → (∃ segment, c.resolve = .ok segment) →
      ∃ segment, d.resolve = .ok segment := by
    rintro c d hcd ⟨segment, hsegment⟩
    cases segment with
    | some s =>
        obtain ⟨criteria, -, hd⟩ := hcd.resolve hsegment
        exact ⟨_, hd⟩
    | none => exact absurd hsegment hcd.resolve_ne_none
  exact ⟨hone h, hone h.symm⟩

/-- A segment that cannot be read cannot be read in any order. -/
theorem Permuted.resolve_error (h : a.Permuted b) {failure : Failure}
    (ha : a.resolve = .error failure) : ∃ failure', b.resolve = .error failure' := by
  rw [← Attempt.toOption_eq_none_iff, Option.eq_none_iff_forall_ne_some]
  intro segment hsegment
  obtain ⟨segment', hsegment'⟩ :=
    h.exists_resolve_iff.2 ⟨segment, Attempt.toOption_eq_some_iff.1 hsegment⟩
  rw [ha] at hsegment'
  cases hsegment'

/-- What can be put into another order is a segment, and the same one but for
the order. -/
theorem Permuted.exists_resolve (h : a.Permuted b) {segment : Option Segment}
    (ha : a.resolve = .ok segment) :
    ∃ s criteria, segment = some s ∧ b.resolve = .ok (some { s with criteria }) := by
  cases segment with
  | none => exact absurd ha h.resolve_ne_none
  | some s =>
      obtain ⟨criteria, -, hb⟩ := h.resolve ha
      exact ⟨s, criteria, rfl, hb⟩

/-- An item of a list that was read item by item can be put first. -/
theorem exists_items_first {items : List Value} {before after : List Criterion} {c : Criterion}
    (h : Attempt.each Criterion.ofValue items = .ok (before ++ c :: after)) :
    ∃ items' : List Value, items'.Perm items
      ∧ Attempt.each Criterion.ofValue items' = .ok (c :: (before ++ after)) := by
  rw [Attempt.each_eq_ok_iff, List.map_append, List.map_cons, List.map_eq_append_iff] at h
  obtain ⟨front, back, rfl, hfront, hback⟩ := h
  obtain ⟨item, back, rfl, hitem, hback⟩ := List.map_eq_cons_iff.1 hback
  refine ⟨item :: (front ++ back), List.perm_middle.symm, Attempt.each_eq_ok_iff.2 ?_⟩
  rw [List.map_cons, List.map_append, hitem, hfront, hback, List.map_cons, List.map_append]

/-- Any criterion can be put first. -/
theorem exists_permuted_first (hs : a.resolve = .ok (some s)) {c : Criterion}
    (hc : c ∈ s.criteria) :
    ∃ b rest, a.Permuted b ∧ b.resolve = .ok (some { s with criteria := c :: rest }) := by
  obtain ⟨before, after, hsplit⟩ := List.append_of_mem hc
  cases a with
  | read s' =>
      cases hs
      have hperm : (c :: (before ++ after)).Perm s.criteria := by
        rw [hsplit]
        exact List.perm_middle.symm
      exact ⟨_, before ++ after, .read hperm, rfl⟩
  | saved v =>
      cases v with
      | object fields =>
          obtain ⟨_, hread, heq⟩ := resolve_saved_object_eq_ok_iff.1 hs
          cases heq
          obtain ⟨_, criteria, _, -, hcriteria, -, rfl⟩ :=
            Segment.ofValue_object_eq_ok_iff.1 hread
          change criteria = before ++ c :: after at hsplit
          rw [hsplit] at hcriteria
          have hlist : ∃ items, Fields.get fields "criteria" = .list items := by
            cases hv : Fields.get fields "criteria" with
            | list items => exact ⟨items, rfl⟩
            | null | bool _ | int _ | real _ | text _ | object _ =>
                rw [hv] at hcriteria
                cases before <;> cases hcriteria
          obtain ⟨items, hitems⟩ := hlist
          rw [hitems, Value.items_list] at hcriteria
          obtain ⟨items', hperm, hcriteria'⟩ := exists_items_first hcriteria
          have hrest : ∀ key, key ≠ Text.ofString "criteria" →
              Fields.get (Fields.put fields "criteria" (.list items')) key = Fields.get fields key :=
            fun key hkey => Fields.get_put_of_ne (Ne.symm hkey) fields _
          have hself := Fields.get_put_self fields "criteria" (.list items')
          rw [← Value.items_list items', ← hself] at hcriteria'
          refine ⟨.saved (.object (Fields.put fields "criteria" (.list items'))), before ++ after,
            .saved hitems hself hperm hrest, resolve_saved_object_eq_ok_iff.2 ⟨_, ?_, rfl⟩⟩
          exact Segment.ofValue_of_other_criteria hread hrest hcriteria'
      | null => cases hs
      | bool _ | int _ | real _ | text _ | list _ =>
          cases hs
          cases hc

end Selection

/-! ## When order matters -/

/-- One criterion of the segment refuses the context, and another has no
answer for it. -/
def Segment.Clashes (s : Segment) (ctx : Context) : Prop :=
  (∃ c ∈ s.criteria, c.rule.holds ctx = .ok false)
    ∧ ∃ c ∈ s.criteria, ∃ failure, c.rule.NoAnswer ctx failure

namespace Selection

variable {a b : Selection} {s : Segment} {ctx : Context}

def Clashes (a : Selection) (ctx : Context) : Prop :=
  ∃ s, a.resolve = .ok (some s) ∧ s.Clashes ctx

/-- With the criteria in another order, the outcome is the same if nothing
clashes: the same answer, or none. -/
theorem Permuted.alike (h : a.Permuted b) (hclash : ¬ a.Clashes ctx) :
    (b.accepts ctx).toOption = (a.accepts ctx).toOption := by
  cases hs : a.resolve with
  | error failure =>
      obtain ⟨failure', hs'⟩ := h.resolve_error hs
      rw [accepts, accepts, hs, hs']
      rfl
  | ok segment =>
      cases segment with
      | none => exact absurd hs h.resolve_ne_none
      | some s =>
          obtain ⟨criteria, hperm, hs'⟩ := h.resolve hs
          rw [accepts_of_resolve hs, accepts_of_resolve hs', Segment.acceptedBy_eq_all,
            Segment.acceptedBy_eq_all]
          refine Attempt.toOption_all_perm hperm ?_
          rintro ⟨hrefuses, c, hc, failure, hfailure⟩
          exact hclash ⟨s, hs, hrefuses, c, hc, failure, Rule.holds_eq_error_iff.1 hfailure⟩

/-- Where criteria clash, one order gives an answer and another none. -/
theorem exists_permuted_of_clashes (h : a.Clashes ctx) :
    (∃ b, a.Permuted b ∧ b.accepts ctx = .ok false)
      ∧ ∃ b, a.Permuted b ∧ ∃ failure, b.accepts ctx = .error failure := by
  obtain ⟨s, hs, ⟨c, hc, hrefuses⟩, c', hc', failure, hfails⟩ := h
  obtain ⟨b, rest, hb, hb'⟩ := exists_permuted_first hs hc
  obtain ⟨d, rest', hd, hd'⟩ := exists_permuted_first hs hc'
  have hfails := Rule.holds_eq_error_iff.2 hfails
  refine ⟨⟨b, hb, ?_⟩, d, hd, failure, ?_⟩
  · rw [accepts_of_resolve hb', Segment.acceptedBy_eq_all]
    exact (Attempt.all_cons_of_eq (by simp [hrefuses]) rest).trans hrefuses
  · rw [accepts_of_resolve hd', Segment.acceptedBy_eq_all]
    exact (Attempt.all_cons_of_eq (by simp [hfails]) rest').trans hfails

/-- **When order matters.** All orders of the criteria end alike on a context
exactly if no two of them clash on it. -/
theorem alike_iff_not_clashes :
    (∀ b, a.Permuted b → (b.accepts ctx).toOption = (a.accepts ctx).toOption) ↔
      ¬ a.Clashes ctx := by
  constructor
  · intro halike hclash
    obtain ⟨⟨b, hb, hno⟩, d, hd, failure, hfails⟩ := exists_permuted_of_clashes hclash
    have hboth := (halike b hb).trans (halike d hd).symm
    rw [hno, hfails] at hboth
    cases hboth
  · exact fun hclash b hb => hb.alike hclash

end Selection

end Audience
