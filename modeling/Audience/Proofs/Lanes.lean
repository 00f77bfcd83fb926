import Audience.Board
import Audience.Proofs.Limits

/-!
# The lanes of a board

A board is built in one loop over the leads, in which every step looks at all
lanes. A step leaves each lane alone or extends it by one lead (`take_eq`), and
so the loop fills each lane on its own (`foldlM_take`, `foldlM_place`): whatever
holds of a single `lane` holds of a board. Two facts serve the refresh: every
lane keeps the order of the leads it takes (`leads_sublist_of_build`), and on
leads whose estimates can be read only the quotes can make the board fail
(`exists_build_ok_iff`).
-/

namespace Audience

namespace Board

theorem exists_amount_ok_iff {lead : Value} :
    (∃ x, amount lead = .ok x) ↔ ¬ (lead.fields.get "estimatedValue").AmountOverflows := by
  rw [← Value.amountOverflows_orElse_zero, ← Value.exists_toAmount_ok_iff, amount,
    Attempt.exists_map_ok_iff]

/-! ## The loop, lane by lane -/

/-- A lane with leads of its status, and what they add up to, put to its
end. -/
def extend (converted : List Text) (leads : List Value) (l : Lane) (amounts : List Binary64) :
    Lane :=
  { l with
    leads := l.leads ++ leads
    convertedCount := l.convertedCount + leads.countP (isConverted converted)
    totalValue := amounts.foldl (· + ·) l.totalValue }

theorem extend_extend (converted : List Text) (leads more : List Value) (l : Lane)
    (amounts others : List Binary64) :
    extend converted more (extend converted leads l amounts) others
      = extend converted (leads ++ more) l (amounts ++ others) := by
  simp only [extend, List.append_assoc, List.countP_append, Nat.add_assoc, List.foldl_append]

/-- One lead: a lane takes it if it has the lane's status and an amount, and is
left alone by any other. -/
theorem take_eq (converted : List Text) (lead : Value) (l : Lane) :
    take converted lead l
      = if isIn l.status lead then
          (amount lead).map fun x => extend converted [lead] l [x]
        else .ok l := by
  unfold take
  split
  · have hcount : (if isConverted converted lead then l.convertedCount + 1 else l.convertedCount)
        = l.convertedCount + [lead].countP (isConverted converted) := by
      rw [List.countP_singleton]
      split <;> rfl
    rw [hcount]
    cases amount lead <;> rfl
  · rfl

/-- All leads: a lane takes those of its status, in order, and fails with the
first of them that has no amount. -/
theorem foldlM_take (converted : List Text) (leads : List Value) (l : Lane) :
    leads.foldlM (fun l lead => take converted lead l) l
      = (Attempt.each amount (leads.filter (isIn l.status))).map
          (extend converted (leads.filter (isIn l.status)) l) := by
  induction leads generalizing l with
  | nil => simp [Attempt.each, extend, Except.map]
  | cons lead rest ih =>
      rw [List.foldlM_cons, take_eq, List.filter_cons]
      split
      · rw [Attempt.each]
        cases amount lead with
        | error failure => rfl
        | ok x =>
            have hrest := ih (extend converted [lead] l [x])
            have hstatus : (extend converted [lead] l [x]).status = l.status := rfl
            rw [hstatus] at hrest
            refine hrest.trans ?_
            cases Attempt.each amount (rest.filter (isIn l.status)) with
            | error failure => rfl
            | ok amounts =>
                exact congrArg Except.ok (extend_extend converted [lead] _ l [x] amounts)
      · exact ih l

/-- The lane of a status on its own. -/
def lane (converted : List Text) (leads : List Value) (status : Text) : Attempt Lane := do
  let leads := leads.filter (isIn status)
  let amounts ← Attempt.each amount leads
  let convertedCount := leads.countP (isConverted converted)
  return { status, leads, convertedCount
           conversionRate := if leads.isEmpty then 0 else percentage convertedCount leads.length
           totalValue := amounts.foldl (· + ·) (.zero false) }

theorem lane_eq (converted : List Text) (leads : List Value) (status : Text) :
    lane converted leads status
      = leads.foldlM (fun l lead => take converted lead l) (emptyLane status)
        >>= fun l => .ok (rate l) := by
  have hstatus : (emptyLane status).status = status := rfl
  rw [foldlM_take, hstatus, lane]
  cases Attempt.each amount (leads.filter (isIn status)) with
  | error failure => rfl
  | ok amounts =>
      refine congrArg Except.ok ?_
      unfold rate
      simp only [extend, emptyLane, List.nil_append, Nat.zero_add]
      split <;> rfl

theorem lane_eq_ok {converted : List Text} {leads : List Value} {status : Text} {l : Lane}
    (h : lane converted leads status = .ok l) :
    l.status = status ∧ l.leads = leads.filter (isIn status) := by
  simp only [lane, Attempt.bind_eq_ok_iff, Attempt.pure_eq_ok, Except.ok.injEq] at h
  obtain ⟨amounts, -, rfl⟩ := h
  exact ⟨rfl, rfl⟩

/-- Placing the leads one after the other on the board fills each lane on its
own. -/
theorem foldlM_place {converted : List Text} {leads : List Value} {board : List Lane} :
    (leads.foldlM (place converted) empty >>= fun board => .ok (board.map rate)) = .ok board ↔
      Attempt.each (lane converted leads) statuses = .ok board := by
  have hrate : (fun board : List Lane => (.ok (board.map rate) : Attempt (List Lane)))
      = Attempt.each fun l => .ok (rate l) :=
    funext fun board => (Attempt.each_ok rate board).symm
  have hlanes : lane converted leads = fun status =>
      leads.foldlM (fun l lead => take converted lead l) (emptyLane status)
        >>= fun l => .ok (rate l) :=
    funext (lane_eq converted leads)
  have hcells : ∀ raw, leads.foldlM (place converted) empty = .ok raw ↔
      Attempt.each (fun status =>
        leads.foldlM (fun l lead => take converted lead l) (emptyLane status)) statuses
        = .ok raw := by
    intro raw
    rw [← Attempt.each_map (fun l => leads.foldlM (fun l lead => take converted lead l) l)]
    exact Attempt.foldlM_each_eq_ok_iff
  rw [hlanes, ← Attempt.each_bind_eq_ok_iff, hrate, Attempt.bind_eq_ok_iff, Attempt.bind_eq_ok_iff]
  exact exists_congr fun raw => and_congr_left fun _ => hcells raw

/-- Building a board takes the ids from the quotes and then each lane from
the leads. -/
theorem build_list_eq_ok_iff {leads : List Value} {quotes : Value} {board : List Lane} :
    build (.list leads) quotes = .ok board ↔
      ∃ ids, convertedIds quotes = .ok ids
        ∧ Attempt.each (lane ids leads) statuses = .ok board := by
  rw [build, Attempt.bind_eq_ok_iff]
  refine exists_congr fun ids => and_congr_right fun _ => ?_
  rw [Value.elementsOrNone_eq (Value.isListOrNull_list leads), ← foldlM_place]
  rfl

theorem leads_sublist_of_build {leads : List Value} {quotes : Value} {board : List Lane}
    (h : build (.list leads) quotes = .ok board) : ∀ l ∈ board, l.leads.Sublist leads := by
  obtain ⟨ids, -, hlanes⟩ := build_list_eq_ok_iff.1 h
  intro l hl
  obtain ⟨status, -, hstatus⟩ := (Attempt.mem_each_iff hlanes).1 hl
  rw [(lane_eq_ok hstatus).2]
  exact List.filter_sublist

theorem status_of_build {leads : List Value} {quotes : Value} {board : List Lane}
    (h : build (.list leads) quotes = .ok board) : board.map Lane.status = statuses := by
  obtain ⟨ids, -, hlanes⟩ := build_list_eq_ok_iff.1 h
  have hmap := Attempt.each_eq_ok_iff.1 hlanes
  apply List.ext_getElem?
  intro i
  have hi := congrArg (·[i]?) hmap
  simp only [List.getElem?_map] at hi ⊢
  cases hs : statuses[i]? with
  | none =>
      rw [hs] at hi
      cases hb : board[i]? with
      | none => rfl
      | some l => simp [hb] at hi
  | some status =>
      rw [hs] at hi
      cases hb : board[i]? with
      | none => simp [hb] at hi
      | some l =>
          simp only [hb, Option.map_some, Option.some.injEq] at hi
          rw [Option.map_some, (lane_eq_ok hi).1]

/-- A quote fails if it names a lead and its status cannot serve as a key. -/
theorem exists_convertedId?_ok_iff {quote : Value} :
    (∃ id, convertedId? quote = .ok id) ↔
      ((quote.fields.get "leadId").isNull = false →
        (quote.fields.get "status").isContainer = false) := by
  cases quote with
  | object fields =>
      change (∃ id, convertedId? (.object fields) = .ok id) ↔
        ((Fields.get fields "leadId").isNull = false →
          (Fields.get fields "status").isContainer = false)
      rw [convertedId?]
      cases hid : (Fields.get fields "leadId").isNull with
      | true => simp
      | false =>
          cases hstatus : (Fields.get fields "status").isContainer <;>
            simp [Value.asKey, hstatus, bind, Except.bind]
  | null | bool _ | int _ | real _ | text _ | list _ =>
      refine iff_of_true ⟨none, rfl⟩ fun hid => ?_
      cases hid

theorem convertedIds_list (quotes : List Value) :
    convertedIds (.list quotes) = (Attempt.each convertedId? quotes).map
      fun ids => (ids.filterMap id).foldr insertId [] := by
  rw [convertedIds, Value.elementsOrNone_eq (Value.isListOrNull_list quotes)]
  rfl

theorem exists_convertedIds_ok_iff {quotes : List Value} :
    (∃ ids, convertedIds (.list quotes) = .ok ids) ↔
      ∀ quote ∈ quotes, (quote.fields.get "leadId").isNull = false →
        (quote.fields.get "status").isContainer = false := by
  rw [convertedIds_list, Attempt.exists_map_ok_iff, Attempt.exists_each_ok_iff]
  simp only [exists_convertedId?_ok_iff]

/-- A lane fails if a lead of its status has no amount. -/
theorem exists_lane_ok_iff {converted : List Text} {leads : List Value} {status : Text} :
    (∃ l, lane converted leads status = .ok l) ↔
      ∀ lead ∈ leads, isIn status lead = true →
        ¬ (lead.fields.get "estimatedValue").AmountOverflows := by
  have hamounts : (∃ l, lane converted leads status = .ok l) ↔
      ∃ amounts, Attempt.each amount (leads.filter (isIn status)) = .ok amounts := by
    rw [lane, Attempt.exists_bind_ok_iff]
    exact exists_congr fun _ => and_iff_left ⟨_, rfl⟩
  rw [hamounts, Attempt.exists_each_ok_iff]
  simp only [exists_amount_ok_iff, List.mem_filter, and_imp]

theorem exists_build_list_ok_iff {leads : List Value} {quotes : Value} :
    (∃ board, build (.list leads) quotes = .ok board) ↔
      (∃ ids, convertedIds quotes = .ok ids)
        ∧ ∀ status ∈ statuses, ∀ lead ∈ leads, isIn status lead = true →
          ¬ (lead.fields.get "estimatedValue").AmountOverflows := by
  have hlanes : ∀ ids, (∃ board, Attempt.each (lane ids leads) statuses = .ok board) ↔
      ∀ status ∈ statuses, ∀ lead ∈ leads, isIn status lead = true →
        ¬ (lead.fields.get "estimatedValue").AmountOverflows := by
    intro ids
    rw [Attempt.exists_each_ok_iff]
    exact forall_congr' fun status => imp_congr_right fun _ => exists_lane_ok_iff
  simp only [build_list_eq_ok_iff]
  rw [exists_comm]
  simp only [exists_and_left, hlanes, exists_and_right]

/-- On readable leads a board fails only with its quotes. -/
theorem exists_build_ok_iff {leads : List Value} {quotes : Value}
    (hleads : ∀ lead ∈ leads, ¬ (lead.fields.get "estimatedValue").AmountOverflows) :
    (∃ board, build (.list leads) quotes = .ok board) ↔ ∃ ids, convertedIds quotes = .ok ids := by
  rw [exists_build_list_ok_iff, and_iff_left]
  exact fun _ _ lead hlead _ => hleads lead hlead

/-- The board that stands in for one that failed: the four lanes, with
nothing in them. -/
theorem mem_empty {l : Lane} (h : l ∈ empty) :
    l.leads = [] ∧ l.convertedCount = 0 ∧ l.conversionRate = 0 ∧ l.totalValue = .zero false := by
  obtain ⟨status, -, rfl⟩ := List.mem_map.1 h
  exact ⟨rfl, rfl, rfl, rfl⟩

end Board

end Audience
