import Audience.Proofs.Rates

/-!
# More quotes never lower a conversion

Quotes that are added to a board may convert more of its leads and never fewer,
and where the leads are stays a matter of the leads. So it remains to see that a
lane's rate does not fall when more of its leads are converted.

A rate goes through a division, a product, a sum and a floor, each rounded, and
each of the four keeps the order of what it is given. So greater shares have
greater rates whatever the sizes of the lanes (`percentage_le_percentage`). Rates
between 0 and 100 are the special case in which one of the shares is nothing or
the whole.
-/

namespace Audience

namespace Board

open Binary64

variable {part whole part' whole' : Nat}

/-! ## The order of percentages -/

/-- On the way to a percentage no double leaves the finite ones: each step lies
between those for nothing and for the whole. -/
theorem isFinite_percentage_steps (hpos : 0 < whole) (hle : part ≤ whole) :
    (ofRatio part whole).isFinite = true
      ∧ (ofRatio part whole * ofInt 100).isFinite = true
      ∧ (ofRatio part whole * ofInt 100 + ofRatio 1 2).isFinite = true := by
  have hnone : (ofRatio 0 1).isFinite = true ∧ (ofRatio 0 1 * ofInt 100).isFinite = true
      ∧ (ofRatio 0 1 * ofInt 100 + ofRatio 1 2).isFinite = true := by decide +kernel
  have hall : (ofRatio 1 1).isFinite = true ∧ (ofRatio 1 1 * ofInt 100).isFinite = true
      ∧ (ofRatio 1 1 * ofInt 100 + ofRatio 1 2).isFinite = true := by decide +kernel
  have hhalf := toQuanta_half.1
  obtain ⟨hq, hhundred⟩ := ofInt_of_le (i := 100) (by decide)
  rw [hhundred] at hnone hall ⊢
  have hlow : (ofRatio 0 1).le (ofRatio part whole) = true :=
    ofRatio_le_ofRatio Nat.one_pos hpos (by omega)
  have hhigh : (ofRatio part whole).le (ofRatio 1 1) = true :=
    ofRatio_le_ofRatio hpos Nat.one_pos (by omega)
  have hshare := isFinite_of_between hlow hhigh hnone.1 hall.1
  have hlow := mul_le_mul_right hlow hnone.1 hshare hq
  have hhigh := mul_le_mul_right hhigh hshare hall.1 hq
  have hproduct := isFinite_of_between hlow hhigh hnone.2.1 hall.2.1
  have hlow := add_le_add_right hlow hnone.2.1 hproduct hhalf
  have hhigh := add_le_add_right hhigh hproduct hall.2.1 hhalf
  exact ⟨hshare, hproduct, isFinite_of_between hlow hhigh hnone.2.2 hall.2.2⟩

/-- A greater share has no smaller percentage. -/
theorem percentage_le_percentage (hpos : 0 < whole) (hpos' : 0 < whole') (hle : part ≤ whole)
    (hle' : part' ≤ whole') (h : part * whole' ≤ part' * whole) :
    percentage part whole ≤ percentage part' whole' := by
  obtain ⟨hshare, hproduct, hsum⟩ := isFinite_percentage_steps hpos hle
  obtain ⟨hshare', hproduct', hsum'⟩ := isFinite_percentage_steps hpos' hle'
  obtain ⟨hq, hhundred⟩ := ofInt_of_le (i := 100) (by decide)
  rw [hhundred] at hproduct hproduct' hsum hsum'
  rw [percentage, percentage, hhundred]
  have hshares := ofRatio_le_ofRatio hpos hpos' h
  have hproducts := mul_le_mul_right hshares hshare hshare' hq
  have hsums := add_le_add_right hproducts hproduct hproduct' toQuanta_half.1
  exact floor_le_floor hsums hsum hsum'

theorem percentage_none (hpos : 0 < whole) : percentage 0 whole = 0 := by
  have hone : percentage 0 whole = percentage 0 1 :=
    percentage_congr hpos Nat.one_pos (by rw [Nat.zero_mul, Nat.zero_mul])
  rw [hone]
  decide +kernel

theorem percentage_all (hpos : 0 < whole) : percentage whole whole = 100 := by
  have hone : percentage whole whole = percentage 1 1 :=
    percentage_congr hpos Nat.one_pos (Nat.mul_comm whole 1)
  rw [hone]
  decide +kernel

theorem percentage_bounds (hpos : 0 < whole) (hle : part ≤ whole) :
    0 ≤ percentage part whole ∧ percentage part whole ≤ 100 := by
  constructor
  · rw [← percentage_none hpos]
    refine percentage_le_percentage hpos hpos (Nat.zero_le whole) hle ?_
    exact Nat.mul_le_mul_right whole (Nat.zero_le part)
  · rw [← percentage_all hpos]
    exact percentage_le_percentage hpos hpos hle (Nat.le_refl whole)
      (Nat.mul_le_mul_right whole hle)

/-! ## The rate of a lane -/

variable {leads quotes quotes' : List Value} {board board' : List Lane} {l l' : Lane}
  {ids ids' : List Text} {status : Text}

/-- What the rate of a lane can be, and what it is where no lead or every lead is
converted. -/
structure RateBounds (quotes : List Value) (l : Lane) : Prop where
  nonneg : 0 ≤ l.conversionRate
  le_hundred : l.conversionRate ≤ 100
  of_none : (∀ lead ∈ l.leads, ¬ ∃ quote ∈ quotes, Converts quote lead) → l.conversionRate = 0
  of_all : l.leads ≠ [] → (∀ lead ∈ l.leads, ∃ quote ∈ quotes, Converts quote lead) →
    l.conversionRate = 100

theorem rate_of_empty (h : build (.list leads) (.list quotes) = .ok board) (hl : l ∈ board)
    (hempty : l.leads = []) : l.conversionRate = 0 := by
  obtain ⟨ids, -, hlanes⟩ := build_list_eq_ok_iff.1 h
  rw [(lane_spec (lane_of_mem hlanes hl)).2.2.2, hempty]
  rfl

theorem rateBounds_of_build (h : build (.list leads) (.list quotes) = .ok board) (hl : l ∈ board) :
    RateBounds quotes l := by
  by_cases hempty : l.leads = []
  · have hrate := rate_of_empty h hl hempty
    exact ⟨by omega, by omega, fun _ => hrate, absurd hempty⟩
  · have hpos : 0 < l.leads.length := List.length_pos_iff.2 hempty
    have hrate := rate_of_build h hl hempty
    obtain ⟨hlow, hhigh⟩ := percentage_bounds hpos (won_le quotes l)
    refine ⟨hrate ▸ hlow, hrate ▸ hhigh, fun hnone => ?_, fun _ hall => ?_⟩
    · have hwon : won quotes l = 0 := by
        refine List.countP_eq_zero.2 fun lead hlead hconverted => ?_
        exact hnone lead hlead (of_decide_eq_true hconverted)
      rw [hrate, hwon, percentage_none hpos]
    · have hwon : won quotes l = l.leads.length := by
        refine List.countP_eq_length.2 fun lead hlead => ?_
        exact decide_eq_true (hall lead hlead)
      rw [hrate, hwon, percentage_all hpos]

/-! ## Boards with fewer and with more quotes -/

/-- What more quotes can do to a lane. -/
structure Gains (l l' : Lane) : Prop where
  leads : l'.leads = l.leads
  totalValue : l'.totalValue = l.totalValue
  convertedCount : l.convertedCount ≤ l'.convertedCount
  conversionRate : l.conversionRate ≤ l'.conversionRate

/-- The quotes have no part in what a lane holds and is worth. -/
theorem lane_of_other_ids (h : lane ids leads status = .ok l) (h' : lane ids' leads status = .ok l') :
    l'.leads = l.leads ∧ l'.totalValue = l.totalValue := by
  obtain ⟨amounts, hamounts, hl⟩ := Attempt.bind_eq_ok_iff.1 h
  obtain ⟨amounts', hamounts', hl'⟩ := Attempt.bind_eq_ok_iff.1 h'
  obtain rfl := Except.ok.inj (hamounts.symm.trans hamounts')
  cases hl
  cases hl'
  exact ⟨rfl, rfl⟩

theorem won_mono (hsub : ∀ quote ∈ quotes, quote ∈ quotes') (l : Lane) :
    won quotes l ≤ won quotes' l := by
  refine List.countP_mono_left fun lead _ hconverted => ?_
  rw [decide_eq_true_eq] at hconverted ⊢
  obtain ⟨quote, hquote, hconverts⟩ := hconverted
  exact ⟨quote, hsub quote hquote, hconverts⟩

theorem gains_of_build (h : build (.list leads) (.list quotes) = .ok board)
    (h' : build (.list leads) (.list quotes') = .ok board')
    (hsub : ∀ quote ∈ quotes, quote ∈ quotes') (hl : l ∈ board) (hl' : l' ∈ board')
    (hstatus : l'.status = l.status) : Gains l l' := by
  obtain ⟨ids, -, hlanes⟩ := build_list_eq_ok_iff.1 h
  obtain ⟨ids', -, hlanes'⟩ := build_list_eq_ok_iff.1 h'
  have hlane := lane_of_mem hlanes' hl'
  rw [hstatus] at hlane
  obtain ⟨hleads, htotal⟩ := lane_of_other_ids (lane_of_mem hlanes hl) hlane
  have hwon : won quotes l ≤ won quotes' l' := by
    have hsame : won quotes' l' = won quotes' l := by rw [won, hleads, won]
    rw [hsame]
    exact won_mono hsub l
  refine ⟨hleads, htotal, ?_, ?_⟩
  · rw [(isPartition_of_build h).convertedCount_eq l hl,
      (isPartition_of_build h').convertedCount_eq l' hl']
    exact hwon
  · by_cases hempty : l.leads = []
    · rw [rate_of_empty h hl hempty]
      exact (rateBounds_of_build h' hl').nonneg
    · have hpos : 0 < l.leads.length := List.length_pos_iff.2 hempty
      have hle := won_le quotes' l'
      rw [hleads] at hle
      rw [rate_of_build h hl hempty, rate_of_build h' hl' (hleads ▸ hempty), hleads]
      exact percentage_le_percentage hpos hpos (won_le quotes l) hle
        (Nat.mul_le_mul_right _ hwon)

/-- **More quotes never lower a conversion.** Where a board can be built with some
quotes it can be built with fewer. Lane by lane the two boards hold the same leads
and have the same totals, and with more quotes no fewer leads are converted and
the rate is no lower. Every rate lies between 0 and 100; it is 0 where no lead of
the lane is converted, and 100 where there are leads and all of them are. -/
theorem more_quotes_gain (h' : build (.list leads) (.list quotes') = .ok board')
    (hsub : ∀ quote ∈ quotes, quote ∈ quotes') :
    ∃ board, build (.list leads) (.list quotes) = .ok board
      ∧ board.map Lane.status = board'.map Lane.status
      ∧ (∀ l ∈ board, ∀ l' ∈ board', l'.status = l.status → Gains l l')
      ∧ (∀ l ∈ board, RateBounds quotes l) ∧ ∀ l' ∈ board', RateBounds quotes' l' := by
  obtain ⟨hquotes, hleads⟩ := exists_build_list_ok_iff.1 ⟨board', h'⟩
  have hfewer : ∃ ids, convertedIds (.list quotes) = .ok ids :=
    exists_convertedIds_ok_iff.2 fun quote hquote =>
      exists_convertedIds_ok_iff.1 hquotes quote (hsub quote hquote)
  obtain ⟨board, h⟩ := exists_build_list_ok_iff.2 ⟨hfewer, hleads⟩
  refine ⟨board, h, (status_of_build h).trans (status_of_build h').symm, ?_, ?_, ?_⟩
  · intro l hl l' hl' hstatus
    exact gains_of_build h h' hsub hl hl' hstatus
  · intro l hl
    exact rateBounds_of_build h hl
  · intro l' hl'
    exact rateBounds_of_build h' hl'

/-- A quote that converts the lead which `mixedPipeline` has twice. -/
def lateQuote : Value := .object [("leadId", .text "b"), ("status", .text "Converted")]

/-- With one more quote the last lane goes from nothing to the whole, and no lane
loses anything. -/
theorem lateQuote_gains :
    ∃ board board', build (.list mixedPipeline) (.list mixedQuotes) = .ok board
      ∧ build (.list mixedPipeline) (.list (lateQuote :: mixedQuotes)) = .ok board'
      ∧ board.map (fun l => (l.convertedCount, l.conversionRate))
        = [(1, 50), (0, 0), (1, 100), (0, 0)]
      ∧ board'.map (fun l => (l.convertedCount, l.conversionRate))
        = [(1, 50), (0, 0), (1, 100), (2, 100)]
      ∧ (∀ l ∈ board, ∀ l' ∈ board', l'.status = l.status → Gains l l')
      ∧ (∀ l ∈ board, RateBounds mixedQuotes l)
      ∧ ∀ l' ∈ board', RateBounds (lateQuote :: mixedQuotes) l' := by
  have hrates : (build (.list mixedPipeline) (.list mixedQuotes)).toOption.map
      (List.map fun l => (l.convertedCount, l.conversionRate))
      = some [(1, 50), (0, 0), (1, 100), (0, 0)] := by decide +kernel
  have hrates' : (build (.list mixedPipeline) (.list (lateQuote :: mixedQuotes))).toOption.map
      (List.map fun l => (l.convertedCount, l.conversionRate))
      = some [(1, 50), (0, 0), (1, 100), (2, 100)] := by decide +kernel
  obtain ⟨board', h', hboard'⟩ := exists_build_of_map hrates'
  have hmore : ∀ quote ∈ mixedQuotes, quote ∈ lateQuote :: mixedQuotes := fun quote hquote =>
    List.mem_cons_of_mem lateQuote hquote
  obtain ⟨board, h, -, hgains, hbounds, hbounds'⟩ := more_quotes_gain h' hmore
  rw [h] at hrates
  exact ⟨board, board', h, h', Option.some.inj hrates, hboard', hgains, hbounds, hbounds'⟩

end Board

end Audience
