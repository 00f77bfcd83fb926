import Audience.Proofs.Partition
import Audience.Proofs.Rounding
import Mathlib.Algebra.BigOperators.Ring.List

/-!
# Totals and the order of the leads

A lane's total adds doubles from left to right and rounds after each of them, so
it may depend on the order of the leads. What it is meant to be does not: the
exact sum of what the leads are worth, counted in quanta.

- Where no sum on the way has to be rounded (`Binary64.SumsFit`), the total is
  the double of the exact sum, whatever the order
  (`Binary64.foldl_add_of_sumsFit`).
- Anywhere else a lead costs the total half a step at most, as long as there is
  room below the largest double (`Binary64.foldl_add_near`), so two orders differ
  by at most a step for each lead.

Two amounts always fit, and so do amounts that are multiples of one power of
two, up to 2^53 times that power: whole amounts, halves, quarters.
-/

namespace Audience

namespace Binary64

variable {amounts : List Binary64} {quanta : List Int}

/-! ## Adding without rounding -/

theorem isRepresentable_toQuanta (x : Binary64) :
    Quanta.IsRepresentable x.toQuanta.natAbs := by
  cases x with
  | finite s q h => rwa [toQuanta_finite, natAbs_signed]
  | _ => exact representable_zero

theorem ofQuanta_add {i : Int} {x : Binary64} (hi : Quanta.IsRepresentable i.natAbs)
    (hx : x.isFinite = true) : ofQuanta i + x = ofQuanta (i + x.toQuanta) := by
  obtain ⟨t, q, hq, rfl⟩ := isFinite_iff.1 hx
  rw [ofQuanta_of_isRepresentable hi, add_finite, signed_natAbs, toQuanta_finite]
  split
  · rename_i hzero
    -- a zero is negative only as the sum of two negative terms
    have hpositive : (decide (i < 0) && t) = false := by
      cases t with
      | false => exact Bool.and_false _
      | true =>
          change i + -(q : Int) = 0 at hzero
          rw [Bool.and_true, decide_eq_false_iff_not]
          omega
    rw [hzero, ofQuanta_zero, hpositive]
  · rfl

/-- No rounding, by induction on the amounts; what has been added so far is
known exactly. -/
theorem foldl_add_exact (hfinite : ∀ x ∈ amounts, x.isFinite = true) (i : Int)
    (hfit : ∀ taken left, taken ++ left = amounts.map toQuanta → left ≠ [] →
      Quanta.IsRepresentable (i + taken.sum).natAbs) :
    amounts.foldl (· + ·) (ofQuanta i) = ofQuanta (i + (amounts.map toQuanta).sum) := by
  induction amounts generalizing i with
  | nil => rw [List.map_nil, List.sum_nil, Int.add_zero, List.foldl_nil]
  | cons x rest ih =>
      obtain ⟨hx, hrest⟩ := List.forall_mem_cons.1 hfinite
      have hi : Quanta.IsRepresentable i.natAbs := by
        simpa using hfit [] _ rfl (List.cons_ne_nil _ _)
      rw [List.foldl_cons, ofQuanta_add hi hx, List.map_cons, List.sum_cons, ← Int.add_assoc]
      refine ih hrest _ fun taken left heq hleft => ?_
      rw [Int.add_assoc, ← List.sum_cons]
      exact hfit (x.toQuanta :: taken) left (by rw [List.cons_append, heq, List.map_cons]) hleft

/-- Amounts, in quanta, that can be added in any order without rounding, but for
the last sum, which is finite. -/
structure SumsFit (quanta : List Int) : Prop where
  partial_sums : ∀ taken left, (taken ++ left).Perm quanta → left ≠ [] →
    Quanta.IsRepresentable taken.sum.natAbs
  total : (ofQuanta quanta.sum).isFinite = true

theorem foldl_add_of_sumsFit (h : SumsFit quanta) (hfinite : ∀ x ∈ amounts, x.isFinite = true)
    (hperm : (amounts.map toQuanta).Perm quanta) :
    amounts.foldl (· + ·) (zero false) = ofQuanta quanta.sum := by
  have hexact := foldl_add_exact hfinite 0 fun taken left heq hleft => by
    rw [Int.zero_add]
    exact h.partial_sums taken left (heq ▸ hperm) hleft
  rwa [ofQuanta_zero, Int.zero_add, hperm.sum_eq] at hexact

/-! ## Amounts that fit -/

theorem natAbs_sum_le (quanta : List Int) : quanta.sum.natAbs ≤ (quanta.map Int.natAbs).sum := by
  induction quanta with
  | nil => exact Nat.le_refl 0
  | cons i rest ih =>
      rw [List.sum_cons, List.map_cons, List.sum_cons]
      exact Nat.le_trans (Int.natAbs_add_le i rest.sum) (Nat.add_le_add_left ih _)

theorem sumsFit_of_length_le_two (hle : amounts.length ≤ 2)
    (htotal : (ofQuanta (amounts.map toQuanta).sum).isFinite = true) :
    SumsFit (amounts.map toQuanta) := by
  refine ⟨fun taken left hperm hleft => ?_, htotal⟩
  have hlength := hperm.length_eq
  rw [List.length_append, List.length_map] at hlength
  have hpos := List.length_pos_iff.2 hleft
  match taken with
  | [] => exact representable_zero
  | [i] =>
      have hi : i ∈ amounts.map toQuanta :=
        hperm.mem_iff.1 (List.mem_append_left left List.mem_cons_self)
      obtain ⟨x, -, rfl⟩ := List.mem_map.1 hi
      rw [List.sum_singleton]
      exact isRepresentable_toQuanta x
  | _ :: _ :: _ =>
      rw [List.length_cons, List.length_cons] at hlength
      omega

theorem sumsFit_of_dvd {k : Nat} (hk : k + 53 < 2098) (hdvd : ∀ i ∈ quanta, (2 ^ k : Int) ∣ i)
    (hle : (quanta.map Int.natAbs).sum ≤ 2 ^ (k + 53)) : SumsFit quanta := by
  have hfits : ∀ taken left : List Int, (taken ++ left).Perm quanta →
      Quanta.IsRepresentable taken.sum.natAbs := by
    intro taken left hperm
    refine Quanta.isRepresentable_of_dvd hk ?_ ?_
    · have hsum : (2 ^ k : Int) ∣ taken.sum := List.dvd_sum fun i hi =>
        hdvd i (hperm.mem_iff.1 (List.mem_append_left left hi))
      rw [← Int.natAbs_dvd_natAbs, Int.natAbs_pow] at hsum
      exact hsum
    · calc taken.sum.natAbs ≤ (taken.map Int.natAbs).sum := natAbs_sum_le taken
        _ ≤ ((taken ++ left).map Int.natAbs).sum := by
          rw [List.map_append, List.sum_append]
          exact Nat.le_add_right _ _
        _ = (quanta.map Int.natAbs).sum := (hperm.map _).sum_eq
        _ ≤ 2 ^ (k + 53) := hle
  refine ⟨fun taken left hperm _ => hfits taken left hperm, ?_⟩
  rw [ofQuanta_of_isRepresentable (hfits quanta [] (by rw [List.append_nil]))]
  rfl

/-! ## Adding with rounding -/

/-- Each addition costs half a step, by induction on the amounts; the room that
the steps to come need is kept. -/
theorem foldl_add_near {k : Nat} (hk : k + 53 < 2098)
    (hfinite : ∀ x ∈ amounts, x.isFinite = true) {acc : Binary64} (hacc : acc.isFinite = true)
    (hroom : acc.toQuanta.natAbs + ((amounts.map toQuanta).map Int.natAbs).sum
      + amounts.length * 2 ^ k < 2 ^ (k + 53)) :
    (amounts.foldl (· + ·) acc).isFinite = true
      ∧ 2 * ((amounts.foldl (· + ·) acc).toQuanta
          - (acc.toQuanta + (amounts.map toQuanta).sum)).natAbs ≤ amounts.length * 2 ^ k := by
  induction amounts generalizing acc with
  | nil => simpa using hacc
  | cons x rest ih =>
      obtain ⟨hx, hrest⟩ := List.forall_mem_cons.1 hfinite
      simp only [List.map_cons, List.sum_cons, List.length_cons, Nat.succ_mul] at hroom ⊢
      rw [List.foldl_cons]
      have hstep := Nat.two_pow_pos k
      obtain ⟨hsum, hnear⟩ := add_near (k := k) hacc hx (by omega) hk
      obtain ⟨htotal, htotalNear⟩ := ih hrest hsum (by omega)
      exact ⟨htotal, by omega⟩

/-- There is room for amounts and for half a step of 2^k quanta with each. -/
def HasRoom (k : Nat) (quanta : List Int) : Prop :=
  k + 53 < 2098 ∧ (quanta.map Int.natAbs).sum + quanta.length * 2 ^ k < 2 ^ (k + 53)

instance (k : Nat) (quanta : List Int) : Decidable (HasRoom k quanta) :=
  inferInstanceAs (Decidable (_ ∧ _))

theorem foldl_add_of_hasRoom {k : Nat} (h : HasRoom k quanta)
    (hfinite : ∀ x ∈ amounts, x.isFinite = true) (hperm : (amounts.map toQuanta).Perm quanta) :
    (amounts.foldl (· + ·) (zero false)).isFinite = true
      ∧ 2 * ((amounts.foldl (· + ·) (zero false)).toQuanta - quanta.sum).natAbs
        ≤ quanta.length * 2 ^ k := by
  obtain ⟨hk, hroom⟩ := h
  have hlength := hperm.length_eq
  have hstart : (zero false).toQuanta = 0 := rfl
  rw [List.length_map] at hlength
  rw [← (hperm.map Int.natAbs).sum_eq, ← hlength] at hroom
  have hnear := foldl_add_near hk hfinite (show (zero false).isFinite = true from rfl)
    (by rwa [hstart, Int.natAbs_zero, Nat.zero_add])
  rwa [hstart, Int.zero_add, hperm.sum_eq, hlength] at hnear

end Binary64

namespace Board

open Binary64

variable {leads leads' quotes : List Value} {board : List Lane} {ids : List Text} {status : Text}

/-! ## The totals of a board -/

/-- What a lead adds to its lane's total, in quanta. -/
def worth (lead : Value) : Int := ((amount lead).toOption.getD (zero false)).toQuanta

theorem isFinite_of_amount {lead : Value} {x : Binary64} (h : amount lead = .ok x) :
    x.isFinite = true := by
  obtain ⟨y, -, rfl⟩ := Attempt.map_eq_ok_iff.1 h
  split
  · assumption
  · rfl

/-- A lane's total is a sum of finite doubles, of as many quanta as the leads are
worth. -/
theorem total_spec {l : Lane} (h : lane ids leads status = .ok l) :
    ∃ amounts : List Binary64, (∀ x ∈ amounts, x.isFinite = true)
      ∧ amounts.map toQuanta = l.leads.map worth
      ∧ l.totalValue = amounts.foldl (· + ·) (zero false) := by
  obtain ⟨amounts, hamounts, hl⟩ := Attempt.bind_eq_ok_iff.1 h
  cases hl
  refine ⟨amounts, fun x hx => ?_, ?_, rfl⟩
  · obtain ⟨lead, -, hlead⟩ := (Attempt.mem_each_iff hamounts).1 hx
    exact isFinite_of_amount hlead
  · have hquanta := congrArg (List.map fun x => (x.toOption.getD (zero false)).toQuanta)
      (Attempt.each_eq_ok_iff.1 hamounts)
    rw [List.map_map, List.map_map] at hquanta
    exact hquanta.symm

theorem total_of_sumsFit {l : Lane} {quanta : List Int} (h : lane ids leads status = .ok l)
    (hperm : (l.leads.map worth).Perm quanta) (hfit : SumsFit quanta) :
    l.totalValue = ofQuanta quanta.sum := by
  obtain ⟨amounts, hfinite, hworth, htotal⟩ := total_spec h
  rw [htotal]
  exact foldl_add_of_sumsFit hfit hfinite (hworth ▸ hperm)

theorem total_of_hasRoom {l : Lane} {quanta : List Int} {k : Nat}
    (h : lane ids leads status = .ok l) (hperm : (l.leads.map worth).Perm quanta)
    (hroom : HasRoom k quanta) :
    l.totalValue.isFinite = true
      ∧ 2 * (l.totalValue.toQuanta - quanta.sum).natAbs ≤ quanta.length * 2 ^ k := by
  obtain ⟨amounts, hfinite, hworth, htotal⟩ := total_spec h
  rw [htotal]
  exact foldl_add_of_hasRoom hroom hfinite (hworth ▸ hperm)

/-- **Totals that need no rounding do not depend on the order of the leads.** Let
the leads come in another order. A lane whose sums fit has the same total, the
double of the exact sum. Any other lane with room below the largest double has
finite totals that differ by at most a step for each of its leads. -/
theorem totals_of_perm (h : build (.list leads) (.list quotes) = .ok board)
    (hperm : leads'.Perm leads) :
    ∃ board', build (.list leads') (.list quotes) = .ok board'
      ∧ ∀ l ∈ board, ∀ l' ∈ board', l'.status = l.status →
        (SumsFit (l.leads.map worth) →
          l.totalValue = ofQuanta (l.leads.map worth).sum ∧ l.totalValue.isFinite = true
            ∧ l'.totalValue = l.totalValue)
        ∧ ∀ k, HasRoom k (l.leads.map worth) →
          l.totalValue.isFinite = true ∧ l'.totalValue.isFinite = true
            ∧ (l'.totalValue.toQuanta - l.totalValue.toQuanta).natAbs
              ≤ l.leads.length * 2 ^ k := by
  obtain ⟨board', h'⟩ := (exists_build_congr (fun _ => hperm.mem_iff)
    fun _ => Iff.rfl).2 ⟨board, h⟩
  obtain ⟨ids, hids, hlanes⟩ := build_list_eq_ok_iff.1 h
  obtain ⟨ids', hids', hlanes'⟩ := build_list_eq_ok_iff.1 h'
  refine ⟨board', h', fun l hl l' hl' hstatus => ?_⟩
  have hlane := lane_of_mem hlanes hl
  have hlane' := lane_of_mem hlanes' hl'
  rw [hstatus] at hlane'
  have hworth : (l'.leads.map worth).Perm (l.leads.map worth) :=
    (alike_of_perm hperm (isConverted_congr hids hids' fun _ => Iff.rfl) hlane hlane').leads.map _
  refine ⟨fun hfit => ?_, fun k hroom => ?_⟩
  · have htotal := total_of_sumsFit hlane (List.Perm.refl _) hfit
    have htotal' := total_of_sumsFit hlane' hworth hfit
    exact ⟨htotal, htotal ▸ hfit.total, htotal'.trans htotal.symm⟩
  · obtain ⟨hfinite, hnear⟩ := total_of_hasRoom hlane (List.Perm.refl _) hroom
    obtain ⟨hfinite', hnear'⟩ := total_of_hasRoom hlane' hworth hroom
    rw [List.length_map] at hnear hnear'
    exact ⟨hfinite, hfinite', by omega⟩

def priced (status : Text) (estimate : Value) : Value :=
  .object [("status", .text status), ("estimatedValue", estimate)]

/-- Whole amounts in one lane, two amounts in the next, and tenths in the last. -/
def pricedLeads : List Value :=
  [priced "New" (.int 900), priced "Lost" (.real (.ofRatio 1 10)), priced "New" (.text "12"),
    priced "Lost" (.real (.ofRatio 2 10)), priced "Contacted" (.real (.ofRatio 1 10)),
    priced "New" (.bool true), priced "Contacted" (.real (.ofRatio 7 10)),
    priced "Lost" (.real (.ofRatio 3 10))]

/-- What the leads in the lanes of `pricedLeads` are worth. -/
def pricedWorths : List (List Int) :=
  [[900 * unit, 12 * unit, unit], [(ofRatio 1 10).toQuanta, (ofRatio 7 10).toQuanta], [],
    [(ofRatio 1 10).toQuanta, (ofRatio 2 10).toQuanta, (ofRatio 3 10).toQuanta]]

/-- Backwards, the first two lanes have the same total, and the last one a total
that is off by no more than 3 * 2^-53. -/
theorem pricedLeads_reversed :
    ∃ board board', build (.list pricedLeads) (.list []) = .ok board
      ∧ build (.list pricedLeads.reverse) (.list []) = .ok board'
      ∧ board.map (fun l => l.leads.map worth) = pricedWorths
      ∧ ∀ l ∈ board, ∀ l' ∈ board', l'.status = l.status →
        (l.leads.map worth ≠ pricedWorths[3] → l'.totalValue = l.totalValue)
        ∧ (l.leads.map worth = pricedWorths[3] →
          (l'.totalValue.toQuanta - l.totalValue.toQuanta).natAbs ≤ 3 * 2 ^ 1021) := by
  have hlanes : (build (.list pricedLeads) (.list [])).toOption.map
      (List.map fun l => l.leads.map worth) = some pricedWorths := by decide +kernel
  obtain ⟨board, h, hboard⟩ := exists_build_of_map hlanes
  obtain ⟨board', h', hlanes'⟩ := totals_of_perm h (List.reverse_perm pricedLeads)
  have hwhole : SumsFit pricedWorths[0] :=
    sumsFit_of_dvd (k := 1074) (by decide) (by decide +kernel) (by decide +kernel)
  have hpair : SumsFit ([ofRatio 1 10, ofRatio 7 10].map toQuanta) :=
    sumsFit_of_length_le_two (Nat.le_refl 2) (by decide +kernel)
  have hnone : SumsFit (([] : List Binary64).map toQuanta) :=
    sumsFit_of_length_le_two (Nat.zero_le 2) (by decide +kernel)
  have hfits : ∀ worths ∈ pricedWorths, worths ≠ pricedWorths[3] → SumsFit worths :=
    List.forall_mem_cons.2 ⟨fun _ => hwhole, List.forall_mem_cons.2 ⟨fun _ => hpair,
      List.forall_mem_cons.2 ⟨fun _ => hnone, List.forall_mem_singleton.2 (absurd rfl)⟩⟩⟩
  have hroom : HasRoom 1021 pricedWorths[3] := by decide +kernel
  refine ⟨board, board', h, h', hboard, fun l hl l' hl' hstatus => ?_⟩
  obtain ⟨hexact, hdrift⟩ := hlanes' l hl l' hl' hstatus
  refine ⟨fun hne => ?_, fun hlast => ?_⟩
  · have hfit := hfits _ (hboard ▸ List.mem_map_of_mem hl) hne
    exact (hexact hfit).2.2
  · have hlength : l.leads.length = 3 := by
      rw [← List.length_map worth, hlast]
      rfl
    obtain ⟨-, -, hdrift⟩ := hdrift 1021 (hlast ▸ hroom)
    rwa [hlength] at hdrift

/-- Three leads of a tenth, two tenths and three tenths. -/
def tenths : List Value :=
  [priced "New" (.real (.ofRatio 1 10)), priced "New" (.real (.ofRatio 2 10)),
    priced "New" (.real (.ofRatio 3 10))]

/-- Only backwards do they come to six tenths. -/
theorem tenths_reversed :
    ∃ board board', build (.list tenths) (.list []) = .ok board
      ∧ build (.list tenths.reverse) (.list []) = .ok board'
      ∧ ∃ l ∈ board, ∃ l' ∈ board', l'.status = l.status ∧ l'.totalValue = .ofRatio 6 10
        ∧ l.totalValue ≠ .ofRatio 6 10 := by
  have hlanes : (build (.list tenths) (.list [])).toOption.map
      (List.map fun l => (l.status, decide (l.totalValue = .ofRatio 6 10)))
      = some [(("New" : Text), false), ("Contacted", false), ("Qualified", false),
          ("Lost", false)] := by decide +kernel
  have hlanes' : (build (.list tenths.reverse) (.list [])).toOption.map
      (List.map fun l => (l.status, decide (l.totalValue = .ofRatio 6 10)))
      = some [(("New" : Text), true), ("Contacted", false), ("Qualified", false),
          ("Lost", false)] := by decide +kernel
  obtain ⟨board, h, hboard⟩ := exists_build_of_map hlanes
  obtain ⟨board', h', hboard'⟩ := exists_build_of_map hlanes'
  obtain ⟨l, hl, hlane⟩ := List.mem_map.1 (hboard ▸ List.mem_cons_self)
  obtain ⟨l', hl', hlane'⟩ := List.mem_map.1 (hboard' ▸ List.mem_cons_self)
  obtain ⟨hstatus, htotal⟩ := Prod.mk.inj hlane
  obtain ⟨hstatus', htotal'⟩ := Prod.mk.inj hlane'
  exact ⟨board, board', h, h', l, hl, l', hl', hstatus'.trans hstatus.symm,
    of_decide_eq_true htotal', of_decide_eq_false htotal⟩

end Board

end Audience
