import Audience.Proofs.Totals

/-!
# Totals of whole amounts

A lane adds up what its leads are estimated at, and an estimate that is no finite
number counts as zero. Two things follow for every lane.

- The total is a number. One term of each sum is finite, so an infinity, once
  reached, stays, and no sum of opposite infinities is ever formed
  (`Binary64.foldl_add_ne_nan`).
- Where the finite estimates are whole numbers that come to at most 2^53 without
  their signs, every sum on the way is a whole number of at most 53 bits. Nothing
  is rounded, and the total is the sum of the integers (`Board.total_of_whole`).
-/

namespace Audience

namespace Binary64

variable {x : Binary64} {i : Int}

/-- A double that is an integer. -/
def IsInteger (x : Binary64) (i : Int) : Prop := x.isFinite = true ∧ x.toQuanta = i * unit

instance (x : Binary64) (i : Int) : Decidable (x.IsInteger i) :=
  inferInstanceAs (Decidable (_ ∧ _))

theorem isInteger_ofInt (h : i.natAbs ≤ 2 ^ 53) : (ofInt i).IsInteger i := by
  obtain ⟨hq, hi⟩ := ofInt_of_le h
  rw [hi, IsInteger, toQuanta_finite, signed_mul, signed_natAbs]
  exact ⟨rfl, rfl⟩

theorem IsInteger.truncate?_eq (h : x.IsInteger i) : x.truncate? = some i := by
  obtain ⟨hfinite, hquanta⟩ := h
  obtain ⟨s, q, hq, rfl⟩ := isFinite_iff.1 hfinite
  rw [toQuanta_finite] at hquanta
  rw [truncate?, hquanta, Int.mul_tdiv_cancel i (Int.natCast_ne_zero.2 unit_pos.ne')]

theorem add_ne_nan {y : Binary64} (hx : x ≠ .nan) (hy : y.isFinite = true) : x + y ≠ .nan := by
  obtain ⟨t, b, hb, rfl⟩ := isFinite_iff.1 hy
  cases x with
  | nan => exact absurd rfl hx
  | infinite s => exact Binary64.noConfusion
  | finite s a ha =>
      rw [add_finite]
      split
      · exact Binary64.noConfusion
      · unfold ofQuanta round
        split <;> exact Binary64.noConfusion

/-- Adding finite numbers to a number gives a number, by induction on what is
added. -/
theorem foldl_add_ne_nan {amounts : List Binary64} (hfinite : ∀ x ∈ amounts, x.isFinite = true)
    {acc : Binary64} (hacc : acc ≠ .nan) : amounts.foldl (· + ·) acc ≠ .nan := by
  induction amounts generalizing acc with
  | nil => exact hacc
  | cons x rest ih =>
      obtain ⟨hx, hrest⟩ := List.forall_mem_cons.1 hfinite
      exact ih hrest (add_ne_nan hacc hx)

/-- Integers that come to at most 2^53 without their signs can be added in any
order without rounding. -/
theorem sumsFit_of_whole {integers : List Int}
    (hle : (integers.map Int.natAbs).sum ≤ 2 ^ 53) : SumsFit (integers.map (· * (unit : Int))) := by
  obtain ⟨k, hk⟩ : ∃ k, 0 + k = 1074 := ⟨1074, rfl⟩
  have hunit : unit = 2 ^ k := (unit_eq_mul hk).trans (Nat.one_mul _)
  refine sumsFit_of_dvd (k := k) (by omega) ?_ ?_
  · intro j hj
    obtain ⟨i, -, rfl⟩ := List.mem_map.1 hj
    rw [hunit]
    exact ⟨i, by push_cast; exact Int.mul_comm _ _⟩
  · have hsum : ((integers.map (· * (unit : Int))).map Int.natAbs).sum
        = (integers.map Int.natAbs).sum * unit := by
      rw [← List.sum_map_mul_right, List.map_map]
      refine congrArg List.sum (List.map_congr_left fun i _ => ?_)
      rw [Function.comp_apply, Int.natAbs_mul, Int.natAbs_natCast]
    rw [hsum, Nat.add_comm, Nat.pow_add, ← hunit]
    exact Nat.mul_le_mul_right unit hle

end Binary64

/-- What stands for no finite number: a value that is not given, not numeric, or
read as not-a-number or an infinity. -/
def Value.IsNoAmount (v : Value) : Prop :=
  v.isTruthy = false ∨ v.isContainer = true
    ∨ (∃ t, v = .text t ∧ t.trim ≠ [] ∧ t.trim.toBinary64? = none)
    ∨ ∃ x, v.toAmount = .ok x ∧ x.isFinite = false

namespace Board

open Binary64

variable {leads : List Value} {quotes : Value} {board : List Lane} {lead : Value}

/-! ## Estimates -/

/-- The double that a lead is estimated at. -/
def estimate (lead : Value) : Attempt Binary64 :=
  ((lead.fields.get "estimatedValue").orElse (.int 0)).toAmount

/-- The integer part of what a lead is estimated at, zero where that is no finite
number. -/
def wholeEstimate (lead : Value) : Int := ((estimate lead).toOption.bind truncate?).getD 0

theorem wholeEstimate_of_integer {x : Binary64} {i : Int} (h : estimate lead = .ok x)
    (hi : x.IsInteger i) : wholeEstimate lead = i := by
  rw [wholeEstimate, h]
  change x.truncate?.getD 0 = i
  rw [hi.truncate?_eq, Option.getD_some]

theorem wholeEstimate_of_not_finite {x : Binary64} (h : estimate lead = .ok x)
    (hx : x.isFinite = false) : wholeEstimate lead = 0 := by
  rw [wholeEstimate, h]
  cases x with
  | finite s q hq => cases hx
  | _ => rfl

theorem wholeEstimate_of_isNoAmount (h : (lead.fields.get "estimatedValue").IsNoAmount) :
    wholeEstimate lead = 0 := by
  cases hgiven : (lead.fields.get "estimatedValue").isTruthy with
  | false =>
      have hinteger : (ofInt 0).IsInteger 0 := isInteger_ofInt (Nat.zero_le _)
      have hzero : estimate lead = .ok (.ofInt 0) := by
        rw [estimate, Value.orElse, hgiven, if_neg Bool.false_ne_true, Value.toAmount]
        exact if_pos hinteger.1
      exact wholeEstimate_of_integer hzero hinteger
  | true =>
      have hread : estimate lead = (lead.fields.get "estimatedValue").toAmount := by
        rw [estimate, Value.orElse, hgiven, if_pos rfl]
      rcases h with hmissing | hcontainer | htext | ⟨x, hx, hfinite⟩
      · rw [hgiven] at hmissing
        cases hmissing
      · rw [Value.toAmount_eq_nan (.inr (.inl hcontainer))] at hread
        exact wholeEstimate_of_not_finite hread rfl
      · rw [Value.toAmount_eq_nan (.inr (.inr htext))] at hread
        exact wholeEstimate_of_not_finite hread rfl
      · exact wholeEstimate_of_not_finite (hread.trans hx) hfinite

/-- What a lead adds to its lane's total is its estimate, if that is finite. -/
theorem worth_eq (lead : Value) :
    worth lead = ((estimate lead).toOption.getD (zero false)).toQuanta := by
  have hamount : amount lead
      = (estimate lead).map fun x => if x.isFinite then x else .zero false := rfl
  rw [worth, hamount]
  cases estimate lead with
  | error failure => rfl
  | ok x => cases x <;> rfl

theorem worth_of_whole (h : ∀ x, estimate lead = .ok x → x.isFinite = true → ∃ i, x.IsInteger i) :
    worth lead = wholeEstimate lead * unit := by
  rw [worth_eq]
  cases hlead : estimate lead with
  | error failure =>
      rw [wholeEstimate, hlead]
      exact (Int.zero_mul _).symm
  | ok x =>
      change x.toQuanta = _
      cases hx : x.isFinite with
      | false =>
          rw [wholeEstimate_of_not_finite hlead hx, Int.zero_mul]
          cases x with
          | finite s q hq => cases hx
          | _ => rfl
      | true =>
          obtain ⟨i, hi⟩ := h x hlead hx
          rw [wholeEstimate_of_integer hlead hi, hi.2]

/-! ## Totals -/

theorem total_ne_nan {ids : List Text} {status : Text} {l : Lane}
    (h : lane ids leads status = .ok l) : l.totalValue ≠ .nan := by
  obtain ⟨amounts, hfinite, -, htotal⟩ := total_spec h
  rw [htotal]
  exact foldl_add_ne_nan hfinite Binary64.noConfusion

theorem total_of_whole {ids : List Text} {status : Text} {l : Lane}
    (h : lane ids leads status = .ok l)
    (hwhole : ∀ lead ∈ l.leads, ∀ x, estimate lead = .ok x → x.isFinite = true →
      ∃ i, x.IsInteger i)
    (hle : ((l.leads.map wholeEstimate).map Int.natAbs).sum ≤ 2 ^ 53) :
    l.totalValue = .ofInt (l.leads.map wholeEstimate).sum := by
  have hworth : l.leads.map worth = (l.leads.map wholeEstimate).map (· * (unit : Int)) := by
    rw [List.map_map]
    exact List.map_congr_left fun lead hlead => worth_of_whole (hwhole lead hlead)
  rw [total_of_sumsFit h (hworth ▸ List.Perm.refl _) (sumsFit_of_whole hle),
    List.sum_map_mul_right, List.map_id', ofInt_eq_ofQuanta]

/-- **Totals of whole amounts are exact, and no total is not-a-number.** In a lane
whose finite estimates are integers that come to at most 2^53 without their signs,
the total is the sum of those integers. A lead counts for the integer that it is
estimated at, and for zero if its estimate is not given, not numeric, not-a-number
or infinite. -/
theorem totals_whole (h : build (.list leads) quotes = .ok board) :
    ∀ l ∈ board, l.totalValue ≠ .nan
      ∧ ((∀ lead ∈ l.leads, ∀ x, estimate lead = .ok x → x.isFinite = true →
            ∃ i, x.IsInteger i) →
          ((l.leads.map wholeEstimate).map Int.natAbs).sum ≤ 2 ^ 53 →
          l.totalValue = .ofInt (l.leads.map wholeEstimate).sum
            ∧ l.totalValue.IsInteger (l.leads.map wholeEstimate).sum)
      ∧ ∀ lead ∈ l.leads,
        (∀ x i, estimate lead = .ok x → x.IsInteger i → wholeEstimate lead = i)
          ∧ ((lead.fields.get "estimatedValue").IsNoAmount → wholeEstimate lead = 0) := by
  obtain ⟨ids, -, hlanes⟩ := build_list_eq_ok_iff.1 h
  intro l hl
  have hlane := lane_of_mem hlanes hl
  refine ⟨total_ne_nan hlane, fun hwhole hle => ?_, fun lead _ => ⟨?_, ?_⟩⟩
  · have htotal := total_of_whole hlane hwhole hle
    have hsum := isInteger_ofInt (Nat.le_trans (natAbs_sum_le _) hle)
    exact ⟨htotal, htotal ▸ hsum⟩
  · intro x i hx hi
    exact wholeEstimate_of_integer hx hi
  · intro hnone
    exact wholeEstimate_of_isNoAmount hnone

/-- A lane that comes to 2^53, of amounts of every shape, and with them estimates
that are no finite numbers. -/
def wholeLeads : List Value :=
  [priced "New" (.int (2 ^ 53 - 13)), priced "New" (.text " 12 "), priced "New" (.text "n/a"),
    priced "Lost" (.real (.infinite true)), priced "New" (.bool true),
    priced "New" (.real (.infinite false)), .object [("status", .text "New")],
    priced "New" (.list [.int 5]), priced "Lost" (.real (.ofInt (-7)))]

theorem wholeLeads_totals :
    ∃ board, build (.list wholeLeads) (.list []) = .ok board
      ∧ board.map (fun l => l.leads.map wholeEstimate)
        = [[2 ^ 53 - 13, 12, 0, 1, 0, 0, 0], [], [], [0, -7]]
      ∧ ∀ l ∈ board, l.totalValue ≠ .nan
        ∧ l.totalValue = .ofInt (l.leads.map wholeEstimate).sum := by
  have hwholes : (build (.list wholeLeads) (.list [])).toOption.map
      (List.map fun l => l.leads.map wholeEstimate)
      = some [[2 ^ 53 - 13, 12, 0, 1, 0, 0, 0], [], [], [0, -7]] := by decide +kernel
  have hintegers : ∀ lead ∈ wholeLeads, (estimate lead).toOption.all
      (fun x => !x.isFinite || x.IsInteger (wholeEstimate lead)) = true := by decide +kernel
  obtain ⟨board, h, hboard⟩ := exists_build_of_map hwholes
  refine ⟨board, h, hboard, fun l hl => ?_⟩
  obtain ⟨hnumber, hexact, -⟩ := totals_whole h l hl
  refine ⟨hnumber, (hexact (fun lead hlead x hx hfinite => ?_) ?_).1⟩
  · have hinteger := hintegers lead ((leads_sublist_of_build h l hl).subset hlead)
    rw [hx] at hinteger
    exact ⟨_, by simpa [Except.toOption, hfinite] using hinteger⟩
  · have hbounds : ∀ integers ∈ [[2 ^ 53 - 13, 12, 0, 1, 0, 0, 0], [], [], [0, -7]],
        (integers.map Int.natAbs).sum ≤ 2 ^ 53 := by decide
    refine hbounds _ ?_
    rw [← hboard]
    exact List.mem_map_of_mem hl

end Board

end Audience
