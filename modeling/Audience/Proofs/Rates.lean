import Audience.Proofs.Partition
import Audience.Proofs.Rounding

/-!
# The share of converted leads

A lane's rate is meant to be a percentage rounded half up, which is
`Board.halfUp` in whole numbers. It is computed in doubles, with three roundings
before the floor. Their errors together are below 2^-45 of a percent
(`percentage_near`), and that leaves two questions:

- A share of at most 2^44 leads that is no tie is at least that far from the next
  one, so the floor is the right one (`percentage_of_not_tie`).
- At a tie the errors alone decide. A tie is one of the hundred shares
  `(2 * k - 1) / 200`, and equal shares are rounded alike however large the lane
  is (`percentage_congr`), so `percentage_of_tie` only has to look at those. Four
  of them come out one too low.
-/

namespace Audience

namespace Board

open Binary64

variable {part whole : Nat}

/-- A share in percent, rounded half up. -/
def halfUp (part whole : Nat) : Nat := (200 * part + whole) / (2 * whole)

/-- Half way between two percentages. -/
def IsTie (part whole : Nat) : Prop := 2 * whole ∣ 200 * part + whole

instance : Decidable (IsTie part whole) := inferInstanceAs (Decidable (_ ∣ _))

/-- The ties whose rate is one too low: 14.5, 28.5, 56.5 and 57.5 percent. -/
def FallsShort (part whole : Nat) : Prop :=
  IsTie part whole ∧ halfUp part whole ∈ [15, 29, 57, 58]

instance : Decidable (FallsShort part whole) := inferInstanceAs (Decidable (_ ∧ _))

/-! ## How near the computed percentage is -/

theorem toQuanta_hundred : (ofInt 100).isFinite = true ∧ (ofInt 100).toQuanta = 100 * unit := by
  decide +kernel

theorem toQuanta_half :
    (ofRatio 1 2).isFinite = true ∧ 2 * (ofRatio 1 2).toQuanta = unit := by
  decide +kernel

/-- A share is computed to within half of 2^-52. -/
theorem share_near {k : Nat} (hk : k + 52 = 1074) (hpos : 0 < whole) (hle : part ≤ whole) :
    (ofRatio part whole).isFinite = true
      ∧ 2 * (whole * (ofRatio part whole).toQuanta - part * unit : Int).natAbs ≤ whole * 2 ^ k := by
  have hshare : part * unit / whole < 2 ^ (k + 53) :=
    calc part * unit / whole ≤ unit := Nat.div_le_of_le_mul (Nat.mul_le_mul_right unit hle)
      _ = 2 ^ k * 2 ^ 52 := unit_eq_mul hk
      _ < 2 ^ k * 2 ^ 53 := Nat.mul_lt_mul_of_pos_left (by decide) (Nat.two_pow_pos k)
      _ = 2 ^ (k + 53) := (Nat.pow_add 2 k 53).symm
  have hnear := round_near false hpos hshare (by omega)
  rwa [signed, if_neg Bool.false_ne_true, Int.natCast_mul] at hnear

/-! The error of a percentage, in quanta: `e` quanta are 2^-52, the share is off by
half of that, and the product and the sum are off by half of `64 * e`. -/

section

variable {e u : Nat} {x y half z : Int}

theorem natAbs_le_of_share (hpos : 0 < whole) (hle : part ≤ whole)
    (hx : 2 * (whole * x - part * u : Int).natAbs ≤ whole * e) :
    2 * x.natAbs ≤ 2 * u + e := by
  refine Nat.le_of_mul_le_mul_left ?_ hpos
  have hpart : part * u ≤ whole * u := Nat.mul_le_mul_right u hle
  have hcast : ((part * u : Nat) : Int) = part * u := Int.natCast_mul part u
  calc whole * (2 * x.natAbs) = 2 * (whole * x : Int).natAbs := by
        rw [Int.natAbs_mul, Int.natAbs_natCast]
        ring
    _ ≤ whole * e + 2 * (part * u) := by omega
    _ ≤ whole * (2 * u + e) := by linarith

theorem natAbs_hundredfold_lt (he : 0 < e) (hu : u = 2 ^ 52 * e)
    (hx : 2 * x.natAbs ≤ 2 * u + e) : (100 * x).natAbs < 128 * u := by
  omega

theorem natAbs_add_half_lt (he : 0 < e) (hu : u = 2 ^ 52 * e) (hx : 2 * x.natAbs ≤ 2 * u + e)
    (hy : 2 * (y - 100 * x).natAbs ≤ 64 * e) (hhalf : 2 * half = u) :
    (y + half).natAbs < 128 * u := by
  omega

theorem error_lt (hpos : 0 < whole) (he : 0 < e)
    (hx : 2 * (whole * x - part * u : Int).natAbs ≤ whole * e)
    (hy : 2 * (y - 100 * x).natAbs ≤ 64 * e) (hhalf : 2 * half = u)
    (hz : 2 * (z - (y + half)).natAbs ≤ 64 * e) :
    (2 * whole * z - (200 * part + whole : Nat) * u).natAbs < whole * (256 * e) := by
  have herrors : 2 * whole * z - (200 * part + whole : Nat) * u
      = whole * (2 * (z - (y + half))) + whole * (2 * (y - 100 * x))
        + 100 * (2 * (whole * x - part * u)) := by
    rw [← hhalf]
    push_cast
    ring
  have hscaled : ∀ i : Int, 2 * i.natAbs ≤ 64 * e →
      (whole * (2 * i)).natAbs ≤ 64 * (whole * e) := by
    intro i hi
    rw [Int.natAbs_mul, Int.natAbs_mul, Int.natAbs_natCast, Nat.mul_left_comm 64]
    exact Nat.mul_le_mul_left whole hi
  have hsum := hscaled _ hz
  have hproduct := hscaled _ hy
  have hroom : 0 < whole * e := Nat.mul_pos hpos he
  rw [herrors, Nat.mul_left_comm]
  omega

end

/-- The percentage comes from a double that is off by less than 2^-45. -/
theorem percentage_near (hpos : 0 < whole) (hle : part ≤ whole) :
    ∃ (e : Nat) (z : Int), unit = 2 ^ 44 * e ∧ percentage part whole = z.fdiv unit
      ∧ (2 * whole * z - (200 * part + whole : Nat) * unit).natAbs < whole * e := by
  obtain ⟨k, hk⟩ : ∃ k, k + 52 = 1074 := ⟨1022, rfl⟩
  have hpow : 0 < 2 ^ k := Nat.two_pow_pos k
  have hunit : unit = 2 ^ 52 * 2 ^ k := (unit_eq_mul hk).trans (Nat.mul_comm _ _)
  have hstep : 2 ^ (k + 6) = 64 * 2 ^ k := by rw [Nat.pow_add, Nat.mul_comm]
  have hroom : 2 ^ (k + 6 + 53) = 128 * unit := by rw [hunit, Nat.pow_add, hstep]; ring
  obtain ⟨hhundred, hhundredQuanta⟩ := toQuanta_hundred
  obtain ⟨hhalf, hhalfQuanta⟩ := toQuanta_half
  obtain ⟨hx, hxnear⟩ := share_near hk hpos hle
  have hxle := natAbs_le_of_share hpos hle hxnear
  obtain ⟨hy, hynear⟩ := mul_int_near (k := k + 6) hx hhundred hhundredQuanta
    (Nat.lt_of_lt_of_eq (natAbs_hundredfold_lt hpow hunit hxle) hroom.symm) (by omega)
  rw [hstep] at hynear
  obtain ⟨hz, hznear⟩ := add_near (k := k + 6) hy hhalf
    (Nat.lt_of_lt_of_eq (natAbs_add_half_lt hpow hunit hxle hynear hhalfQuanta) hroom.symm)
    (by omega)
  rw [hstep] at hznear
  have hfloor : percentage part whole
      = (ofRatio part whole * ofInt 100 + ofRatio 1 2).toQuanta.fdiv unit := by
    rw [percentage, floor?_of_isFinite hz, Option.getD_some]
  have hsplit : unit = 2 ^ 44 * (256 * 2 ^ k) := by
    rw [hunit]
    ring
  exact ⟨_, _, hsplit, hfloor, error_lt hpos hpow hxnear hynear hhalfQuanta hznear⟩

/-! ## The floor -/

theorem fdiv_between {u e margin total : Nat} {a b z : Int} (hpos : 0 < whole) (hu : 0 < u)
    (hsplit : u = 2 ^ 44 * e) (hmargin : whole ≤ 2 ^ 44 * margin)
    (hz : (2 * whole * z - total * u).natAbs < whole * e)
    (ha : 2 * whole * a + margin ≤ total) (hb : total + margin ≤ 2 * whole * b) :
    a ≤ z.fdiv u ∧ z.fdiv u < b := by
  have hslack : whole * e ≤ margin * u :=
    calc whole * e ≤ 2 ^ 44 * margin * e := Nat.mul_le_mul_right e hmargin
      _ = margin * u := by
        rw [hsplit]
        ring
  have hcast : ((margin * u : Nat) : Int) = margin * u := Int.natCast_mul margin u
  have hlow := Int.mul_le_mul_of_nonneg_right ha (Int.natCast_nonneg u)
  have hhigh := Int.mul_le_mul_of_nonneg_right hb (Int.natCast_nonneg u)
  rw [Int.add_mul, Int.mul_assoc] at hlow hhigh
  have hdouble : (0 : Int) < 2 * whole := by omega
  have hau : a * u < z := Int.lt_of_mul_lt_mul_left (a := 2 * whole) (by omega) (by omega)
  have hbu : z < b * u := Int.lt_of_mul_lt_mul_left (a := 2 * whole) (by omega) (by omega)
  rw [Int.fdiv_eq_ediv_of_nonneg z (Int.natCast_nonneg u)]
  exact ⟨Int.le_ediv_of_mul_le (by omega) hau.le, Int.ediv_lt_of_lt_mul (by omega) hbu⟩

theorem percentage_between {margin : Nat} {a b : Int} (hpos : 0 < whole) (hle : part ≤ whole)
    (hmargin : whole ≤ 2 ^ 44 * margin)
    (ha : 2 * whole * a + margin ≤ (200 * part + whole : Nat))
    (hb : (200 * part + whole : Nat) + margin ≤ 2 * whole * b) :
    a ≤ percentage part whole ∧ percentage part whole < b := by
  obtain ⟨e, z, hsplit, hfloor, hz⟩ := percentage_near hpos hle
  rw [hfloor]
  exact fdiv_between hpos unit_pos hsplit hmargin hz ha hb

theorem halfUp_spec (part : Nat) (hpos : 0 < whole) :
    2 * whole * halfUp part whole ≤ 200 * part + whole
      ∧ 200 * part + whole < 2 * whole * halfUp part whole + 2 * whole := by
  have hdiv := Nat.div_add_mod (200 * part + whole) (2 * whole)
  have hmod := Nat.mod_lt (200 * part + whole) (Nat.mul_pos Nat.zero_lt_two hpos)
  rw [halfUp]
  omega

/-- However many leads there are, the rate is off by one at most. -/
theorem percentage_off_by_one (hpos : 0 < whole) (hle : part ≤ whole) :
    (percentage part whole - halfUp part whole).natAbs ≤ 1 := by
  obtain ⟨hlow, hhigh⟩ := halfUp_spec part hpos
  have hmargin : whole ≤ 2 ^ 44 * whole := Nat.le_mul_of_pos_left whole (by decide)
  obtain ⟨ha, hb⟩ := percentage_between (a := halfUp part whole - 1) (b := halfUp part whole + 2)
    hpos hle hmargin (by push_cast; linarith) (by push_cast; linarith)
  omega

theorem percentage_of_not_tie (hpos : 0 < whole) (hle : part ≤ whole) (hbound : whole ≤ 2 ^ 44)
    (htie : ¬ IsTie part whole) : percentage part whole = halfUp part whole := by
  obtain ⟨hlow, hhigh⟩ := halfUp_spec part hpos
  have hne : 2 * whole * halfUp part whole ≠ 200 * part + whole := fun heq => htie ⟨_, heq.symm⟩
  have hlt := Nat.lt_of_le_of_ne hlow hne
  obtain ⟨ha, hb⟩ := percentage_between (a := halfUp part whole) (b := halfUp part whole + 1)
    hpos hle (by rwa [Nat.mul_one]) (by exact_mod_cast hlt) (by exact_mod_cast hhigh)
  omega

/-! ## Ties -/

theorem percentage_congr {part' whole' : Nat} (hpos : 0 < whole) (hpos' : 0 < whole')
    (h : part * whole' = part' * whole) :
    percentage part whole = percentage part' whole' := by
  rw [percentage, percentage, ofRatio_congr hpos hpos' h]

/-- The hundred ties, each as an odd number of half percents. -/
theorem percentage_halves : ∀ k < 101, 0 < k →
    percentage (2 * k - 1) 200 = if k ∈ [15, 29, 57, 58] then (k : Int) - 1 else k := by
  decide +kernel

theorem percentage_of_tie (hpos : 0 < whole) (hle : part ≤ whole) (htie : IsTie part whole) :
    percentage part whole
      = if FallsShort part whole then (halfUp part whole : Int) - 1 else halfUp part whole := by
  obtain ⟨k, hk⟩ := id htie
  have hhalf : halfUp part whole = k := by
    rw [halfUp, hk, Nat.mul_div_cancel_left k (Nat.mul_pos Nat.zero_lt_two hpos)]
  have hkpos : 0 < k := by
    rcases Nat.eq_zero_or_pos k with rfl | hkpos
    · omega
    · exact hkpos
  have hkle : k < 101 := by
    refine Nat.lt_of_mul_lt_mul_left (a := 2 * whole) ?_
    omega
  have hshare : part * 200 = (2 * k - 1) * whole := by
    rw [Nat.sub_mul, Nat.mul_right_comm, ← hk]
    omega
  rw [percentage_congr hpos (by decide) hshare, percentage_halves k hkle hkpos]
  simp only [FallsShort, htie, hhalf, true_and]

/-! ## The rates of a board -/

variable {leads quotes : List Value} {board : List Lane}

/-- How many leads of a lane some quote converts. -/
def won (quotes : List Value) (l : Lane) : Nat :=
  l.leads.countP fun lead => ∃ quote ∈ quotes, Converts quote lead

theorem won_le (quotes : List Value) (l : Lane) : won quotes l ≤ l.leads.length :=
  List.countP_le_length

theorem rate_of_build (h : build (.list leads) (.list quotes) = .ok board) {l : Lane}
    (hl : l ∈ board) (hne : l.leads ≠ []) :
    l.conversionRate = percentage (won quotes l) l.leads.length := by
  obtain ⟨ids, -, hlanes⟩ := build_list_eq_ok_iff.1 h
  rw [(lane_spec (lane_of_mem hlanes hl)).2.2.2, (isPartition_of_build h).convertedCount_eq l hl,
    if_neg (by rwa [List.isEmpty_iff]), won]

/-- **The rate is the percentage rounded half up, but for four ties.** A lane
whose share is 14.5, 28.5, 56.5 or 57.5 percent gets the percentage below. Every
other tie is rounded up, in a lane of any size, and every share that is no tie is
rounded to the nearest percentage in a lane of at most 2^44 leads. Whatever the
lane, its rate is off by one at most. -/
theorem rates_half_up (h : build (.list leads) (.list quotes) = .ok board) :
    ∀ l ∈ board, l.leads ≠ [] →
      (FallsShort (won quotes l) l.leads.length →
        l.conversionRate = halfUp (won quotes l) l.leads.length - 1)
      ∧ (¬ FallsShort (won quotes l) l.leads.length →
          IsTie (won quotes l) l.leads.length ∨ l.leads.length ≤ 2 ^ 44 →
            l.conversionRate = halfUp (won quotes l) l.leads.length)
      ∧ (l.conversionRate - halfUp (won quotes l) l.leads.length).natAbs ≤ 1 := by
  intro l hl hne
  have hpos : 0 < l.leads.length := List.length_pos_iff.2 hne
  have hle := won_le quotes l
  rw [rate_of_build h hl hne]
  refine ⟨fun hshort => ?_, fun hshort hcase => ?_, percentage_off_by_one hpos hle⟩
  · rw [percentage_of_tie hpos hle hshort.1, if_pos hshort]
  · by_cases htie : IsTie (won quotes l) l.leads.length
    · rw [percentage_of_tie hpos hle htie, if_neg hshort]
    · exact percentage_of_not_tie hpos hle (hcase.resolve_left htie) htie

def newLeads (n : Nat) : List Value :=
  (List.range n).map fun i : Nat => .object [("id", .int i), ("status", .text "New")]

def acceptedQuotes (n : Nat) : List Value :=
  (List.range n).map fun i : Nat => .object [("leadId", .int i), ("status", .text "Accepted")]

/-- One of eight is 12.5 percent, which counts as 13. -/
theorem eighth_half_up :
    ∃ board, build (.list (newLeads 8)) (.list (acceptedQuotes 1)) = .ok board
      ∧ ∃ l ∈ board, l.leads.length = 8 ∧ won (acceptedQuotes 1) l = 1
        ∧ IsTie 1 8 ∧ ¬ FallsShort 1 8 ∧ l.conversionRate = 13 := by
  have hlanes : (build (.list (newLeads 8)) (.list (acceptedQuotes 1))).toOption.map
      (List.map fun l => (l.leads.length, won (acceptedQuotes 1) l))
      = some [(8, 1), (0, 0), (0, 0), (0, 0)] := by decide +kernel
  obtain ⟨board, h, hboard⟩ := exists_build_of_map hlanes
  obtain ⟨l, hl, hlane⟩ := List.mem_map.1 (hboard ▸ List.mem_cons_self)
  obtain ⟨hlength, hwon⟩ := Prod.mk.inj hlane
  have hne : l.leads ≠ [] := by
    intro hnil
    simp [hnil] at hlength
  obtain ⟨-, hrate, -⟩ := rates_half_up h l hl hne
  rw [hlength, hwon] at hrate
  exact ⟨board, h, l, hl, hlength, hwon, by decide, by decide,
    hrate (by decide) (.inl (by decide))⟩

/-- Twenty-three of forty are 57.5 percent, which counts as 57. -/
theorem forty_fall_short :
    ∃ board, build (.list (newLeads 40)) (.list (acceptedQuotes 23)) = .ok board
      ∧ ∃ l ∈ board, l.leads.length = 40 ∧ won (acceptedQuotes 23) l = 23
        ∧ l.conversionRate = 57 ∧ halfUp 23 40 = 58 := by
  have hlanes : (build (.list (newLeads 40)) (.list (acceptedQuotes 23))).toOption.map
      (List.map fun l => (l.leads.length, won (acceptedQuotes 23) l, l.conversionRate))
      = some [(40, 23, 57), (0, 0, 0), (0, 0, 0), (0, 0, 0)] := by decide +kernel
  obtain ⟨board, h, hboard⟩ := exists_build_of_map hlanes
  obtain ⟨l, hl, hlane⟩ := List.mem_map.1 (hboard ▸ List.mem_cons_self)
  obtain ⟨hlength, hrest⟩ := Prod.mk.inj hlane
  obtain ⟨hwon, hrate⟩ := Prod.mk.inj hrest
  exact ⟨board, h, l, hl, hlength, hwon, hrate, by decide⟩

end Board

end Audience
