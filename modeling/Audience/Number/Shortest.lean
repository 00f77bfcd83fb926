import Audience.Number.Binary64
import Audience.Text.Basic

/-!
# The shortest text of a double

A double is written with the fewest digits that read back as the same
double, and among those with the digits nearest to it. Everything is decided
in exact arithmetic: the numbers that round to a double form an interval
around it (`Shortest.Interval`), and for 1, 2, … 17 digits the two
neighbours of the double on that decimal grid are tried (`Shortest.onGrid?`).

`Binary64.toText` then lays the digits out: positionally, with at least one
place, from 0.0001 up to below 10^16, and with an exponent of at least two
digits outside.
-/

namespace Audience

namespace Shortest

/-- The numbers that round to a double, in quarters of a quantum: those
strictly between `low` and `high`, and the two ends as well when `closed`.
The double itself is at `centre`. -/
structure Interval where
  low : Nat
  centre : Nat
  high : Nat
  closed : Bool

/-- The interval around a non-zero number of quanta. Below a power of two
the doubles are twice as dense as above it. -/
def Interval.around (q : Nat) : Interval :=
  let step := Quanta.step q
  let below := if q = Nat.pow 2 q.log2 ∧ 1 < step then step else 2 * step
  { low := 4 * q - below, centre := 4 * q, high := 4 * q + 2 * step
    closed := q / step % 2 = 0 }

/-- Quarters of a quantum in one unit. -/
def quarters : Nat := 4 * Binary64.unit

/-- Whether `n` quarters are less than `10 ^ k` units. -/
def belowPower (n : Nat) (k : Int) : Bool :=
  n * Nat.pow 10 (-k).toNat < quarters * Nat.pow 10 k.toNat

/-- The place of the decimal point: the least `k` such that a non-zero
number of quanta is less than `10 ^ k` units. -/
def point (q : Nat) : Int :=
  let k := Int.fdiv (((q.log2 : Int) - 1074) * 30103) 100000
  if belowPower (4 * q) k then k
  else if belowPower (4 * q) (k + 1) then k + 1
  else k + 2

/-- The whole multiple of `10 ^ exponent` nearest to the centre among those
in the interval, a tie going to the even one. -/
def onGrid? (i : Interval) (exponent : Int) : Option Nat :=
  let up := Nat.pow 10 (-exponent).toNat
  let grid := quarters * Nat.pow 10 exponent.toNat
  let inside := fun m : Nat =>
    let x := m * grid
    (i.low * up < x && x < i.high * up) || (i.closed && (x == i.low * up || x == i.high * up))
  let m := i.centre * up / grid
  let nearest := roundHalfEven (i.centre * up) grid
  match inside m, inside (m + 1) with
  | true, true => some nearest
  | true, false => some m
  | false, true => some (m + 1)
  | false, false => none

/-- The digits of a non-zero number of quanta and the place of its point: it
reads `0.d₁d₂… · 10 ^ point`. -/
def digits (q : Nat) : Text × Int :=
  let k := point q
  let i := Interval.around q
  let found := (List.range 17).findSome? fun (n : Nat) =>
    (onGrid? i (k - (n + 1))).map fun m => (Text.ofNat m, n + 1)
  match found with
  | some (ds, n) =>
    if ds.length = n then (ds, k) else (ds.take 1, k + 1)
  | none => ([], k)

end Shortest

namespace Binary64

/-- An exponent, with its sign and at least two digits. -/
def exponentText (e : Int) : Text :=
  let magnitude := Text.ofNat e.natAbs
  (if e < 0 then code '-' else code '+')
    :: (if magnitude.length < 2 then code '0' :: magnitude else magnitude)

/-- Digits laid out around the place of the decimal point. -/
def layout (ds : Text) (point : Int) : Text :=
  if -4 < point ∧ point ≤ 16 then
    if point ≤ 0 then
      Text.ofString "0." ++ List.replicate (-point).toNat (code '0') ++ ds
    else if ds.length ≤ point.toNat then
      ds ++ List.replicate (point.toNat - ds.length) (code '0') ++ Text.ofString ".0"
    else ds.take point.toNat ++ code '.' :: ds.drop point.toNat
  else
    ds.take 1 ++ (if ds.length ≤ 1 then [] else code '.' :: ds.drop 1)
      ++ code 'e' :: exponentText (point - 1)

/-- The shortest text that reads back as the double. -/
def toText : Binary64 → Text
  | .nan => Text.ofString "nan"
  | .infinite negative => if negative then Text.ofString "-inf" else Text.ofString "inf"
  | .finite negative q _ =>
    let magnitude :=
      if q = 0 then Text.ofString "0.0"
      else
        let (ds, point) := Shortest.digits q
        layout ds point
    if negative then code '-' :: magnitude else magnitude

theorem layout_ne_nil (ds : Text) (point : Int) : layout ds point ≠ [] := by
  unfold layout
  split
  · split
    · simp [Text.ofString]
    · split <;> simp [Text.ofString]
  · simp

theorem toText_ne_nil (x : Binary64) : x.toText ≠ [] := by
  cases x with
  | nan => exact List.cons_ne_nil _ _
  | infinite negative => cases negative <;> exact List.cons_ne_nil _ _
  | finite negative q _ =>
      cases negative with
      | true => exact List.cons_ne_nil _ _
      | false =>
          rw [toText, if_neg Bool.false_ne_true]
          split
          · exact List.cons_ne_nil _ _
          · cases Shortest.digits q with
            | mk ds point => exact layout_ne_nil ds point

end Binary64

end Audience
