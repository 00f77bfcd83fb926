import Audience.Text.Basic

/-!
# UTF-8

A saved catalog is a file of octets, and reading it starts with its text.
`Utf8.decode` is strict: it takes the shortest form of each character only,
no surrogates and nothing beyond U+10FFFF. `Utf8.encode` writes the octets
that it reads (`Utf8.decode_encode`).
-/

namespace Audience

namespace Utf8

def isTail (b : Nat) : Bool := 0x80 ≤ b && b ≤ 0xBF

def encodeOne (c : Nat) : List Nat :=
  if c < 0x80 then [c]
  else if c < 0x800 then [0xC0 + c / 0x40, 0x80 + c % 0x40]
  else if c < 0x10000 then [0xE0 + c / 0x1000, 0x80 + c / 0x40 % 0x40, 0x80 + c % 0x40]
  else [0xF0 + c / 0x40000, 0x80 + c / 0x1000 % 0x40, 0x80 + c / 0x40 % 0x40, 0x80 + c % 0x40]

def encode (t : Text) : List Nat := t.flatMap encodeOne

/-- The text of a sequence of octets, if it is well formed. -/
def decode : List Nat → Option Text
  | [] => some []
  | a :: rest =>
    if a < 0x80 then (decode rest).map (a :: ·)
    else if a < 0xC2 then none
    else if a < 0xE0 then
      match rest with
      | b :: rest =>
        if isTail b then (decode rest).map (((a - 0xC0) * 0x40 + (b - 0x80)) :: ·) else none
      | _ => none
    else if a < 0xF0 then
      match rest with
      | b :: c :: rest =>
        let point := (a - 0xE0) * 0x1000 + (b - 0x80) * 0x40 + (c - 0x80)
        if isTail b && isTail c && 0x800 ≤ point && !isSurrogate point then
          (decode rest).map (point :: ·)
        else none
      | _ => none
    else if a < 0xF5 then
      match rest with
      | b :: c :: d :: rest =>
        let point := (a - 0xF0) * 0x40000 + (b - 0x80) * 0x1000 + (c - 0x80) * 0x40 + (d - 0x80)
        if isTail b && isTail c && isTail d && 0x10000 ≤ point && point ≤ 0x10FFFF then
          (decode rest).map (point :: ·)
        else none
      | _ => none
    else none

/-! ## Reading what was written -/

theorem isTail_iff {b : Nat} : isTail b = true ↔ 0x80 ≤ b ∧ b ≤ 0xBF := by
  simp [isTail]

/-- Reading takes back one written character at a time. -/
theorem decode_encodeOne_append {c : Nat} (hc : c ≤ 0x10FFFF) (hs : isSurrogate c = false)
    (rest : List Nat) :
    decode (encodeOne c ++ rest) = (decode rest).map (c :: ·) := by
  unfold encodeOne
  split
  · rename_i h
    rw [List.cons_append, List.nil_append, decode.eq_def]
    simp [h]
  · split
    · rename_i h₁ h₂
      have ht : isTail (0x80 + c % 0x40) = true := isTail_iff.2 (by omega)
      have hv : (0xC0 + c / 0x40 - 0xC0) * 0x40 + (0x80 + c % 0x40 - 0x80) = c := by omega
      rw [List.cons_append, List.cons_append, List.nil_append, decode, if_neg (by omega),
        if_neg (by omega), if_pos (by omega)]
      simp only [ht, if_true, hv]
    · split
      · rename_i h₁ h₂ h₃
        have hb : isTail (0x80 + c / 0x40 % 0x40) = true := isTail_iff.2 (by omega)
        have ht : isTail (0x80 + c % 0x40) = true := isTail_iff.2 (by omega)
        have hv : (0xE0 + c / 0x1000 - 0xE0) * 0x1000 + (0x80 + c / 0x40 % 0x40 - 0x80) * 0x40
            + (0x80 + c % 0x40 - 0x80) = c := by omega
        rw [List.cons_append, List.cons_append, List.cons_append, List.nil_append, decode,
          if_neg (by omega), if_neg (by omega), if_neg (by omega), if_pos (by omega)]
        simp only [hb, ht, hv, hs, show 0x800 ≤ c by omega, decide_true, Bool.not_false,
          Bool.and_self, if_true]
      · rename_i h₁ h₂ h₃
        have ha : isTail (0x80 + c / 0x1000 % 0x40) = true := isTail_iff.2 (by omega)
        have hb : isTail (0x80 + c / 0x40 % 0x40) = true := isTail_iff.2 (by omega)
        have ht : isTail (0x80 + c % 0x40) = true := isTail_iff.2 (by omega)
        have hv : (0xF0 + c / 0x40000 - 0xF0) * 0x40000
            + (0x80 + c / 0x1000 % 0x40 - 0x80) * 0x1000
            + (0x80 + c / 0x40 % 0x40 - 0x80) * 0x40 + (0x80 + c % 0x40 - 0x80) = c := by omega
        rw [List.cons_append, List.cons_append, List.cons_append, List.cons_append,
          List.nil_append, decode, if_neg (by omega), if_neg (by omega), if_neg (by omega),
          if_neg (by omega), if_pos (by omega)]
        simp only [ha, hb, ht, hv, hc, show 0x10000 ≤ c by omega, decide_true, Bool.and_self,
          if_true]

/-- Reading takes back a written text of proper characters. -/
theorem decode_encode {t : Text} (h : ∀ c ∈ t, c ≤ 0x10FFFF ∧ isSurrogate c = false) :
    decode (encode t) = some t := by
  induction t with
  | nil => rfl
  | cons c rest ih =>
    have hc := h c List.mem_cons_self
    rw [encode, List.flatMap_cons, decode_encodeOne_append hc.1 hc.2, ← encode,
      ih fun x hx => h x (List.mem_cons_of_mem c hx)]
    rfl

end Utf8

end Audience
