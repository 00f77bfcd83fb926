import Audience.Text.Basic
import Audience.Text.Casing
import Audience.Text.Lowercase.Table

/-!
# Lowercase text

Texts are compared without regard to case by comparing their lowercase
forms, so everything that matches by text goes through `Text.lower`. It is
the full mapping of the Unicode standard: most characters map one to one by
the table of runs, U+0130 becomes two characters, and a capital sigma
becomes the final form where a word ends with it.

Lowercasing is therefore not letter by letter: what a sigma becomes depends
on its neighbours on both sides (`Text.lowerFrom` carries the left one,
`Text.continuesWord` looks at the right).
-/

namespace Audience

namespace Lowercase

/-- The lowercase form of a character that stands on its own. -/
def ofCodePoint (c : Nat) : Text :=
  if c = 0x130 then [0x69, 0x307]
  else match runs.find? (·.holds c) with
    | some r => [((c : Int) + r.shift).toNat]
    | none => [c]

theorem ofCodePoint_ne_nil (c : Nat) : ofCodePoint c ≠ [] := by
  unfold ofCodePoint
  split
  · exact List.cons_ne_nil _ _
  · split <;> exact List.cons_ne_nil _ _

end Lowercase

namespace Text

/-- Whether a word goes on: the next character that is not looked through
has case. -/
def continuesWord : Text → Bool
  | [] => false
  | c :: rest => if isCaseIgnorable c then continuesWord rest else isCased c

/-- The lowercase form of a text that follows other text. `inWord` says
whether the last character before it that is not looked through has case. -/
def lowerFrom (inWord : Bool) : Text → Text
  | [] => []
  | c :: rest =>
    let here :=
      if c = 0x3A3 then [if inWord && !continuesWord rest then 0x3C2 else 0x3C3]
      else Lowercase.ofCodePoint c
    here ++ lowerFrom (if isCaseIgnorable c then inWord else isCased c) rest

def lower (t : Text) : Text := lowerFrom false t

theorem lowerFrom_ne_nil (inWord : Bool) {t : Text} (h : t ≠ []) : lowerFrom inWord t ≠ [] := by
  cases t with
  | nil => exact absurd rfl h
  | cons c rest =>
      rw [lowerFrom]
      refine List.append_ne_nil_of_left_ne_nil ?_ _
      split
      · exact List.cons_ne_nil _ _
      · exact Lowercase.ofCodePoint_ne_nil c

theorem lower_ne_nil {t : Text} (h : t ≠ []) : t.lower ≠ [] := lowerFrom_ne_nil false h

end Text

end Audience
