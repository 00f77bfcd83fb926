/-!
# Text as code points

Records, criteria and filters are compared by their text, and that text may
hold code points that no `Char` can (an unpaired surrogate survives the data
format). So a `Text` is a list of code points, each a natural number, and
this file has the small operations on it that carry no character table:
literals, occurrence, trimming and replacement. The tables stand beside it:
`Text.Blank`, `Text.Digit`, `Text.Lowercase`, `Text.Printable`.
-/

namespace Audience

/-- A sequence of Unicode code points, surrogates included. -/
abbrev Text := List Nat

abbrev code (c : Char) : Nat := c.toNat

/-- Half of a surrogate pair, on its own no character. -/
def isSurrogate (c : Nat) : Bool := 0xD800 ≤ c && c ≤ 0xDFFF

namespace Text

def ofString (s : String) : Text := s.toList.map Char.toNat

instance : Coe String Text := ⟨ofString⟩

/-- Whether the text begins with `start`. -/
def startsWith (t start : Text) : Bool := start.isPrefixOf t

/-- Whether `needle` occurs somewhere in the text. -/
def contains (t needle : Text) : Bool :=
  match t with
  | [] => needle.isEmpty
  | _ :: rest => startsWith t needle || contains rest needle

theorem startsWith_iff {t start : Text} : t.startsWith start = true ↔ start <+: t :=
  List.isPrefixOf_iff_prefix

theorem contains_iff {t needle : Text} : t.contains needle = true ↔ needle <:+: t := by
  induction t with
  | nil => rw [contains, List.isEmpty_iff, List.infix_nil]
  | cons c rest ih => rw [contains, Bool.or_eq_true, startsWith_iff, ih, List.infix_cons_iff]

/-- The text without the characters of a class at both of its ends. -/
def trimWhere (p : Nat → Bool) (t : Text) : Text :=
  ((t.dropWhile p).reverse.dropWhile p).reverse

/-- Every occurrence of one code point replaced by another. -/
def replace (t : Text) (old new : Nat) : Text :=
  t.map fun c => if c = old then new else c

/-- A digit of a number in a base of at most sixteen, in lower case. -/
def digit (d : Nat) : Nat := if d < 10 then 0x30 + d else 0x61 + (d - 10)

/-- The last `width` digits of a number in a base. -/
def padded (base : Nat) : Nat → Nat → Text
  | 0, _ => []
  | width + 1, n => padded base width (n / base) ++ [digit (n % base)]

def ofNat (n : Nat) : Text := (Nat.toDigits 10 n).map Char.toNat

/-- The decimal digits of an integer, after a minus sign when it is
negative. Their number is not limited here; more than `Numeral.maxDigits` of
them, which are never read and which a host may refuse to write, are out of
scope. -/
def ofInt (i : Int) : Text :=
  if i < 0 then code '-' :: ofNat i.natAbs else ofNat i.natAbs

theorem ofNat_ne_nil (n : Nat) : ofNat n ≠ [] := by
  rw [ofNat, ne_eq, List.map_eq_nil_iff, ← ne_eq]
  exact Nat.toDigits_ne_nil

theorem ofInt_ne_nil (i : Int) : ofInt i ≠ [] := by
  unfold ofInt
  split
  · exact List.cons_ne_nil _ _
  · exact ofNat_ne_nil _

/-- Texts joined with a separator between neighbours. -/
def joinWith (separator : Text) : List Text → Text
  | [] => []
  | [t] => t
  | t :: rest => t ++ separator ++ joinWith separator rest

end Text

end Audience
