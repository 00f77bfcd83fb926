import Audience.Value.Basic

/-!
# Failures

Values come in any shape, and most rules have an answer for each of them.
The cases without an answer are listed here, each by its cause, with the
wording that a dashboard's error list shows (`Failure.message`). An
operation that can meet one returns an `Attempt`; passes over lists of such
operations are in `Audience.Attempt`.
-/

namespace Audience

/-- Why an operation has no answer. -/
inductive Failure where
  /-- An integer amount beyond the largest double. -/
  | amountTooLarge
  /-- An infinite number where a count is due. -/
  | infiniteCount
  /-- A point in time outside the years 1 to 9999. -/
  | dateOutOfRange
  /-- A value other than an object where a member is looked up. -/
  | noLookup (shape : Shape)
  /-- A value other than a list where an item is appended. -/
  | noAppend (shape : Shape)
  /-- A value that has no items where items are due. -/
  | notIterable (shape : Shape)
  /-- A value that has no items where their number is due. -/
  | noLength (shape : Shape)
  /-- A list or an object where a key is due. -/
  | unhashable (shape : Shape)
  /-- An integer numeral with more digits than are read. -/
  | numeralTooLong (digits : Nat)
  /-- A file that is not well-formed UTF-8. -/
  | notUtf8
deriving DecidableEq, Repr

/-- The result of an operation that may fail. -/
abbrev Attempt := Except Failure

def Shape.quoted (s : Shape) : Text := code '\'' :: s.name ++ [code '\'']

def Failure.message : Failure → Text
  | .amountTooLarge => "int too large to convert to float"
  | .infiniteCount => "cannot convert float infinity to integer"
  | .dateOutOfRange => "date value out of range"
  | .noLookup s => s.quoted ++ Text.ofString " object has no attribute 'get'"
  | .noAppend s => s.quoted ++ Text.ofString " object has no attribute 'append'"
  | .notIterable s => s.quoted ++ Text.ofString " object is not iterable"
  | .noLength s => Text.ofString "object of type " ++ s.quoted ++ Text.ofString " has no len()"
  | .unhashable s => Text.ofString "unhashable type: " ++ s.quoted
  | .numeralTooLong digits =>
    Text.ofString "Exceeds the limit (4300 digits) for integer string conversion: value has "
      ++ Text.ofNat digits
      ++ Text.ofString " digits; use sys.set_int_max_str_digits() to increase the limit"
  | .notUtf8 => "the file is not UTF-8"

namespace Value

/-- The members of a value that has to be an object. -/
def lookup : Value → Attempt Fields
  | .object fields => .ok fields
  | v => .error (.noLookup v.shape)

/-- The items of a value that has to have some: a list's items, a text's
characters or an object's keys. -/
def elements : Value → Attempt (List Value)
  | .list items => .ok items
  | .text t => .ok (t.map fun c => .text [c])
  | .object fields => .ok (fields.map fun f => .text f.1)
  | v => .error (.notIterable v.shape)

/-- The items of a value, none if it does not count as given. -/
def elementsOrNone (v : Value) : Attempt (List Value) :=
  if v.isTruthy then v.elements else .ok []

/-- The number of items of a value that has to have some. -/
def length : Value → Attempt Nat
  | .list items => .ok items.length
  | .text t => .ok t.length
  | .object fields => .ok fields.length
  | v => .error (.noLength v.shape)

def asKey (v : Value) : Attempt Value :=
  if v.isContainer then .error (.unhashable v.shape) else .ok v

end Value

end Audience
