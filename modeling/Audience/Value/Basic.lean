import Audience.Number.Binary64
import Audience.Text.Basic

/-!
# Dynamic values

Records, saved criteria and sidebar settings come from outside and may hold
anything the data format can hold, so they stay `Value`s until a rule asks
for a particular shape. This file has the type, the views that ask
(`fields?`, `items?`, `isTruthy`), and `Fields`, an object's members in the
order in which they were first written. The failures that a missing shape
causes are in `Audience.Failure`, the text of a value in
`Audience.Value.Describe`.
-/

namespace Audience

/-- A value of the data format. Integers are unbounded and distinct from
reals. -/
inductive Value where
  | null
  | bool (b : Bool)
  | int (i : Int)
  | real (x : Binary64)
  | text (t : Text)
  | list (items : List Value)
  | object (fields : List (Text × Value))

/-- An object's members. -/
abbrev Fields := List (Text × Value)

/-- Which kind of value one is. -/
inductive Shape where
  | null | bool | int | real | text | list | object
deriving DecidableEq, Repr

def Shape.name : Shape → Text
  | .null => "NoneType"
  | .bool => "bool"
  | .int => "int"
  | .real => "float"
  | .text => "str"
  | .list => "list"
  | .object => "dict"

namespace Fields

def get? (fields : Fields) (key : Text) : Option Value :=
  match fields with
  | [] => none
  | (k, v) :: rest => if k = key then some v else get? rest key

/-- The member with a key; an absent one counts as null. -/
def get (fields : Fields) (key : Text) : Value := (get? fields key).getD .null

/-- The members with one of them set. A key that is already there keeps its
place and takes the new value. -/
def put (fields : Fields) (key : Text) (value : Value) : Fields :=
  match fields with
  | [] => [(key, value)]
  | (k, v) :: rest => if k = key then (k, value) :: rest else (k, v) :: put rest key value

theorem get?_put_self (fields : Fields) (key : Text) (value : Value) :
    get? (put fields key value) key = some value := by
  induction fields with
  | nil => simp [put, get?]
  | cons f rest ih =>
    obtain ⟨k, v⟩ := f
    by_cases h : k = key <;> simp [put, get?, h, ih]

theorem get?_put_of_ne {key other : Text} (h : key ≠ other) (fields : Fields) (value : Value) :
    get? (put fields key value) other = get? fields other := by
  induction fields with
  | nil => simp [put, get?, h]
  | cons f rest ih =>
    obtain ⟨k, v⟩ := f
    by_cases hk : k = key
    · subst hk; simp [put, get?, h]
    · rw [put, if_neg hk, get?, get?, ih]

theorem get_put_self (fields : Fields) (key : Text) (value : Value) :
    (put fields key value).get key = value := by
  rw [get, get?_put_self, Option.getD_some]

theorem get_put_of_ne {key other : Text} (h : key ≠ other) (fields : Fields) (value : Value) :
    (put fields key value).get other = get fields other := by
  rw [get, get?_put_of_ne h, get]

end Fields

namespace Value

def shape : Value → Shape
  | .null => .null
  | .bool _ => .bool
  | .int _ => .int
  | .real _ => .real
  | .text _ => .text
  | .list _ => .list
  | .object _ => .object

def fields? : Value → Option Fields
  | .object fields => some fields
  | _ => none

theorem fields?_eq_none_or (v : Value) :
    v.fields? = none ∨ ∃ fields : Fields, v = .object fields := by
  cases v with
  | object fields => exact .inr ⟨fields, rfl⟩
  | _ => exact .inl rfl

/-- The members of an object; anything else has none. -/
def fields (v : Value) : Fields := v.fields?.getD []

def items? : Value → Option (List Value)
  | .list items => some items
  | _ => none

/-- The items of a list; anything else has none. -/
def items (v : Value) : List Value := v.items?.getD []

@[simp] theorem items_list (items : List Value) : (list items).items = items := rfl

def text? : Value → Option Text
  | .text t => some t
  | _ => none

def isNull : Value → Bool
  | .null => true
  | _ => false

/-- Whether a value counts as given: not null, false, zero or empty. -/
def isTruthy : Value → Bool
  | .null => false
  | .bool b => b
  | .int i => i != 0
  | .real x => x.isNonzero
  | .text t => !t.isEmpty
  | .list items => !items.isEmpty
  | .object fields => !fields.isEmpty

/-- The value itself if it counts as given, and a default otherwise. -/
def orElse (v default : Value) : Value := if v.isTruthy then v else default

def isText (v : Value) (t : Text) : Bool :=
  match v with
  | .text u => u = t
  | _ => false

/-- A list or an object, which cannot serve as a key. -/
def isContainer : Value → Bool
  | .list _ | .object _ => true
  | _ => false

end Value

end Audience
