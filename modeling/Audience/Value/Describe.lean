import Audience.Number.Shortest
import Audience.Text.Quoted
import Audience.Value.Basic

/-!
# The text of a value

Criteria and filters compare texts, and every value has one. A text stands
for itself; an integer is its digits and a real its shortest text; a list or
an object shows its parts between brackets, the texts among them quoted.
`Value.literal` is the text of a value inside a container, `Value.describe`
that of a value on its own. They differ on texts only.
-/

namespace Audience

namespace Value

mutual

/-- The text of a value as a part of a list or an object. -/
def literal : Value → Text
  | .null => "None"
  | .bool b => if b then "True" else "False"
  | .int i => Text.ofInt i
  | .real x => x.toText
  | .text t => t.quoted
  | .list items => code '[' :: Text.joinWith ", " (literals items) ++ [code ']']
  | .object fields => code '\x7b' :: Text.joinWith ", " (members fields) ++ [code '\x7d']

def literals : List Value → List Text
  | [] => []
  | v :: rest => literal v :: literals rest

def members : List (Text × Value) → List Text
  | [] => []
  | (key, v) :: rest => (key.quoted ++ Text.ofString ": " ++ literal v) :: members rest

end

/-- The text of a value on its own. Neither the digits of an integer nor the
nesting of containers is limited here. Integers of more than `Numeral.maxDigits`
digits are out of scope: the reader of the data format yields none, and a host
may refuse to write them out. -/
def describe : Value → Text
  | .text t => t
  | v => v.literal

/-- What counts as given has a text that is not empty. -/
theorem describe_ne_nil {v : Value} (h : v.isTruthy = true) : v.describe ≠ [] := by
  cases v with
  | null => cases h
  | bool b => cases b <;> exact List.cons_ne_nil _ _
  | int i => exact Text.ofInt_ne_nil i
  | real x => exact x.toText_ne_nil
  | text t =>
      rintro rfl
      cases h
  | list items => exact List.cons_ne_nil _ _
  | object fields => exact List.cons_ne_nil _ _

end Value

end Audience
