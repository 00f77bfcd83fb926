import Audience.Projection
import Audience.Text.Lowercase

/-!
# Search

The search box looks for a text in the fields of a record that the dashboard
displays, without regard to case. It works on the record itself and not on
its context.
-/

namespace Audience

namespace Search

/-- The displayed fields of a record. -/
def displayed (kind : Option Kind) (record : Fields) : List Value :=
  match kind with
  | some .client =>
    [record.get "companyName", record.get "firstName", record.get "lastName",
      record.get "primaryEmail", record.get "primaryPhone"]
  | some .lead =>
    [(record.get "customer").fields.get "name", record.get "source", record.get "status"]
  | some .quote => [record.get "quoteNumber", record.get "customerName", record.get "status"]
  | none => []

/-- Whether a record shows the term searched for. Every record does when no
term is given; otherwise only objects do, in a field that is a text. -/
def finds (kind : Option Kind) (term record : Value) : Bool :=
  match term.isTruthy, record with
  | false, _ => true
  | true, .object fields =>
    (displayed kind fields).any fun v =>
      v.text?.any fun t => t.lower.contains term.describe.lower
  | true, _ => false

end Search

end Audience
