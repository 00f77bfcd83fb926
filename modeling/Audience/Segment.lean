import Audience.Attempt
import Audience.Criterion

/-!
# Segments

A segment is a saved audience: a record belongs to it if its context
satisfies every criterion. `Segment.ofValue` reads a saved one and
`Segment.accepts` decides membership, in the order of the criteria and only
as far as the first that is not satisfied.

The host hands a segment over either as it was saved or as it was read
before; that is a `Selection`, and null selects no segment, which accepts
every record.
-/

namespace Audience

/-- A saved audience. -/
structure Segment where
  id : Text
  name : Text
  description : Value
  criteria : List Criterion
  audienceCount : Int
  sampleTags : List Value

namespace Segment

/-- The segment without a name that has no criteria. -/
def empty : Segment :=
  { id := [], name := [], description := .null, criteria := [], audienceCount := 0
    sampleTags := [] }

/-- The segment that a value describes. One that is no object is empty, and
criteria that are no list are none. -/
def ofValue : Value → Attempt Segment
  | .object fields => do
    let audienceCount ← (Fields.get fields "audienceCount").toCount
    let criteria ← Attempt.each Criterion.ofValue (Fields.get fields "criteria").items
    let sampleTags ← (Fields.get fields "sampleTags").elementsOrNone
    return { id := Criterion.memberText fields "id", name := Criterion.memberText fields "name"
             description := Fields.get fields "description", criteria, audienceCount
             sampleTags }
  | _ => .ok empty

def accepts (s : Segment) (ctx : Context) : Attempt Bool :=
  Attempt.all (fun c => c.rule.holds ctx) s.criteria

/-- Whether a value, taken as a context, satisfies every criterion. -/
def acceptsValue (s : Segment) (v : Value) : Attempt Bool :=
  Attempt.all (fun c => c.rule.holdsFor v) s.criteria

end Segment

/-- A segment as the host hands it over: as it was saved, or read already. -/
inductive Selection where
  | saved (v : Value)
  | read (s : Segment)

namespace Selection

def resolve : Selection → Attempt (Option Segment)
  | .saved .null => .ok none
  | .saved v => (Segment.ofValue v).map some
  | .read s => .ok (some s)

end Selection

/-- Whether a context belongs to the selected segment. -/
def Segment.acceptedBy (segment : Option Segment) (ctx : Context) : Attempt Bool :=
  match segment with
  | some s => s.accepts ctx
  | none => .ok true

end Audience
