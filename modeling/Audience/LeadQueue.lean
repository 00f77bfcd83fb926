import Audience.Attempt
import Audience.Calendar.Timestamp
import Audience.Text.Lowercase
import Audience.Value.Amount

/-!
# Lead queues

The leads tab sorts leads into fixed queues by what they need next. A lead
is *stalled* when its follow-up is overdue, or nothing is scheduled and the
last contact is too long ago or never was; it *awaits a response* when it
was contacted and nothing is scheduled; and it is of *high value* from an
estimate of 10,000 on. Two queues never fail. Deciding whether a lead is
stalled reads dates, and deciding its value reads an amount, so these two
can.

`LeadQueue.counts` gives the number of leads in every queue, the badges of
the tab; it is decided lead by lead with the same rules that
`LeadQueue.holds` applies to one queue.
-/

namespace Audience

/-- The queues of the leads tab. -/
inductive LeadQueue where
  | all | stalled | awaitingResponse | highValue
deriving DecidableEq, Repr

namespace LeadQueue

def name : LeadQueue → Text
  | .all => "all"
  | .stalled => "stalled"
  | .awaitingResponse => "awaiting_response"
  | .highValue => "high_value"

/-- The queue that a value names. Anything else stands for all leads. -/
def ofValue (v : Value) : LeadQueue :=
  ([stalled, awaitingResponse, highValue].find? fun q => v.isText q.name).getD .all

/-! ## Rules -/

/-- The days after which a contact is too long ago. -/
def stalledAfterDays : Nat := 7

def contacted : Text := "Contacted"

/-- The estimate from which on a lead is of high value. -/
def highValueFrom : Binary64 := .ofInt 10000

/-- The time to measure from: the given one if it is a date, and otherwise
that of the clock. -/
def referenceTime (clock : Instant) (now : Value) : Attempt Instant :=
  now.toInstant?.map (·.getD clock)

/-- A follow-up is overdue, or nothing is scheduled and the last contact is
too long ago or never was. -/
def isStalled (now : Instant) (lead : Fields) : Attempt Bool := do
  let next := lead.get "nextFollowupDate"
  let last := lead.get "lastContactDate"
  let followup ← next.toInstant?
  let contact ← last.toInstant?
  let cutoff ← now.daysBefore stalledAfterDays
  return followup.any (·.before now)
    || (!next.isTruthy && (contact.any (·.before cutoff) || !last.isTruthy))

/-- The lead was contacted and nothing is scheduled. -/
def awaitsResponse (lead : Fields) : Bool :=
  (lead.get "status").isText contacted && !(lead.get "nextFollowupDate").isTruthy

def isHighValue (lead : Fields) : Attempt Bool :=
  ((lead.get "estimatedValue").orElse (.int 0)).toAmount.map highValueFrom.le

/-- Whether a lead is in a queue. -/
def holds (now : Instant) (lead : Fields) : LeadQueue → Attempt Bool
  | .all => .ok true
  | .stalled => isStalled now lead
  | .awaitingResponse => .ok (awaitsResponse lead)
  | .highValue => isHighValue lead

/-! ## Classification and counts -/

/-- The queues that a lead is in, apart from that of all leads. -/
structure Flags where
  stalled : Bool
  awaitingResponse : Bool
  highValue : Bool
deriving DecidableEq, Repr

def classify (now : Instant) (lead : Fields) : Attempt Flags := do
  let stalled ← isStalled now lead
  let highValue ← isHighValue lead
  return { stalled, awaitingResponse := awaitsResponse lead, highValue }

/-- The number of leads in every queue. -/
structure Counts where
  all : Nat
  stalled : Nat
  awaitingResponse : Nat
  highValue : Nat
deriving DecidableEq, Repr

def Counts.ofFlags (flags : List Flags) : Counts where
  all := flags.length
  stalled := flags.countP Flags.stalled
  awaitingResponse := flags.countP Flags.awaitingResponse
  highValue := flags.countP Flags.highValue

/-- The counts as an object. -/
def Counts.toValue (c : Counts) : Value :=
  .object [(name .all, .int c.all), (name .stalled, .int c.stalled),
    (name .awaitingResponse, .int c.awaitingResponse), (name .highValue, .int c.highValue)]

/-- The counts of the leads in a value. A lead that is no object has no
members. -/
def counts (now : Instant) (leads : Value) : Attempt Counts := do
  let leads ← leads.elementsOrNone
  return Counts.ofFlags (← Attempt.each (fun lead => classify now lead.fields) leads)

/-! ## With a time that is still a value

The time is read when a rule needs it, and then before anything else. -/

/-- Whether a value is a stalled lead; it has to be an object. -/
def isStalledAt (clock : Instant) (now lead : Value) : Attempt Bool := do
  let now ← referenceTime clock now
  isStalled now (← lead.lookup)

def classifyAt (clock : Instant) (now lead : Value) : Attempt Flags := do
  classify (← referenceTime clock now) lead.fields

/-- Whether a lead is in a queue. Only the stalled queue looks at the
time. -/
def holdsAt (clock : Instant) (now lead : Value) (queue : LeadQueue) : Attempt Bool :=
  match queue with
  | .stalled => do isStalled (← referenceTime clock now) lead.fields
  | queue => holds clock lead.fields queue

def countsAt (clock : Instant) (now leads : Value) : Attempt Counts := do
  counts (← referenceTime clock now) leads

end LeadQueue

end Audience
