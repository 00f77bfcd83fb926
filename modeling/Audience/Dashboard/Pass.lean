import Audience.Board
import Audience.Dashboard.State
import Audience.LeadQueue

/-!
# The passes of a refresh

Three passes fill in a dashboard's state, each from what the earlier ones
left: the queue pass keeps the leads of one queue and counts all of them,
the filter pass applies the user's controls, and the board pass sorts the
filtered leads into lanes.

A pass that meets a failure in its own work does not stop the refresh: it
adds a message to the errors, leaves a harmless result and ends well
(`Dashboard.fallBack`). What a pass needs before its work starts, namely a
time to measure from and the number of its records, is outside this
protection, and so is a list of errors that is no list. These failures stop
the pass, and an `Outcome` says so beside the state as it then is.
-/

namespace Audience

namespace Dashboard

/-- The state after a pass, and the failure that stopped the pass if one
did. -/
structure Outcome where
  state : Dashboard
  failure : Option Failure

/-- The outcome of a pass that was not stopped. -/
def Outcome.ended (d : Dashboard) : Outcome := ⟨d, none⟩

def Outcome.stopped (d : Dashboard) (failure : Failure) : Outcome := ⟨d, some failure⟩

/-- Adds the message about a failure to the errors, then settles for a
result. -/
def fallBack (d : Dashboard) (pass : Text) (failure : Failure)
    (settle : Dashboard → Dashboard) : Outcome :=
  match d.errors.getD (.list []) with
  | .list errors =>
    .ended (settle { d with errors := some (.list (errors ++ [.text (pass ++ failure.message)])) })
  | v => .stopped d (.noAppend v.shape)

/-! ## The queue pass -/

/-- Counts the leads of every queue, then keeps those of the selected one.
On failure all records are kept. -/
def sortLeads (now : Instant) (records : Value) (d : Dashboard) : Outcome :=
  let settle := fun d : Dashboard => { d with queued := some records }
  match LeadQueue.counts now records with
  | .error failure => d.fallBack "Queue pass failed: " failure settle
  | .ok counts =>
    let d := { d with queueCounts := some counts.toValue }
    let queue := LeadQueue.ofValue (d.queue.getD .null)
    match records.elements.bind (Attempt.keep fun lead => queue.holds now lead.fields) with
    | .error failure => d.fallBack "Queue pass failed: " failure settle
    | .ok kept => .ended { d with queued := some (.list kept) }

/-- Keeps the leads of the selected queue; on another tab all records. -/
def queuePass (clock : Instant) (d : Dashboard) : Outcome :=
  let records := d.records.getD (.list [])
  if d.showsLeads then
    match LeadQueue.referenceTime clock (d.now.getD .null) with
    | .error failure => .stopped d failure
    | .ok now =>
      match records.length with
      | .error failure => .stopped d failure
      | .ok _ => d.sortLeads now records
  else .ended { d with queued := some records }

/-! ## The filter pass -/

/-- Applies the controls to the queued records, or to all records when there
was no queue pass. On failure nothing is shown. -/
def filterPass (d : Dashboard) : Outcome :=
  let kind := d.kind.getD (.text Kind.client.name)
  let source := d.queued.getD (d.records.getD (.list []))
  match source.length with
  | .error failure => .stopped d failure
  | .ok _ =>
    match d.controls.filter kind source (d.clients.getD .null) with
    | .error failure =>
      d.fallBack "Filter pass failed: " failure fun d => { d with filtered := some (.list []) }
    | .ok filtered => .ended { d with filtered := some (.list filtered) }

/-! ## The board pass -/

def lanes (board : List Lane) : Value := .list (board.map Lane.toValue)

/-- Builds the board of the filtered leads. On failure its lanes are
empty. -/
def boardPass (d : Dashboard) : Outcome :=
  let leads := d.filtered.getD (.list [])
  match leads.length with
  | .error failure => .stopped d failure
  | .ok _ =>
    match Board.build leads (d.quotes.getD (.list [])) with
    | .error failure =>
      d.fallBack "Board aggregation failed: " failure fun d =>
        { d with board := some (lanes Board.empty) }
    | .ok board => .ended { d with board := some (lanes board) }

end Dashboard

end Audience
