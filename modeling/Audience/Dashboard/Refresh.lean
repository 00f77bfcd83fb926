import Audience.Dashboard.Pass

/-!
# Refreshing a dashboard tab

`Dashboard.run` takes a state through the passes, the board pass only on the
tab of leads, and `Request.refresh` is the call that the host makes: it
starts from a fresh state in which the lists are lists, the filters are
never missing and there are no errors yet. A failure that stops a pass stops
the refresh.
-/

namespace Audience

namespace Dashboard

def Outcome.result (o : Outcome) : Attempt Dashboard :=
  match o.failure with
  | some failure => .error failure
  | none => .ok o.state

/-- Takes a state through the passes of its tab. Of the workflow that carries
them out it is assumed that it runs each pass once and in this order, hands the
state that a pass leaves on to the next as it is, and lets the failure that
stops a pass through. What is logged on the way is no part of the state, and
logging is assumed never to fail. -/
def run (clock : Instant) (d : Dashboard) : Attempt Dashboard := do
  let d ← (d.queuePass clock).result
  let d ← d.filterPass.result
  if d.showsLeads then d.boardPass.result else return d

end Dashboard

/-- What the host asks for: a tab's records, what the user has set, and the
lists that records are looked up in. -/
structure Request where
  kind : Value := .null
  records : Value := .null
  segment : Selection := .saved .null
  filters : Value := .null
  search : Value := .null
  queue : Value := .text (LeadQueue.name .all)
  clients : Value := .null
  quotes : Value := .null
  now : Value := .null

namespace Request

def start (r : Request) : Attempt Dashboard := do
  let records ← r.records.elementsOrNone
  let clients ← r.clients.elementsOrNone
  let quotes ← r.quotes.elementsOrNone
  return { kind := some r.kind, records := some (.list records)
           clients := some (.list clients), quotes := some (.list quotes)
           segment := some r.segment
           filters := some (r.filters.orElse (.object Sidebar.inactive))
           search := some r.search, queue := some r.queue, now := some r.now
           errors := some (.list []) }

/-- One refresh of a tab. -/
def refresh (clock : Instant) (r : Request) : Attempt Dashboard := do
  (← r.start).run clock

end Request

end Audience
