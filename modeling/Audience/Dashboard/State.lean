import Audience.Filtering

/-!
# The state of a dashboard tab

A refresh works on one state that the host fills in and reads afterwards.
Any field may be missing, and any may hold anything; a missing field and
one that holds null are different. The first nine are what the host gives,
the others what the passes of `Audience.Dashboard.Pass` leave behind.
-/

namespace Audience

/-- The state that a refresh works on. -/
structure Dashboard where
  kind : Option Value := none
  records : Option Value := none
  clients : Option Value := none
  quotes : Option Value := none
  segment : Option Selection := none
  filters : Option Value := none
  search : Option Value := none
  queue : Option Value := none
  now : Option Value := none
  queued : Option Value := none
  queueCounts : Option Value := none
  filtered : Option Value := none
  board : Option Value := none
  errors : Option Value := none

namespace Dashboard

/-- The name of a field. -/
inductive Field where
  | kind | records | clients | quotes | segment | filters | search | queue | now
  | queued | queueCounts | filtered | board | errors
deriving DecidableEq, Repr

def Field.key : Field → Text
  | .kind => "kind"
  | .records => "records"
  | .clients => "clients"
  | .quotes => "quotes"
  | .segment => "segment"
  | .filters => "filters"
  | .search => "search"
  | .queue => "queue"
  | .now => "now"
  | .queued => "queued"
  | .queueCounts => "queue_counts"
  | .filtered => "filtered"
  | .board => "board"
  | .errors => "errors"

def Field.all : List Field :=
  [.kind, .records, .clients, .quotes, .segment, .filters, .search, .queue, .now, .queued,
    .queueCounts, .filtered, .board, .errors]

def set (d : Dashboard) (field : Field) (v : Option Value) : Dashboard :=
  match field with
  | .kind => { d with kind := v }
  | .records => { d with records := v }
  | .clients => { d with clients := v }
  | .quotes => { d with quotes := v }
  | .segment => { d with segment := v.map .saved }
  | .filters => { d with filters := v }
  | .search => { d with search := v }
  | .queue => { d with queue := v }
  | .now => { d with now := v }
  | .queued => { d with queued := v }
  | .queueCounts => { d with queueCounts := v }
  | .filtered => { d with filtered := v }
  | .board => { d with board := v }
  | .errors => { d with errors := v }

/-- The state with the field of a key set, or removed. A key that is not one
of a field changes nothing. -/
def assign (d : Dashboard) (key : Text) (v : Option Value) : Dashboard :=
  match Field.all.find? fun field => field.key = key with
  | some field => d.set field v
  | none => d

def ofFields (fields : Fields) : Dashboard :=
  fields.foldl (fun d f => d.assign f.1 (some f.2)) {}

/-- What the passes left behind, as an object's members. -/
def outcome (d : Dashboard) : Fields :=
  [(Field.queued, d.queued), (.queueCounts, d.queueCounts), (.filtered, d.filtered),
    (.board, d.board), (.errors, d.errors)].filterMap fun f => f.2.map (f.1.key, ·)

/-- Whether this is the tab of leads, which alone has queues and a board. -/
def showsLeads (d : Dashboard) : Bool := (d.kind.getD .null).isText Kind.lead.name

def controls (d : Dashboard) : Controls where
  segment := d.segment.getD (.saved .null)
  filters := d.filters.getD .null
  search := d.search.getD .null

end Dashboard

end Audience
