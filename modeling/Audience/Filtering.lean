import Audience.Search
import Audience.Segment
import Audience.Sidebar

/-!
# The filter pipeline

What a dashboard tab shows is its records in their order, less those that
the selected segment, the sidebar or the search box exclude. The segment and
the sidebar are decided on a record's context (`Controls.admits`), the
search on the record itself. Records of no known kind are not filtered.
-/

namespace Audience

/-- What the user has set. -/
structure Controls where
  segment : Selection
  filters : Value
  search : Value

namespace Controls

/-- Whether a context belongs to the segment and passes the sidebar, which
is looked at only if it does. -/
def admits (segment : Option Segment) (filters : Value) (ctx : Context) : Attempt Bool := do
  if ← Segment.acceptedBy segment ctx then
    let sidebar ← Sidebar.ofValue filters
    return sidebar.accepts ctx
  else return false

end Controls

/-- The records of a kind that pass the controls. -/
def Controls.filter (controls : Controls) (kind records clients : Value) :
    Attempt (List Value) := do
  let records ← records.elementsOrNone
  match ← Kind.ofValue kind with
  | none => return records
  | some kind =>
    let index ← ClientIndex.ofValue clients
    let segment ← controls.segment.resolve
    let admitted ← Attempt.keep
      (fun record =>
        Controls.admits segment controls.filters (Context.ofRecord (some kind) index record))
      records
    return admitted.filter (Search.finds (some kind) controls.search)

end Audience
