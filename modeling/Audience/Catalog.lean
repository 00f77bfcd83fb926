import Audience.Json.Reader
import Audience.Segment
import Audience.Text.Utf8

/-!
# The segment catalog

Saved segments are kept in one file: a list of them, or an object that holds
the list as its `data`. `Catalog.load` reads the file's octets. Without a
file, or with one that is not in the data format or holds no list, the
built-in segments stand in (`Catalog.builtIn`); two of them ask about dates
relative to the current time.
-/

namespace Audience

namespace Catalog

def savedCriterion (id field operator : String) (value : Value) (label : String) : Value :=
  .object [("id", .text id), ("field", .text field), ("operator", .text operator),
    ("value", value), ("label", .text label)]

def savedSegment (id name description : String) (criterion : Value) (tags : List String) : Value :=
  .object [("id", .text id), ("name", .text name), ("description", .text description),
    ("criteria", .list [criterion]), ("audienceCount", .int 0),
    ("sampleTags", .list (tags.map fun (t : String) => .text t))]

/-- The built-in segments as they would be saved now. -/
def builtIn (now : Instant) : Attempt (List Value) := do
  let halfYearAgo ← now.daysBefore 180
  let yearAgo ← now.daysBefore 365
  return [
    savedSegment "seg-high-value" "High Value Customers"
      "Customers with lifetime value over $5,000"
      (savedCriterion "c1" "lifetimeValue" "gte" (.int 5000) "Lifetime value >= $5,000")
      ["premium", "repeat"],
    savedSegment "seg-residential" "Residential Clients" "All residential property owners"
      (savedCriterion "c2" "clientType" "equals" (.text "residential")
        "Client type is Residential")
      ["homeowner"],
    savedSegment "seg-commercial" "Commercial Clients"
      "All commercial and property manager clients"
      (savedCriterion "c3" "clientType" "in"
        (.list [.text "commercial", .text "property_manager"])
        "Client type is Commercial or Property Manager")
      ["business", "contract"],
    savedSegment "seg-active" "Active Customers"
      "Customers who have had a job in the last 6 months"
      (savedCriterion "c4" "lastServiceDate" "after" (.text halfYearAgo.toText)
        "Last service within 6 months")
      ["active", "engaged"],
    savedSegment "seg-dormant" "Dormant Customers"
      "Customers with no activity in over a year"
      (savedCriterion "c5" "lastServiceDate" "before" (.text yearAgo.toText)
        "No service in 1+ year")
      ["win-back", "reactivation"]]

/-- The value that a file holds, if it is in the data format. -/
def decode (octets : List Nat) : Attempt (Option Value) :=
  match Utf8.decode octets with
  | none => .error .notUtf8
  | some t =>
    match Json.read t with
    | .ok v => .ok (some v)
    | .error .malformed => .ok none
    | .error (.numeralTooLong digits) => .error (.numeralTooLong digits)

/-- The list that a decoded file holds, on its own or as the `data` of an
object. An object without `data` holds an empty one. -/
def listed? : Value → Option (List Value)
  | .object fields => ((Fields.get? fields "data").getD (.list [])).items?
  | v => v.items?

/-- The entries of a catalog: those of its file, or the built-in ones. -/
def entries (file : Option (List Nat)) (now : Instant) : Attempt (List Value) := do
  let saved ← match file with
    | none => pure none
    | some octets => decode octets
  match saved.bind listed? with
  | some entries => return entries
  | none => builtIn now

/-- The segments of a catalog. Entries that are no objects are left out. -/
def load (file : Option (List Nat)) (now : Instant) : Attempt (List Segment) := do
  let entries ← entries file now
  Attempt.each Segment.ofValue (entries.filter fun v => v.fields?.isSome)

/-- The first segment with an id. The empty id names none. -/
def find (catalog : List Segment) (id : Value) : Option Segment :=
  if id.isTruthy then catalog.find? fun s => id.isText s.id else none

end Catalog

end Audience
