import Audience.Context
import Audience.Value.Describe

/-!
# From records to contexts

Three kinds of record can be filtered, and each says in its own words where
it is, what it is worth and when it was last touched. `Context.ofRecord`
reads all three. The type of client of a lead or a quote is that of the
client object it carries, or else that of the client with its id, which is
looked up in a `ClientIndex`.
-/

namespace Audience

/-! ## Kinds of record -/

/-- What a record is. -/
inductive Kind where
  | client | lead | quote
deriving DecidableEq, Repr

namespace Kind

def name : Kind → Text
  | .client => "client"
  | .lead => "lead"
  | .quote => "quote"

/-- The kind that a value names, if it does. -/
def named? (v : Value) : Option Kind := [client, lead, quote].find? fun k => v.isText k.name

/-- The kind that a value names, if it does; a value that cannot serve as a
key fails. -/
def ofValue (v : Value) : Attempt (Option Kind) := v.asKey.map named?

/-- The attributes that a projection shows. A record of no known kind has
only those that are never missing. -/
def attributes : Option Kind → List Attribute
  | some _ => Attribute.all
  | none => [.tags, .services, .species, .lifetimeValue]

end Kind

/-! ## Clients by id -/

/-- Client objects under the texts of their ids. -/
abbrev ClientIndex := Fields

namespace ClientIndex

/-- Adds one client. Only an object with an id counts, and a later client
replaces an earlier one with the same id text. -/
def add (index : ClientIndex) (client : Value) : ClientIndex :=
  match client with
  | .object fields =>
    let id := Fields.get fields "id"
    if id.isNull then index else Fields.put index id.describe client
  | _ => index

def ofList (clients : List Value) : ClientIndex := clients.foldl add []

def ofValue (clients : Value) : Attempt ClientIndex := clients.elementsOrNone.map ofList

/-- The members of the client with an id, none if there is no such client. -/
def find (index : ClientIndex) (id : Value) : Fields :=
  if id.isNull then [] else (Fields.get index id.describe).fields

end ClientIndex

/-! ## Projection -/

namespace Projection

/-- The names of a record's tags, which are texts or objects with a name. -/
def tagNames (tags : Value) : List Text :=
  tags.items.filterMap fun tag =>
    let name := match tag with
      | .object fields => Fields.get fields "name"
      | v => v
    if name.isTruthy then some name.describe else none

def texts (ts : List Text) : Value := .list (ts.map .text)

/-- A text as a list of one, anything else and the empty text as an empty
list. -/
def oneText : Value → List Text
  | .text t => if t.isEmpty then [] else [t]
  | _ => []

/-- The type of client that a lead or a quote belongs to. -/
def clientType (record : Fields) (index : ClientIndex) : Value :=
  let carried := (record.get "client").fields
  let client := if carried.isEmpty then index.find (record.get "clientId") else carried
  client.get "clientType"

def lineTexts (items : Value) : List Text :=
  items.items.filterMap fun item => (item.fields.get "description").text?

def client (record : Fields) : Context where
  zip := record.get "billingZip"
  city := record.get "billingCity"
  state := record.get "billingState"
  tags := texts (tagNames (record.get "tags"))
  services := texts (oneText (record.get "notes"))
  species := texts []
  status := record.get "status"
  clientType := record.get "clientType"
  lifetimeValue := (record.get "lifetimeValue").orElse (.int 0)
  lastInteraction := record.get "updatedAt"

/-- The context of a lead. Its description may speak of the work or of the
tree, so it stands for both. -/
def lead (record : Fields) (index : ClientIndex) : Context :=
  let details := (record.get "customerDetails").fields
  let description := texts (oneText (record.get "description"))
  { zip := details.get "zipCode"
    city := details.get "city"
    state := details.get "state"
    tags := texts (tagNames (record.get "tags"))
    services := description
    species := description
    status := record.get "status"
    clientType := clientType record index
    lifetimeValue := (record.get "estimatedValue").orElse (.int 0)
    lastInteraction := record.get "updatedAt" }

/-- The context of a quote. Quotes name no species; the street line of the
address stands in their place. -/
def quote (record : Fields) (index : ClientIndex) : Context :=
  let details := (record.get "customerDetails").fields
  { zip := details.get "zipCode"
    city := details.get "city"
    state := details.get "state"
    tags := texts (tagNames (record.get "tags"))
    services := texts (lineTexts (record.get "lineItems"))
    species := texts (oneText (details.get "addressLine1"))
    status := record.get "status"
    clientType := clientType record index
    lifetimeValue := (record.get "totalAmount").orElse (.int 0)
    lastInteraction := record.get "updatedAt" }

def blank : Context :=
  { Context.ofFields [] with
    tags := texts [], services := texts [], species := texts [], lifetimeValue := .int 0 }

end Projection

/-- The context of a record. A record that is no object has no members. -/
def Context.ofRecord (kind : Option Kind) (index : ClientIndex) (record : Value) : Context :=
  match kind with
  | some .client => Projection.client record.fields
  | some .lead => Projection.lead record.fields index
  | some .quote => Projection.quote record.fields index
  | none => Projection.blank

end Audience
