import Audience.Failure

/-!
# Evaluation contexts

Clients, leads and quotes keep the same facts under different names. A
`Context` is the uniform view that criteria and filters are written against:
ten attributes, each any value. `Audience.Projection` makes one from a
record; one that comes from outside is read by `Context.ofValue`.
-/

namespace Audience

/-- The attributes that criteria and filters look at. -/
structure Context where
  zip : Value
  city : Value
  state : Value
  tags : Value
  services : Value
  species : Value
  status : Value
  clientType : Value
  lifetimeValue : Value
  lastInteraction : Value

/-- The name of an attribute. -/
inductive Attribute where
  | zip | city | state | tags | services | species | status | clientType | lifetimeValue
  | lastInteraction
deriving DecidableEq, Repr

namespace Attribute

def key : Attribute → Text
  | .zip => "zip"
  | .city => "city"
  | .state => "state"
  | .tags => "tags"
  | .services => "services"
  | .species => "species"
  | .status => "status"
  | .clientType => "client_type"
  | .lifetimeValue => "lifetime_value"
  | .lastInteraction => "last_interaction"

def all : List Attribute :=
  [.zip, .city, .state, .tags, .services, .species, .status, .clientType, .lifetimeValue,
    .lastInteraction]

end Attribute

namespace Context

def get (ctx : Context) : Attribute → Value
  | .zip => ctx.zip
  | .city => ctx.city
  | .state => ctx.state
  | .tags => ctx.tags
  | .services => ctx.services
  | .species => ctx.species
  | .status => ctx.status
  | .clientType => ctx.clientType
  | .lifetimeValue => ctx.lifetimeValue
  | .lastInteraction => ctx.lastInteraction

def ofAttributes (value : Attribute → Value) : Context where
  zip := value .zip
  city := value .city
  state := value .state
  tags := value .tags
  services := value .services
  species := value .species
  status := value .status
  clientType := value .clientType
  lifetimeValue := value .lifetimeValue
  lastInteraction := value .lastInteraction

def ofFields (fields : Fields) : Context := ofAttributes fun a => fields.get a.key

/-- The context that a value describes. One that does not count as given is
empty; any other has to be an object. -/
def ofValue (v : Value) : Attempt Context :=
  if v.isTruthy then v.lookup.map ofFields else .ok (ofFields [])

/-- An object without members is the same context as one whose members are all
null. -/
theorem ofValue_object (fields : Fields) : ofValue (.object fields) = .ok (ofFields fields) := by
  cases fields <;> rfl

theorem get_ofFields (fields : Fields) (a : Attribute) :
    (ofFields fields).get a = fields.get a.key := by
  cases a <;> rfl

/-- Some of a context's attributes as an object's members. -/
def toFields (ctx : Context) (attributes : List Attribute) : Fields :=
  attributes.map fun a => (a.key, ctx.get a)

end Context

end Audience
