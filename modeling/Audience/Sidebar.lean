import Audience.Criterion

/-!
# Sidebar filters

Four filters can be typed into the dashboard's sidebar. Each is active only
if something was entered, and a context has to pass all active ones:

- the location box takes the beginning of a postal code, or a part of the
  name of the city or the state;
- the species box takes a part of a species' name;
- the service list takes one service, where `any` stands for all;
- the tag list takes tags, one of which must be there exactly.
-/

namespace Audience

/-- The active sidebar filters. -/
structure Sidebar where
  location : Option Text
  species : Option Text
  service : Option Text
  tags : List Text
deriving DecidableEq, Repr

namespace Sidebar

/-- The choice in the service list that stands for every service. -/
def anyService : Text := "any"

/-- The sidebar in which nothing has been entered, as the host keeps it. -/
def inactive : Fields :=
  [("location_text", .text []), ("service_filter", .text anyService), ("species_text", .text []),
    ("tag_filters", .list [])]

/-- The active filters among an object's members. A part of a name is kept
in lower case, and a service with blanks for underscores. -/
def ofFields (fields : Fields) : Sidebar :=
  let species := ((fields.get "species_text").given?.getD []).lower
  let service := (fields.get "service_filter").given?.getD anyService
  { location := (fields.get "location_text").given?
    species := if species.isEmpty then none else some species
    service := if service = anyService then none
      else some (service.replace (code '_') (code ' ')).lower
    tags := (fields.get "tag_filters").words }

/-- The active filters in a value. One that does not count as given has none;
any other has to be an object. -/
def ofValue (v : Value) : Attempt Sidebar :=
  if v.isTruthy then v.lookup.map ofFields else .ok (ofFields [])

theorem ofValue_object (fields : Fields) : ofValue (.object fields) = .ok (ofFields fields) := by
  cases fields <;> rfl

def isInactive (s : Sidebar) : Bool :=
  s.location.isNone && s.species.isNone && s.service.isNone && s.tags.isEmpty

/-- Whether an attribute's text contains a part of a name in lower case. -/
def mentions (v : Value) (part : Text) : Bool :=
  v.given?.any fun t => t.lower.contains part

/-- Whether a context lies at the location entered. -/
def isAt (ctx : Context) (location : Text) : Bool :=
  ctx.zip.given?.any (Text.startsWith · location)
    || mentions ctx.city location.lower || mentions ctx.state location.lower

/-- Whether one of a list's words contains a part of a name in lower case. -/
def anyMentions (v : Value) (part : Text) : Bool :=
  v.words.any fun t => t.lower.contains part

def accepts (s : Sidebar) (ctx : Context) : Bool :=
  s.location.all (isAt ctx) && s.species.all (anyMentions ctx.species)
    && s.service.all (anyMentions ctx.services)
    && (s.tags.isEmpty || ctx.tags.words.any s.tags.elem)

theorem accepts_of_isInactive {s : Sidebar} (h : s.isInactive = true) (ctx : Context) :
    s.accepts ctx = true := by
  simp only [isInactive, Bool.and_eq_true, Option.isNone_iff_eq_none] at h
  obtain ⟨⟨⟨hlocation, hspecies⟩, hservice⟩, htags⟩ := h
  simp [accepts, hlocation, hspecies, hservice, htags]

/-- Whether a value, taken as a context, passes every active filter. Without
one it is not looked at. -/
def acceptsValue (s : Sidebar) (v : Value) : Attempt Bool :=
  if s.isInactive then .ok true else (Context.ofValue v).map s.accepts

theorem acceptsValue_object (s : Sidebar) (ctx : Fields) :
    s.acceptsValue (.object ctx) = .ok (s.accepts (.ofFields ctx)) := by
  unfold acceptsValue
  split
  · rename_i h
    rw [accepts_of_isInactive h]
  · rw [Context.ofValue_object]
    rfl

/-- Whether a value, taken as a context, passes the filters in another one. -/
def admitsValue (filters v : Value) : Attempt Bool := do (← ofValue filters).acceptsValue v

end Sidebar

end Audience
