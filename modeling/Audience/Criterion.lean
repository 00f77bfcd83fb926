import Audience.Calendar.Timestamp
import Audience.Context
import Audience.Text.Lowercase
import Audience.Value.Amount
import Audience.Value.Describe

/-!
# Criteria

A saved segment is a list of criteria, and each is a rule about one
attribute. Criteria are kept as loose objects; `Criterion.ofValue` turns one
into its `Rule`, of which there are ten kinds, and `Rule.holds` decides a
rule on a context.

A criterion about an attribute that is not known is kept as `Rule.unknown`,
which every context satisfies: a segment saved by a newer program must not
hide records. Texts are compared in lower case, except the type of client.
-/

namespace Audience

/-- The attributes that hold a list of words. -/
inductive Trait where
  | tag | service | species
deriving DecidableEq, Repr

namespace Trait

def name : Trait → Text
  | .tag => "tag"
  | .service => "service"
  | .species => "species"

def listedIn : Trait → Attribute
  | .tag => .tags
  | .service => .services
  | .species => .species

end Trait

/-- What a criterion asks of a context. A missing text or date cannot be
satisfied. -/
inductive Rule where
  /-- The postal code begins with a text. -/
  | zip (start : Option Text)
  /-- The city contains a text. -/
  | city (fragment : Option Text)
  /-- The state is a text. -/
  | state (name : Option Text)
  /-- One of the words of a trait is among the given ones. -/
  | membership (trait : Trait) (oneOf : List Text)
  /-- The status is among the given ones. -/
  | status (oneOf : List Text)
  /-- The type of client is among the given ones. -/
  | clientType (oneOf : List Text)
  /-- The lifetime value lies between two bounds, both included. -/
  | lifetimeRange (minimum maximum : Binary64)
  /-- The lifetime value is at least a bound. -/
  | lifetimeMinimum (minimum : Binary64)
  /-- The last interaction was not before a date. -/
  | lastInteraction (since : Option Instant)
  /-- Nothing, about an attribute that is not known. -/
  | unknown (field : Text)
deriving DecidableEq

/-- A saved criterion: its rule, and what else was saved with it. -/
structure Criterion where
  id : Text
  field : Text
  rule : Rule
  label : Value
  operator : Value

/-! ## Reading criteria -/

namespace Rule

/-- The text to compare with; null and containers have none. -/
def wantedText (v : Value) : Option Text :=
  if v.isNull || v.isContainer then none else some v.describe

/-- The texts to choose from: a list's items that are not null, or a single
value. -/
def choices : Value → List Text
  | .list items => (items.filter fun v => !v.isNull).map Value.describe
  | .null | .object _ => []
  | v => [v.describe]

def bound (v : Value) (default : Binary64) : Attempt Binary64 :=
  if v.isNull then .ok default else v.toAmount

/-- The rule about the lifetime value: an object gives two bounds, anything
else the lower one. -/
def ofLifetime (v : Value) : Attempt Rule :=
  match v with
  | .object fields => do
    let minimum ← bound (Fields.get fields "min") (.infinite true)
    let maximum ← bound (Fields.get fields "max") (.infinite false)
    return .lifetimeRange minimum maximum
  | v => v.toAmount.map .lifetimeMinimum

/-- The readers of rules, by the word for the attribute. -/
def readers : List (Text × (Value → Attempt Rule)) :=
  [("zip", fun v => .ok (.zip (wantedText v))),
    ("city", fun v => .ok (.city (wantedText v))),
    ("state", fun v => .ok (.state (wantedText v))),
    (Trait.tag.name, fun v => .ok (.membership .tag (choices v))),
    (Trait.service.name, fun v => .ok (.membership .service (choices v))),
    (Trait.species.name, fun v => .ok (.membership .species (choices v))),
    ("status", fun v => .ok (.status (choices v))),
    ("clientType", fun v => .ok (.clientType (choices v))),
    ("lifetimeValue", ofLifetime),
    ("lastInteraction", fun v => v.toInstant?.map .lastInteraction)]

/-- The rule of a criterion about `field` with a value. -/
def ofValue (field : Text) (v : Value) : Attempt Rule :=
  match readers.find? fun r => r.1 = field with
  | some (_, read) => read v
  | none => .ok (.unknown field)

end Rule

namespace Criterion

/-- The text of a member, empty unless it counts as given. -/
def memberText (fields : Fields) (key : Text) : Text :=
  let v := fields.get key
  if v.isTruthy then v.describe else []

/-- The criterion that a value describes. One that is no object asks for
nothing. -/
def ofValue : Value → Attempt Criterion
  | .object fields => do
    let field := memberText fields "field"
    let rule ← Rule.ofValue field (Fields.get fields "value")
    return { id := memberText fields "id", field, rule
             label := Fields.get fields "label", operator := Fields.get fields "operator" }
  | _ => .ok { id := [], field := [], rule := .unknown [], label := .null, operator := .null }

end Criterion

/-! ## Deciding rules -/

/-- The text of an attribute, if it counts as given. -/
def Value.given? (v : Value) : Option Text := if v.isTruthy then some v.describe else none

/-- The texts of a list's items that are not null. -/
def Value.words (v : Value) : List Text :=
  (v.items.filter fun v => !v.isNull).map Value.describe

namespace Value

theorem given?_of_truthy {v : Value} (h : v.isTruthy = true) : v.given? = some v.describe :=
  if_pos h

theorem given?_text {t : Text} (h : t ≠ []) : (text t).given? = some t :=
  given?_of_truthy (by simpa [isTruthy])

theorem given?_eq_none_iff {v : Value} : v.given? = none ↔ v.isTruthy = false := by
  cases h : v.isTruthy <;> simp [given?, h]

theorem words_eq_nil_iff {v : Value} : v.words = [] ↔ ∀ w ∈ v.items, w.isNull = true := by
  simp [words]

theorem words_of_not_given {v : Value} (h : v.isTruthy = false) : v.words = [] := by
  cases v with
  | list items =>
      cases items with
      | nil => rfl
      | cons w rest => cases h
  | _ => rfl

theorem words_append (A B : List Value) :
    (list (A ++ B)).words = (list A).words ++ (list B).words := by
  simp [words]

theorem mem_words {v : Value} {t : Text} :
    t ∈ v.words ↔ ∃ w ∈ v.items, w.isNull = false ∧ w.describe = t := by
  simp [words, and_assoc]

end Value

namespace Rule

/-- Whether two texts are both there and stand in a relation in lower case. -/
def compares (relation : Text → Text → Bool) (given wanted : Option Text) : Bool :=
  match given, wanted with
  | some g, some w => relation g.lower w.lower
  | _, _ => false

/-- Whether a text equals one of some others in lower case. -/
def isOneOf (t : Text) (oneOf : List Text) : Bool := (oneOf.map Text.lower).elem t.lower

/-- The lifetime value to compare; none counts as zero. -/
def lifetime (ctx : Context) : Attempt Binary64 :=
  if ctx.lifetimeValue.isNull then .ok (.zero false) else ctx.lifetimeValue.toAmount

/-- Whether a context satisfies the rule. -/
def holds (ctx : Context) : Rule → Attempt Bool
  | .zip start => .ok (compares Text.startsWith ctx.zip.given? start)
  | .city fragment => .ok (compares Text.contains ctx.city.given? fragment)
  | .state name => .ok (compares (· == ·) ctx.state.given? name)
  | .membership trait oneOf =>
    .ok ((ctx.get trait.listedIn).words.any (isOneOf · oneOf))
  | .status oneOf => .ok (ctx.status.given?.any (isOneOf · oneOf))
  | .clientType oneOf => .ok (ctx.clientType.given?.any oneOf.elem)
  | .lifetimeRange minimum maximum =>
    (lifetime ctx).map fun v => minimum.le v && v.le maximum
  | .lifetimeMinimum minimum => (lifetime ctx).map minimum.le
  | .lastInteraction since =>
    ctx.lastInteraction.toInstant?.map fun last =>
      match last, since with
      | some last, some since => !last.before since
      | _, _ => false
  | .unknown _ => .ok true

/-- Whether a value, taken as a context, satisfies the rule. A rule about
nothing does not look at it. -/
def holdsFor (v : Value) : Rule → Attempt Bool
  | .unknown _ => .ok true
  | rule => do rule.holds (← Context.ofValue v)

theorem holdsFor_object (rule : Rule) (ctx : Fields) :
    rule.holdsFor (.object ctx) = rule.holds (.ofFields ctx) := by
  cases rule with
  | unknown field => rfl
  | _ =>
      unfold holdsFor
      rw [Context.ofValue_object]
      rfl

end Rule

/-- Whether a value, taken as a context, satisfies the criterion that another
one describes. -/
def Criterion.holdsFor (criterion v : Value) : Attempt Bool := do
  (← ofValue criterion).rule.holdsFor v

/-- On objects, a criterion is the rule that its value makes for its field. -/
theorem Criterion.holdsFor_object (criterion ctx : Fields) :
    holdsFor (.object criterion) (.object ctx) = (do
      let rule ← Rule.ofValue (memberText criterion "field") (criterion.get "value")
      rule.holds (.ofFields ctx)) := by
  simp only [holdsFor, ofValue]
  cases Rule.ofValue (memberText criterion "field") (criterion.get "value") with
  | error failure => rfl
  | ok rule => exact rule.holdsFor_object ctx

end Audience
