import Audience.Attempt
import Audience.Value.Amount
import Audience.Value.Describe

/-!
# The pipeline board

The board sorts leads into four lanes by status and says for each lane how
many of its leads were converted, what share that is, and what the lane is
worth. A lead is converted when a quote made for it was accepted or
converted; `Board.convertedIds` collects the texts of such leads' ids.

Amounts that are not finite count as zero, so a total is never
not-a-number. The share is computed in doubles and rounded half up.
-/

namespace Audience

/-- One lane of the board. -/
structure Lane where
  status : Text
  leads : List Value
  convertedCount : Nat
  conversionRate : Int
  totalValue : Binary64

namespace Board

/-- The statuses that have a lane, from left to right. -/
def statuses : List Text := ["New", "Contacted", "Qualified", "Lost"]

def convertingStatuses : List Text := ["Accepted", "Converted"]

/-! ## Converted leads -/

/-- Whether a text comes strictly before another in the order of code
points. -/
def precedes : Text → Text → Bool
  | [], [] => false
  | [], _ :: _ => true
  | _ :: _, [] => false
  | c :: t, d :: u => c < d || (c == d && precedes t u)

/-- Puts an id into an ascending list of distinct ids. -/
def insertId (id : Text) : List Text → List Text
  | [] => [id]
  | i :: rest =>
    if id = i then i :: rest
    else if precedes id i then id :: i :: rest
    else i :: insertId id rest

/-- The text of the id of the lead that a quote converts, if it does. The
status of a quote without a lead is not looked at. -/
def convertedId? : Value → Attempt (Option Text)
  | .object quote => do
    let id := Fields.get quote "leadId"
    if id.isNull then return none
    let status ← (Fields.get quote "status").asKey
    return if convertingStatuses.any status.isText then some id.describe else none
  | _ => .ok none

/-- The texts of the ids of converted leads, in ascending order. -/
def convertedIds (quotes : Value) : Attempt (List Text) := do
  let quotes ← quotes.elementsOrNone
  let ids ← Attempt.each convertedId? quotes
  return (ids.filterMap id).foldr insertId []

/-! ## Lanes -/

def isIn (status : Text) (lead : Value) : Bool := (lead.fields.get "status").isText status

def isConverted (converted : List Text) (lead : Value) : Bool :=
  let id := lead.fields.get "id"
  !id.isNull && converted.elem id.describe

/-- What a lead adds to its lane's total. -/
def amount (lead : Value) : Attempt Binary64 :=
  ((lead.fields.get "estimatedValue").orElse (.int 0)).toAmount.map fun x =>
    if x.isFinite then x else .zero false

/-- A share of a whole in percent, rounded half up after the division and the
multiplication have each been rounded to a double. -/
def percentage (part whole : Nat) : Int :=
  ((Binary64.ofRatio part whole * .ofInt 100 + .ofRatio 1 2).floor?).getD 0

def emptyLane (status : Text) : Lane :=
  { status, leads := [], convertedCount := 0, conversionRate := 0, totalValue := .zero false }

def empty : List Lane := statuses.map emptyLane

/-- The lane with a lead at its end, if the lead has the lane's status. The
share is not kept up to date. -/
def take (converted : List Text) (lead : Value) (l : Lane) : Attempt Lane := do
  if isIn l.status lead then
    let x ← amount lead
    return { l with
      leads := l.leads ++ [lead]
      convertedCount :=
        if isConverted converted lead then l.convertedCount + 1 else l.convertedCount
      totalValue := l.totalValue + x }
  else return l

/-- The board with a lead in the lane of its status. A lead without a lane is
passed over. -/
def place (converted : List Text) (board : List Lane) (lead : Value) : Attempt (List Lane) :=
  Attempt.each (take converted lead) board

/-- The lane with its share, which for a lane without leads stays zero. -/
def rate (l : Lane) : Lane :=
  if l.leads.isEmpty then l
  else { l with conversionRate := percentage l.convertedCount l.leads.length }

/-- Leads are placed one after the other, and then every lane gets its
share. -/
def build (leads quotes : Value) : Attempt (List Lane) := do
  let converted ← convertedIds quotes
  let leads ← leads.elementsOrNone
  let board ← leads.foldlM (place converted) empty
  return board.map rate

end Board

def Lane.toValue (l : Lane) : Value :=
  .object [("status", .text l.status), ("leads", .list l.leads),
    ("convertedCount", .int l.convertedCount), ("conversionRate", .int l.conversionRate),
    ("totalValue", .real l.totalValue)]

end Audience
