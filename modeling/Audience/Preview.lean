import Audience.Projection
import Audience.Segment

/-!
# Previews

Before a segment is used, its editor shows how many records it reaches and
the tags that are most common among them. `Preview.tally` counts tags in the
order in which they are first met, and `Preview.ranked` puts the counts in
descending order without disturbing equal ones.
-/

namespace Audience

/-- The size of an audience and a sample of its tags. -/
structure Preview where
  audienceCount : Nat
  sampleTags : List Value

namespace Preview

/-- The number of tags shown when nothing else is asked for. -/
def defaultSampleSize : Int := 3

def count (tag : Text) : List (Text × Nat) → List (Text × Nat)
  | [] => [(tag, 1)]
  | (t, n) :: rest => if t = tag then (t, n + 1) :: rest else (t, n) :: count tag rest

/-- How often each tag occurs, in the order of first occurrence. -/
def tally (tags : List Text) : List (Text × Nat) := tags.foldl (fun counts t => count t counts) []

/-- Puts a count before the first that is not greater. -/
def place (entry : Text × Nat) : List (Text × Nat) → List (Text × Nat)
  | [] => [entry]
  | e :: rest => if e.2 ≤ entry.2 then entry :: e :: rest else e :: place entry rest

/-- The counts in descending order; equal ones keep their order. -/
def ranked (counts : List (Text × Nat)) : List (Text × Nat) := counts.foldr place []

/-- The most common tags, at most `size` of them; all of them without a
size. -/
def topTags (size : Option Int) (tags : List Text) : List Text :=
  let all := (ranked (tally tags)).map Prod.fst
  match size with
  | none => all
  | some k => all.take k.toNat

def tagsOf (ctx : Context) : List Text := ctx.tags.items.filterMap Value.text?

end Preview

/-- The audience of a segment among some records. When none of its records
has a tag, the tags saved with the segment are shown. -/
def Preview.of (segment : Selection) (records kind clients : Value) (size : Option Int) :
    Attempt Preview := do
  let index ← ClientIndex.ofValue clients
  let segment ← segment.resolve
  let records ← records.elementsOrNone
  let contexts ← Attempt.each
    (fun record => (Kind.ofValue kind).map fun kind => Context.ofRecord kind index record) records
  let members ← Attempt.keep (Segment.acceptedBy segment) contexts
  let top := Preview.topTags size (members.flatMap Preview.tagsOf)
  let sample := if top.isEmpty then (segment.map Segment.sampleTags).getD [] else top.map .text
  return { audienceCount := members.length, sampleTags := sample }

end Audience
