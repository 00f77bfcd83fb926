import Audience.Json.Token

/-!
# Reading the data format

The second half of reading JSON text: from tokens to a value. The reader
keeps the containers that are still open (`Frame`) and what may come next
(`Reader`), and every token takes one step. A key that occurs twice in an
object keeps its first place and its last value.
-/

namespace Audience

namespace Json

/-- Why a text is not read. -/
inductive Trouble where
  | malformed
  | numeralTooLong (digits : Nat)
deriving DecidableEq, Repr

/-- A container that is still open: a list's items so far, last one first, or
an object's members so far with the key whose value is being read. -/
inductive Frame where
  | list (items : List Value)
  | object (fields : Fields) (key : Text)

/-- What may come next, and the containers that are still open, of which there
may be any number. -/
inductive Reader where
  /-- A value; also the end of the innermost list when it is still empty. -/
  | value (empty : Bool) (frames : List Frame)
  /-- A key of an object with these members; also its end when it has none. -/
  | key (empty : Bool) (fields : Fields) (frames : List Frame)
  /-- The colon after a key. -/
  | colon (frames : List Frame)
  /-- A comma or the end of the innermost container. -/
  | next (frame : Frame) (frames : List Frame)
  /-- Nothing: the whole value is there. -/
  | finished (v : Value)

namespace Reader

/-- Puts a complete value into the innermost open container. -/
def complete (v : Value) : List Frame → Reader
  | [] => .finished v
  | .list items :: frames => .next (.list (v :: items)) frames
  | .object fields k :: frames => .next (.object (fields.put k v) k) frames

def step : Reader → Token → Except Trouble Reader
  | .value _ _, .tooLong digits => .error (.numeralTooLong digits)
  | .value _ frames, .scalar v => .ok (complete v frames)
  | .value _ frames, .text t => .ok (complete (.text t) frames)
  | .value _ frames, .openList => .ok (.value true (.list [] :: frames))
  | .value _ frames, .openObject => .ok (.key true [] frames)
  | .value true (.list _ :: frames), .closeList => .ok (complete (.list []) frames)
  | .key _ fields frames, .text t => .ok (.colon (.object fields t :: frames))
  | .key true _ frames, .closeObject => .ok (complete (.object []) frames)
  | .colon frames, .colon => .ok (.value false frames)
  | .next (.list items) frames, .comma => .ok (.value false (.list items :: frames))
  | .next (.list items) frames, .closeList => .ok (complete (.list items.reverse) frames)
  | .next (.object fields _) frames, .comma => .ok (.key false fields frames)
  | .next (.object fields _) frames, .closeObject => .ok (complete (.object fields) frames)
  | _, _ => .error .malformed

def run (r : Reader) : List Token → Except Trouble Value
  | [] =>
    match r with
    | .finished v => .ok v
    | _ => .error .malformed
  | token :: rest =>
    match r.step token with
    | .error trouble => .error trouble
    | .ok r => run r rest

end Reader

/-- The value that a text spells, or why it spells none. Containers may be
nested to any depth: the limit that a host sets to its own recursion is not
modelled, so a text beyond it is read here like any other. -/
def read (t : Text) : Except Trouble Value := (Reader.value false []).run (Token.ofText t)

end Json

end Audience
