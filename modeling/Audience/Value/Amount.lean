import Audience.Failure
import Audience.Number.Decimal

/-!
# Amounts and counts

An amount may be a number, a truth value or a text that spells a number.
`Value.toAmount` takes any value to a double: what is not numeric becomes
not-a-number, which no comparison accepts, and only an integer beyond the
doubles has no answer. `Value.toCount` is the same for the whole number of
records that a saved segment claims to reach.
-/

namespace Audience

namespace Value

/-- The double that a value stands for. -/
def toAmount : Value → Attempt Binary64
  | .null => .ok .nan
  | .bool b => .ok (.ofInt (if b then 1 else 0))
  | .int i =>
    let x := Binary64.ofInt i
    if x.isFinite then .ok x else .error .amountTooLarge
  | .real x => .ok x
  | .text t =>
    let trimmed := t.trim
    if trimmed.isEmpty then .ok (.zero false) else .ok (trimmed.toBinary64?.getD .nan)
  | .list _ | .object _ => .ok .nan

/-- The integer that a value stands for, zero when it is not a number or not
given. A real loses its fraction. -/
def toCount : Value → Attempt Int
  | .null => .ok 0
  | .bool b => .ok (if b then 1 else 0)
  | .int i => .ok i
  | .real (.infinite _) => .error .infiniteCount
  | .real x => .ok (x.truncate?.getD 0)
  | .text t => .ok (t.toInt?.getD 0)
  | .list _ | .object _ => .ok 0

end Value

end Audience
