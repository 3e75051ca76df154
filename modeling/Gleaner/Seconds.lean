/-
  Gleaner/Seconds.lean
  ====================
  **Seconds.**  A length of time as it was given, in whole seconds or with a point.
  Multiples of whole seconds are whole, so that what is reported has the form of what
  was given.
-/
import Gleaner.Decimal.Shortest

namespace Gleaner

inductive Seconds where
  | whole (n : Int)
  | real (x : Binary64)
deriving DecidableEq, Repr, Inhabited

namespace Seconds

def times : Seconds → Nat → Seconds
  | .whole n, k => .whole (n * k)
  | .real x, k => .real (x.mul (.ofInt k))

def oneDecimal : Seconds → String
  | .whole n => (Binary64.ofInt n).oneDecimal
  | .real x => x.oneDecimal

def text : Seconds → String
  | .whole n => toString n
  | .real x => x.text Binary64.shownTexts

end Seconds

end Gleaner
