/-! # Quantities

What numbers of all kinds are compared by: an exact value, one of the two infinities, or nothing
that could be compared.
-/

namespace ChunkRelay

/-- What a number is compared by. -/
inductive Quantity where
  | finite (value : Rat)
  | infinite (negative : Bool)
  /-- The quantity of what is no number. It is neither less nor greater than any. -/
  | undefined
  deriving Repr, DecidableEq

namespace Quantity

def isLess : Quantity → Quantity → Bool
  | finite a, finite b => a < b
  | finite _, infinite negative => !negative
  | infinite negative, finite _ => negative
  | infinite a, infinite b => a && !b
  | undefined, _ | _, undefined => false

def isAtMost : Quantity → Quantity → Bool
  | finite a, finite b => a ≤ b
  | finite _, infinite negative => !negative
  | infinite negative, finite _ => negative
  | infinite a, infinite b => a || !b
  | undefined, _ | _, undefined => false

end Quantity

end ChunkRelay
