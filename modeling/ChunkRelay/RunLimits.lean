import ChunkRelay.Failure

/-! # Limits on a run

A run may be limited to a number of packets and to a time in seconds. Limits are compared exactly.
Something that is given as a limit and is no number cannot be compared with, which ends the run with
a failure as soon as it would have to be.
-/

namespace ChunkRelay

/-- A limit on what a run may amount to. -/
inductive Limit where
  | amount (quantity : Quantity)
  | incomparable
  deriving DecidableEq, Repr

namespace Limit

def ofData (value : Data) : Limit :=
  match value.quantity? with
  | some quantity => amount quantity
  | none => incomparable

/-- Whether what a run amounts to reaches the limit. Nothing reaches infinity or what is no
number. -/
def isReached (limit : Limit) (reached : Rat) : Except Defect Bool :=
  match limit with
  | amount quantity => .ok (quantity.isAtMost (.finite reached))
  | incomparable => .error .limitIncomparable

end Limit

/-- When a run ends by itself. -/
structure RunLimits where
  maxPackets? : Option Limit
  seconds? : Option Limit
  deriving DecidableEq, Repr

end ChunkRelay
