/-! # Windows of a list

A window is given by two bounds. A bound from zero up counts from the start, a negative one from
the end, and both are clamped to the list, so every pair of integers names a window.
-/

namespace ChunkRelay

/-- The position that a bound names in a list of `length` items. -/
def boundAt (length : Nat) (bound : Int) : Nat :=
  if bound < 0 then (bound + length).toNat else min bound.toNat length

/-- The items from the bound `start` up to, but not including, the bound `stop`. -/
def window (items : List α) (start stop : Int) : List α :=
  (items.take (boundAt items.length stop)).drop (boundAt items.length start)

def windowTo (items : List α) (stop : Int) : List α := items.take (boundAt items.length stop)

end ChunkRelay
