import ChunkRelay.Failure
import ChunkRelay.Report.Packet

/-! # Continuity of the stream

A tracker remembers the last sequence number seen and judges whether the next one follows it. The
number seen becomes the last one whatever the verdict, since nothing is ever sent again. Losses,
repetitions and reordering are not told apart.
-/

namespace ChunkRelay

/-- How a sequence number stands to the one before it. -/
inductive Verdict where
  | inOrder
  | discontinuous
  deriving DecidableEq, Repr

def Verdict.name : Verdict → String
  | inOrder => "in_order"
  | discontinuous => "discontinuous"

/-- The last sequence number, if one has been seen since the last reset, and the counts of both
verdicts. -/
structure Tracker where
  last? : Option Sequence
  inOrder : Nat
  discontinuities : Nat
  deriving DecidableEq, Repr

namespace Tracker

def new : Tracker := ⟨none, 0, 0⟩

def isTracking (t : Tracker) : Bool := t.last?.isSome

def expected? (t : Tracker) : Option Sequence := t.last?.map Sequence.next

/-- Take in a sequence number; the first one after a reset gets no verdict. -/
def see (t : Tracker) (n : Sequence) : Option Verdict × Tracker :=
  match t.last? with
  | none => (none, { t with last? := some n })
  | some previous =>
    if Sequence.follows previous.val n.val then
      (some .inOrder, { t with last? := some n, inOrder := t.inOrder + 1 })
    else
      (some .discontinuous, { t with last? := some n, discontinuities := t.discontinuities + 1 })

/-- The sequence number of an integer, which has to be one. -/
def check (n : Int) : Except Failure Sequence :=
  if h : 0 ≤ n ∧ n ≤ 31 then .ok ⟨n.toNat, by omega⟩
  else .error (.ofCause (.sequenceOutOfRange n))

def observe (t : Tracker) (n : Int) : Except Failure (Option Verdict × Tracker) :=
  (check n).map t.see

/-- Set the last sequence number without a verdict. -/
def force (t : Tracker) (n : Int) : Except Failure Tracker :=
  (check n).map fun n => { t with last? := some n }

/-- Forget the last sequence number; the counts stay. -/
def reset (t : Tracker) : Tracker := { t with last? := none }

end Tracker

end ChunkRelay
