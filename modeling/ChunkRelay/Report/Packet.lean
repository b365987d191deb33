import ChunkRelay.Number.Numeral

/-! # Stream packets

A stream report carries a five-bit sequence number and a chunk of up to 63 bytes. Both limits are
part of the type; building a packet from free values may fail.
-/

namespace ChunkRelay

/-- Sequence numbers count modulo 32. -/
abbrev Sequence := Fin 32

namespace Sequence

/-- The sequence number that an integer is congruent to. -/
def wrap (n : Int) : Sequence := ⟨(n % 32).toNat, by omega⟩

def next (n : Sequence) : Sequence := wrap (n.val + 1)

/-- Whether `new` is the number that follows `previous`, for any integers. -/
def follows (previous new : Int) : Bool := new = (previous + 1) % 32

end Sequence

/-- The most bytes that a chunk holds. -/
def maxChunkLength : Nat := 63

structure StreamPacket where
  sequence : Sequence
  payload : List UInt8
  payload_le : payload.length ≤ maxChunkLength
  deriving DecidableEq, Repr

inductive PacketError where
  | sequence (value : Int)
  | payload (length : Nat)
  deriving DecidableEq, Repr

def PacketError.message : PacketError → String
  | .sequence value =>
    if Numeral.isWritable value then s!"Invalid sequence={value}; must be 0..31"
    else Numeral.writingRefusal
  | .payload length => s!"Payload too long: {length} > 63"

/-- The packet of the given values, which have to be within the limits. -/
def StreamPacket.make (sequence : Int) (payload : List UInt8) : Except PacketError StreamPacket :=
  if hs : 0 ≤ sequence ∧ sequence ≤ 31 then
    if hp : payload.length ≤ maxChunkLength then
      .ok ⟨⟨sequence.toNat, by omega⟩, payload, hp⟩
    else .error (.payload payload.length)
  else .error (.sequence sequence)

end ChunkRelay
