import ChunkRelay.Proofs.Report.Codec

/-! # Stream packets on the wire

A stream report holds five bits of sequence number and up to 63 bytes of chunk. Nothing else of a
report counts: writing the packet that was read gives the report back without its reserved bits and
its surplus bytes, and two reports hold the same packet if they differ in nothing but these.
-/

namespace ChunkRelay

namespace Sequence

theorem val_wrap (n : Int) : ((wrap n).val : Int) = n % 32 :=
  Int.toNat_of_nonneg (Int.emod_nonneg n (by decide))

theorem wrap_eq_iff {m n : Int} : wrap m = wrap n ↔ m % 32 = n % 32 := by
  rw [Fin.ext_iff, ← Int.natCast_inj, val_wrap, val_wrap]

end Sequence

namespace Codec

/-- The byte of a sequence number is the byte that it was read from, without its reserved bits. -/
theorem sequenceByte_eq (first : UInt8) :
    UInt8.ofNat (Sequence.wrap first.toNat).val = first &&& 0x1F := by
  have sequence : (Sequence.wrap first.toNat).val = first.toNat % 32 := by
    have wrapped := Sequence.val_wrap first.toNat
    omega
  rw [sequence, ← sequenceBits_toNat, UInt8.ofNat_toNat]

theorem decodePacket_first (first : UInt8) (rest : List UInt8) :
    ∃ packet, decodePacket (first :: rest) = .ok packet ∧
      packet.sequence = Sequence.wrap first.toNat ∧ packet.payload = rest.take maxChunkLength :=
  ⟨_, rfl, rfl, rfl⟩

/-- What is written can be read back, whatever integer is given for the sequence number. -/
theorem decodePacket_written (sequence : Int) {payload : List UInt8}
    (fits : payload.length ≤ maxChunkLength) :
    ∃ bytes, encodePacket sequence payload = .ok bytes ∧
      decodePacket bytes = .ok ⟨Sequence.wrap sequence, payload, fits⟩ := by
  have read := decodePacket_encoded ⟨Sequence.wrap sequence, payload, fits⟩
  exact ⟨_, if_neg (Nat.not_lt.mpr fits), read⟩

theorem encodePacket_read (first : UInt8) (rest : List UInt8) :
    ∃ packet, decodePacket (first :: rest) = .ok packet ∧
      encodePacket packet.sequence.val packet.payload =
        .ok ((first &&& 0x1F) :: rest.take maxChunkLength) := by
  obtain ⟨packet, read, sequence, payload⟩ := decodePacket_first first rest
  refine ⟨packet, read, ?_⟩
  rw [encodePacket_eq, sequence, payload, sequenceByte_eq]

theorem decodePacket_eq_iff {first first' : UInt8} {rest rest' : List UInt8} :
    decodePacket (first :: rest) = decodePacket (first' :: rest') ↔
      first.toNat % 32 = first'.toNat % 32 ∧
        rest.take maxChunkLength = rest'.take maxChunkLength := by
  simp only [decodePacket, Except.ok.injEq, StreamPacket.mk.injEq, Sequence.wrap_eq_iff]
  norm_cast

/-- Packets on the wire, in both directions. Every chunk within the limit is read back as it was
written, under the sequence number modulo 32, and every longer one is refused. A report that is not
empty is written again as its first 64 bytes without the reserved bits, and holds the same packet as
another one if they agree in the bits of the sequence number and in the bytes of the chunk. -/
theorem packet_wireForm :
    (∀ (sequence : Int) (payload : List UInt8),
      if payload.length ≤ 63 then
        ∃ bytes packet, encodePacket sequence payload = .ok bytes ∧
          decodePacket bytes = .ok packet ∧
          (packet.sequence.val : Int) = sequence % 32 ∧ packet.payload = payload
      else ∃ e, encodePacket sequence payload = .error e ∧
        e.errorClass? = some .invalidArgument) ∧
    (∀ (first : UInt8) (rest : List UInt8),
      let bytes := first :: rest
      ∃ packet, decodePacket bytes = .ok packet ∧
        encodePacket packet.sequence.val packet.payload =
          .ok ((bytes.take 64).modifyHead (· &&& 0x1F))) ∧
    ∀ (first first' : UInt8) (rest rest' : List UInt8),
      let bytes := first :: rest
      let bytes' := first' :: rest'
      decodePacket bytes = decodePacket bytes' ↔
        first.toNat % 32 = first'.toNat % 32 ∧
          (bytes.drop 1).take 63 = (bytes'.drop 1).take 63 := by
  refine ⟨fun sequence payload => ?_, encodePacket_read, fun _ _ _ _ => decodePacket_eq_iff⟩
  split
  · next fits =>
      obtain ⟨bytes, written, read⟩ := decodePacket_written sequence fits
      exact ⟨bytes, _, written, read, Sequence.val_wrap sequence, rfl⟩
  · next long => exact ⟨_, if_pos (Nat.lt_of_not_le long), rfl⟩

/-- The reserved bits are set here, and the last of the 65 bytes is one too many. -/
example : decodePacket (0xE5 :: List.replicate 64 7) =
    .ok ⟨5, List.replicate 63 7, by decide⟩ := rfl

end Codec

end ChunkRelay
