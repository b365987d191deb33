import ChunkRelay.Proofs.Device.InMemory

/-! # Requests that a device refuses

Whatever has been done with a device in memory, a request that fails leaves it as it was. For a read
this rests on the queue. A chunk is taken off before its packet is written; but only chunks that fit
into a packet are ever queued, so the packet can be written, and every chunk that is gone has been
sent under the number that the device had reached.
-/

namespace ChunkRelay.InMemoryDevice

open Act

/-- What can be done with a device in memory. -/
inductive Move where
  | openDevice
  | closeDevice
  | queue (data : List UInt8)
  | skip (count : Int)
  | readFeature (id limit timeoutMs : Int)
  | writeOutput (id : Int) (bytes : List UInt8) (timeoutMs : Int)
  | readInput (limit timeoutMs : Int)

def Move.act : Move → Act InMemoryDevice Unit
  | openDevice => transport.openDevice
  | closeDevice => transport.closeDevice
  | queue data => modify fun d => (d.queue data).2
  | skip count => modify fun d => d.skip count
  | readFeature id limit timeoutMs => discard (transport.readFeature id limit timeoutMs)
  | writeOutput id bytes timeoutMs => discard (transport.writeOutput id bytes timeoutMs)
  | readInput limit timeoutMs => discard (transport.readInput limit timeoutMs)

/-- Where moves lead to, be they successful or not. -/
def after (d : InMemoryDevice) (moves : List Move) : InMemoryDevice :=
  moves.foldl (fun d move => (run move.act d).world) d

/-- Every chunk in the queue fits into a packet, and none is empty. -/
def Sized (d : InMemoryDevice) : Prop := ∀ payload ∈ d.pending, IsChunk payload

variable {d : InMemoryDevice}

/-! ## Requests -/

/-- A device from which nothing can be read for the time being. -/
def Silent (d : InMemoryDevice) : Prop := d.isOpen = false ∨ d.streaming = false ∨ d.pending = []

/-- What a read of a packet comes to. -/
inductive Read (limit : Int) (d : InMemoryDevice) :
    Except Failure (Int × List UInt8) → InMemoryDevice → Prop where
  | refused (e : Failure) (silent : d.Silent) : Read limit d (.error e) d
  | emitted (packet : StreamPacket) (rest : List (List UInt8)) (numbered : packet.sequence = d.next)
      (first : d.pending = packet.payload :: rest) :
      Read limit d (.ok (ReportId.streamData.code,
        windowTo (UInt8.ofNat packet.sequence.val :: packet.payload) limit)) (d.sent rest)

theorem Sized.readInput (sized : d.Sized) (limit timeoutMs : Int) :
    let o := run (readInput limit timeoutMs) d
    Read limit d o.answer o.world := by
  intro o
  cases isOpen : d.isOpen with
  | false =>
      simp only [o, readInput_closed isOpen]
      exact .refused _ (Or.inl isOpen)
  | true =>
      cases streaming : d.streaming with
      | false =>
          simp only [o, readInput_idle isOpen (Or.inl streaming)]
          exact .refused _ (Or.inr (Or.inl streaming))
      | true =>
          rcases pending : d.pending with _ | ⟨payload, rest⟩
          · simp only [o, readInput_idle isOpen (Or.inr pending)]
            exact .refused _ (Or.inr (Or.inr pending))
          · have fits : payload.length ≤ maxChunkLength :=
              (sized payload (pending ▸ List.mem_cons_self)).2
            simp only [o, readInput_emitted isOpen streaming pending fits]
            exact .emitted ⟨d.next, payload, fits⟩ rest rfl pending

theorem Read.sized {limit : Int} {answer : Except Failure (Int × List UInt8)} {d' : InMemoryDevice}
    (read : Read limit d answer d') (sized : d.Sized) : d'.Sized := by
  cases read with
  | refused => exact sized
  | emitted packet rest _ first =>
      rw [Sized, first, List.forall_mem_cons] at sized
      exact sized.2

theorem Read.unchanged {limit : Int} {e : Failure} {d' : InMemoryDevice}
    (read : Read limit d (.error e) d') : d' = d := by
  cases read
  rfl

/-- A control report is obeyed or refused, and the queue has no part in it. -/
theorem writeOutput_cases (d : InMemoryDevice) (id : Int) (bytes : List UInt8) :
    (∃ e, run (writeOutput id bytes) d = ⟨.error e, [], d⟩) ∨
    ∃ count d', run (writeOutput id bytes) d = ⟨.ok count, [], d'⟩ ∧ d'.pending = d.pending := by
  cases isOpen : d.isOpen with
  | false => exact Or.inl ⟨_, run_bind_error (requireOpen_closed isOpen _)⟩
  | true =>
      rw [writeOutput, run_bind_ok (requireOpen_open isOpen _)]
      split
      · exact Or.inl ⟨_, rfl⟩
      · cases Codec.decodeControl bytes with
        | error cause => exact Or.inl ⟨_, rfl⟩
        | ok enabled => exact Or.inr ⟨_, _, rfl, rfl⟩

/-! ## Histories -/

theorem Move.keeps_sized (move : Move) : Preserves Sized move.act := by
  intro d sized
  cases move with
  | openDevice | closeDevice | skip => exact sized
  | queue data => exact queue_sized sized data
  | readFeature id limit timeoutMs =>
      rw [Move.act, run_discard]
      exact (readFeature_world id limit).symm ▸ sized
  | writeOutput id bytes timeoutMs =>
      rw [Move.act, run_discard]
      rcases writeOutput_cases d id bytes with ⟨e, refused⟩ | ⟨count, d', obeyed, queue⟩
      · simpa only [transport, refused] using sized
      · simpa only [transport, obeyed, Sized, queue] using sized
  | readInput limit timeoutMs =>
      rw [Move.act, run_discard]
      exact (sized.readInput limit timeoutMs).sized sized

theorem after_sized (moves : List Move) (sized : d.Sized) : (after d moves).Sized := by
  induction moves generalizing d with
  | nil => exact sized
  | cons move moves ih => exact ih (move.keeps_sized d sized)

theorem Sized.refused (sized : d.Sized) {move : Move} {e : Failure}
    (failed : (run move.act d).answer = .error e) : (run move.act d).world = d := by
  cases move with
  | openDevice | closeDevice | queue | skip => cases failed
  | readFeature id limit timeoutMs =>
      rw [Move.act, run_discard]
      exact readFeature_world id limit
  | writeOutput id bytes timeoutMs =>
      have failed' : (run (writeOutput id bytes) d).answer = .error e := discard_failed failed
      rw [Move.act, run_discard]
      rcases writeOutput_cases d id bytes with ⟨_, refused⟩ | ⟨count, d', obeyed, _⟩
      · simp only [transport, refused]
      · rw [obeyed] at failed'
        cases failed'
  | readInput limit timeoutMs =>
      have read := sized.readInput limit timeoutMs
      have failed' : (run (InMemoryDevice.readInput limit timeoutMs) d).answer = .error e :=
        discard_failed failed
      dsimp only at read
      rw [failed'] at read
      rw [Move.act, run_discard]
      exact read.unchanged

/-- Whatever has been done with a device, a request that fails leaves it as it was. Each chunk in
    its queue can be sent, and a read fails only if nothing is to be sent. A read that takes a chunk
    off the queue has sent it, to be read back as it was if the limit leaves room for a whole
    packet. -/
theorem after_refused_unchanged (config : DeviceConfig) (moves : List Move) :
    let d := after (new config) moves
    (∀ (move : Move) (e : Failure), (run move.act d).answer = .error e →
      (run move.act d).world = d) ∧
    (∀ payload ∈ d.pending, IsChunk payload ∧
      ∀ n, ∃ bytes, Codec.encodePacket n payload = .ok bytes) ∧
    ∀ (limit timeoutMs : Int),
      let o := run (transport.readInput limit timeoutMs) d
      match o.answer with
      | .error _ => o.world = d ∧ d.Silent
      | .ok (id, bytes) => id = 6 ∧ ∃ packet : StreamPacket, packet.sequence = d.next ∧
          d.pending = packet.payload :: o.world.pending ∧
          (64 ≤ limit → Codec.decodePacket bytes = .ok packet) := by
  intro d
  have sized : d.Sized := after_sized moves nofun
  refine ⟨fun move e => sized.refused, ?_, ?_⟩
  · intro payload member
    have isChunk := sized payload member
    refine ⟨isChunk, fun n => ⟨_, if_neg (Nat.not_lt.mpr isChunk.2)⟩⟩
  · intro limit timeoutMs o
    have read : Read limit d o.answer o.world := sized.readInput limit timeoutMs
    obtain ⟨answer, notes, d'⟩ := o
    dsimp only at read ⊢
    cases read with
    | refused e silent => exact ⟨rfl, silent⟩
    | emitted packet rest numbered first =>
        refine ⟨rfl, packet, numbered, first, fun roomy => ?_⟩
        have fits : (UInt8.ofNat packet.sequence.val :: packet.payload).length ≤ limit.toNat := by
          have small : packet.payload.length ≤ 63 := packet.payload_le
          simp only [List.length_cons]
          omega
        have whole := windowTo_whole fits
        rw [Int.toNat_of_nonneg (by omega)] at whole
        rw [whole, Codec.decodePacket_encoded]

/-- A device that has been closed cannot be read from, and keeps what is queued. -/
theorem after_refused_unchanged_shut :
    let config : DeviceConfig := ⟨0, "id", "uri", "Name:value"⟩
    let d := after (new config) [.openDevice, .writeOutput 5 [1] 1000, .queue [7, 8], .closeDevice]
    let move := Move.readInput 64 0
    (run move.act d).answer = .error (.caused (.notOpen "read_input")) ∧
      (run move.act d).world = d ∧ d.pending = chunks [7, 8] := by
  intro config d move
  have failed : (run move.act d).answer = .error (.caused (.notOpen "read_input")) := by rfl
  have unchanged := (after_refused_unchanged config
    [.openDevice, .writeOutput 5 [1] 1000, .queue [7, 8], .closeDevice]).1
  exact ⟨failed, unchanged move _ failed, rfl⟩

end ChunkRelay.InMemoryDevice
