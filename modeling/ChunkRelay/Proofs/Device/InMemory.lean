import ChunkRelay.Device.InMemory
import ChunkRelay.Proofs.Act
import ChunkRelay.Proofs.Report.Canonical

/-! # What the device in memory does

One equation for each request to the device. A request to a closed device fails and changes
nothing. Feature requests change nothing at all. What is queued stays as it is but for the cuts.
-/

namespace ChunkRelay

theorem chunks_flatten (data : List UInt8) : (chunks data).flatten = data := by
  fun_induction chunks data with
  | case1 data isEmpty => exact (List.isEmpty_iff.mp isEmpty).symm
  | case2 data _ ih => rw [List.flatten_cons, ih, List.take_append_drop]

/-- The length of a chunk that can be sent. -/
def IsChunk (payload : List UInt8) : Prop := 0 < payload.length ∧ payload.length ≤ maxChunkLength

theorem chunks_sized (data : List UInt8) : ∀ payload ∈ chunks data, IsChunk payload := by
  fun_induction chunks data with
  | case1 => exact nofun
  | case2 data more ih =>
      have long : 0 < data.length := by
        rw [List.length_pos_iff]
        exact fun none => more (List.isEmpty_iff.mpr none)
      rw [List.forall_mem_cons]
      refine ⟨?_, ih⟩
      rw [IsChunk, List.length_take, maxChunkLength]
      omega

namespace InMemoryDevice

open Act

variable {d : InMemoryDevice}

theorem requireOpen_open (isOpen : d.isOpen = true) (operation : String) :
    run (requireOpen operation) d = ⟨.ok (), [], d⟩ := by
  simp [requireOpen, run_bind, isOpen]

theorem requireOpen_closed (isClosed : d.isOpen = false) (operation : String) :
    run (requireOpen operation) d = ⟨.error (.caused (.notOpen operation)), [], d⟩ := by
  simp [requireOpen, run_bind, isClosed]

theorem readFeature_world (id limit : Int) : (run (readFeature id limit) d).world = d := by
  cases isOpen : d.isOpen with
  | false => rw [readFeature, run_bind_error (requireOpen_closed isOpen _)]
  | true =>
      rw [readFeature, run_bind_ok (requireOpen_open isOpen _), run_bind_ok (run_get d)]
      cases feature? d.config id with
      | none => rfl
      | some report =>
          cases encoded : report.encode with
          | error cause => simp [encoded]
          | ok out => simp [encoded]

theorem readFeature_run {id : ReportId} {report : Report} {bytes : List UInt8}
    (isOpen : d.isOpen = true) (held : feature? d.config id.code = some report)
    (written : report.encode = .ok (id.code, bytes)) (fits : bytes.length ≤ id.limit) :
    run (readFeature id.code id.limit) d = ⟨.ok bytes, [], d⟩ := by
  rw [readFeature, run_bind_ok (requireOpen_open isOpen _), run_bind_ok (run_get d), held]
  simp [written, Except.map, windowTo_whole fits]

/-- The device after a control report. Switching off starts the count of packets anew. -/
def switched (enabled : Bool) (d : InMemoryDevice) : InMemoryDevice :=
  { d with
    writes := d.writes ++ [(ReportId.streamControl.code, Codec.encodeControl enabled)]
    streaming := enabled
    next := if enabled then d.next else Sequence.wrap 0 }

theorem writeControl_open (isOpen : d.isOpen = true) (enabled : Bool) :
    run (writeOutput ReportId.streamControl.code (Codec.encodeControl enabled)) d =
      ⟨.ok 1, [], d.switched enabled⟩ := by
  have first : Sequence.wrap 0 = 0 := rfl
  rw [writeOutput, run_bind_ok (requireOpen_open isOpen _), if_neg (by simp),
    Codec.decodeControl_encoded]
  simp [switched, first, Except.map, Codec.encodeControl]

theorem writeControl_closed (isClosed : d.isOpen = false) (enabled : Bool) :
    run (writeOutput ReportId.streamControl.code (Codec.encodeControl enabled)) d =
      ⟨.error (.caused (.notOpen "write_output")), [], d⟩ := by
  rw [writeOutput, run_bind_error (requireOpen_closed isClosed _)]

/-- The device after it has sent its first chunk. -/
def sent (rest : List (List UInt8)) (d : InMemoryDevice) : InMemoryDevice :=
  { d with pending := rest, next := d.next.next }

theorem readInput_emitted {payload : List UInt8} {rest : List (List UInt8)}
    (isOpen : d.isOpen = true) (streaming : d.streaming = true)
    (pending : d.pending = payload :: rest) (fits : payload.length ≤ maxChunkLength)
    (limit timeoutMs : Int) :
    run (readInput limit timeoutMs) d =
      ⟨.ok (ReportId.streamData.code, windowTo (UInt8.ofNat d.next.val :: payload) limit), [],
        d.sent rest⟩ := by
  have encoded := Codec.encodePacket_eq ⟨d.next, payload, fits⟩
  dsimp only at encoded
  rw [readInput, run_bind_ok (requireOpen_open isOpen _), run_bind_ok (run_get d)]
  simp [streaming, pending, run_bind, Except.map, encoded, sent]

theorem readInput_sent {payload : List UInt8} {rest : List (List UInt8)} {limit : Nat}
    (isOpen : d.isOpen = true) (streaming : d.streaming = true)
    (pending : d.pending = payload :: rest) (fits : payload.length ≤ maxChunkLength)
    (room : payload.length < limit) (timeoutMs : Int) :
    run (readInput limit timeoutMs) d =
      ⟨.ok (ReportId.streamData.code, UInt8.ofNat d.next.val :: payload), [], d.sent rest⟩ := by
  rw [readInput_emitted isOpen streaming pending fits, windowTo_whole room]

theorem readInput_closed (isClosed : d.isOpen = false) (limit timeoutMs : Int) :
    run (readInput limit timeoutMs) d = ⟨.error (.caused (.notOpen "read_input")), [], d⟩ := by
  rw [readInput, run_bind_error (requireOpen_closed isClosed _)]

/-- A device that has nothing to send. -/
def IsIdle (d : InMemoryDevice) : Prop := d.streaming = false ∨ d.pending = []

instance (d : InMemoryDevice) : Decidable d.IsIdle := inferInstanceAs (Decidable (_ ∨ _))

theorem readInput_idle (isOpen : d.isOpen = true) (idle : d.IsIdle)
    (limit timeoutMs : Int) :
    run (readInput limit timeoutMs) d =
      ⟨.error (.ofCause (.nothingQueued timeoutMs)), [], d⟩ := by
  rw [readInput, run_bind_ok (requireOpen_open isOpen _), run_bind_ok (run_get d)]
  rcases idle with off | empty
  · rw [off]
    rfl
  · rw [empty]
    cases d.streaming <;> rfl

theorem readInput_refused {payload : List UInt8} {rest : List (List UInt8)}
    (isOpen : d.isOpen = true) (streaming : d.streaming = true)
    (pending : d.pending = payload :: rest) (long : maxChunkLength < payload.length)
    (limit timeoutMs : Int) :
    run (readInput limit timeoutMs) d =
      ⟨.error (.caused (.chunkTooLong payload.length)), [], { d with pending := rest }⟩ := by
  have refused : Codec.encodePacket d.next.val payload =
      .error (.caused (.chunkTooLong payload.length)) := by
    rw [Codec.encodePacket, if_pos long]
    rfl
  rw [readInput, run_bind_ok (requireOpen_open isOpen _), run_bind_ok (run_get d)]
  simp [streaming, pending, run_bind, refused]

/-- Where nothing is sent, at most a chunk that is too long for any packet gets lost. -/
theorem readInput_cases (d : InMemoryDevice) (limit timeoutMs : Int) :
    (∃ payload rest, d.isOpen = true ∧ d.streaming = true ∧ d.pending = payload :: rest ∧
      payload.length ≤ maxChunkLength) ∨
    ∃ e d', run (readInput limit timeoutMs) d = ⟨.error e, [], d'⟩ ∧
      d'.streaming = d.streaming ∧ d'.next = d.next := by
  cases isOpen : d.isOpen with
  | false => exact Or.inr ⟨_, d, readInput_closed isOpen _ _, rfl, rfl⟩
  | true =>
      cases streaming : d.streaming with
      | false => exact Or.inr ⟨_, d, readInput_idle isOpen (Or.inl streaming) _ _, streaming, rfl⟩
      | true =>
          rcases pending : d.pending with _ | ⟨payload, rest⟩
          · exact Or.inr ⟨_, d, readInput_idle isOpen (Or.inr pending) _ _, streaming, rfl⟩
          by_cases fits : payload.length ≤ maxChunkLength
          · exact Or.inl ⟨payload, rest, rfl, rfl, rfl, fits⟩
          · exact Or.inr ⟨_, _, readInput_refused isOpen streaming pending (Nat.not_le.mp fits) _ _,
              streaming, rfl⟩

/-! ## Queueing -/

/-- Queue several pieces of data, one after the other. -/
def queueAll (pieces : List (List UInt8)) (d : InMemoryDevice) : InMemoryDevice :=
  pieces.foldl (fun d data => (d.queue data).2) d

theorem queueAll_eq (pieces : List (List UInt8)) :
    d.queueAll pieces = { d with pending := d.pending ++ pieces.flatMap chunks } := by
  induction pieces generalizing d with
  | nil => simp [queueAll]
  | cons data pieces ih =>
      change ((d.queue data).2).queueAll pieces = _
      rw [ih]
      simp [queue]

theorem queueAll_pending (pieces : List (List UInt8)) :
    (d.queueAll pieces).pending = d.pending ++ pieces.flatMap chunks := by rw [queueAll_eq]

/-- Only chunks that fit into a packet are queued. -/
theorem queue_sized (sized : ∀ payload ∈ d.pending, IsChunk payload) (data : List UInt8) :
    ∀ payload ∈ (d.queue data).2.pending, IsChunk payload := by
  intro payload member
  rcases List.mem_append.mp member with held | added
  · exact sized payload held
  · exact chunks_sized data payload added

theorem queueAll_sized (sized : ∀ payload ∈ d.pending, IsChunk payload)
    (pieces : List (List UInt8)) : ∀ payload ∈ (d.queueAll pieces).pending, IsChunk payload := by
  induction pieces generalizing d with
  | nil => exact sized
  | cons data pieces ih => exact ih (queue_sized sized data)

end InMemoryDevice

theorem flatMap_chunks_flatten (pieces : List (List UInt8)) :
    (pieces.flatMap chunks).flatten = pieces.flatten := by
  induction pieces with
  | nil => rfl
  | cons data pieces ih =>
      rw [List.flatMap_cons, List.flatten_append, chunks_flatten, ih, List.flatten_cons]

end ChunkRelay
