import ChunkRelay.Proofs.Device.InMemory
import ChunkRelay.Proofs.Session.Operations

/-! # Sessions over a device in memory

The operations of a session whose transport is a device in memory, which is a part of its world.
-/

namespace ChunkRelay.Session

open Act

variable {ω : Type} {s : Session ω} {w : ω} {part : Focus ω InMemoryDevice}

theorem deviceFeature_ok {id : ReportId} {report : Report} {bytes : List UInt8}
    (isOpen : (part.get w).isOpen = true)
    (held : InMemoryDevice.feature? (part.get w).config id.code = some report)
    (written : report.encode = .ok (id.code, bytes)) (fits : bytes.length ≤ id.limit) :
    run ((InMemoryDevice.transport.within part).readFeature id.code id.limit requestTimeoutMs) w =
      ⟨.ok bytes, [], w⟩ :=
  run_within_same (InMemoryDevice.readFeature_run isOpen held written fits)

theorem readFeature_kept (given : s.transport? = some (InMemoryDevice.transport.within part))
    (id : ReportId) : Preserves (· = (s, w)) (readFeature id) := by
  intro _ same
  subst same
  have kept := InMemoryDevice.readFeature_world (d := part.get w) id.code id.limit
  rw [readFeature_run given, run_outside]
  change (s, part.set (run (InMemoryDevice.readFeature id.code id.limit) (part.get w)).world w) = _
  rw [kept, part.set_get]

theorem readConfig_kept (given : s.transport? = some (InMemoryDevice.transport.within part)) :
    Preserves (· = (s, w)) readConfig := readConfig_preserves (readFeature_kept given)

/-! ## Stream control -/

theorem enable_open (given : s.transport? = some (InMemoryDevice.transport.within part))
    (isOpen : (part.get w).isOpen = true) :
    ∃ record, run enable (s, w) = ⟨.ok (), [.log record],
      ({ s with streaming := true }, part.set ((part.get w).switched true) w)⟩ := by
  have written := run_within_of (InMemoryDevice.writeControl_open isOpen true)
  exact ⟨_, enable_ok (writeControl_ok given written)⟩

theorem enable_closed (given : s.transport? = some (InMemoryDevice.transport.within part))
    (isClosed : (part.get w).isOpen = false) :
    ∃ e, run enable (s, w) = ⟨.error e, [], (s, w)⟩ := by
  have refused := run_within_same (InMemoryDevice.writeControl_closed isClosed true)
  exact ⟨_, enable_error (writeControl_error given refused)⟩

theorem disable_open (given : s.transport? = some (InMemoryDevice.transport.within part))
    (isOpen : (part.get w).isOpen = true) :
    ∃ record, run disable (s, w) = ⟨.ok (), [.log record],
      ({ s with streaming := false, tracker := s.tracker.reset },
        part.set ((part.get w).switched false) w)⟩ := by
  have written := run_within_of (InMemoryDevice.writeControl_open isOpen false)
  exact ⟨_, disable_ok (writeControl_ok given written)⟩

theorem disable_closed (given : s.transport? = some (InMemoryDevice.transport.within part))
    (isClosed : (part.get w).isOpen = false) :
    ∃ e, run disable (s, w) = ⟨.error e, [], (s, w)⟩ := by
  have refused := run_within_same (InMemoryDevice.writeControl_closed isClosed false)
  exact ⟨_, disable_error (writeControl_error given refused)⟩

/-! ## Packets -/

theorem readEvent_sent {payload : List UInt8} {rest : List (List UInt8)}
    (given : s.transport? = some (InMemoryDevice.transport.within part))
    (isOpen : (part.get w).isOpen = true) (streaming : (part.get w).streaming = true)
    (pending : (part.get w).pending = payload :: rest) (fits : payload.length ≤ maxChunkLength)
    (timeoutMs : Int) :
    ∃ packet record, packet.sequence = (part.get w).next ∧ packet.payload = payload ∧
      run (readEvent timeoutMs) (s, w) = ⟨.ok (s.event packet), [.log record],
        (s.taken packet, part.set ((part.get w).sent rest) w)⟩ := by
  have sent := run_within_of (InMemoryDevice.readInput_sent isOpen streaming pending fits
    (Nat.lt_succ_of_le fits) timeoutMs)
  have decoded := Codec.decodePacket_encoded ⟨(part.get w).next, payload, fits⟩
  obtain ⟨record, taken⟩ := readEvent_ok given sent (heard_decoded decoded)
  exact ⟨_, record, rfl, rfl, taken⟩

/-- A reading takes in the packet that the device sends, or leaves the numbering alone. -/
theorem readEvent_cases (given : s.transport? = some (InMemoryDevice.transport.within part))
    (w : ω) (timeoutMs : Int) :
    (∃ packet rest record, packet.sequence = (part.get w).next ∧
      (part.get w).pending = packet.payload :: rest ∧
      run (readEvent timeoutMs) (s, w) = ⟨.ok (s.event packet), [.log record],
        (s.taken packet, part.set ((part.get w).sent rest) w)⟩) ∨
    ∃ e d', run (readEvent timeoutMs) (s, w) = ⟨.error e, [], (s, part.set d' w)⟩ ∧
      d'.streaming = (part.get w).streaming ∧ d'.next = (part.get w).next := by
  rcases InMemoryDevice.readInput_cases (part.get w) ReportId.streamData.limit timeoutMs with
    ⟨payload, rest, isOpen, streaming, pending, fits⟩ | ⟨e, d', failed, streaming, next⟩
  · obtain ⟨packet, record, sequence, rfl, taken⟩ :=
      readEvent_sent given isOpen streaming pending fits timeoutMs
    exact Or.inl ⟨packet, rest, record, sequence, pending, taken⟩
  · exact Or.inr ⟨e, d', readEvent_error given (run_within_of failed) rfl, streaming, next⟩

end ChunkRelay.Session
