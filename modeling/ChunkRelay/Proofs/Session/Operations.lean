import ChunkRelay.Session
import ChunkRelay.Proofs.Act

/-! # What the operations of a session do

Each operation in terms of what its transport and its uploader do. An operation that fails leaves
the session as it was, except that a packet which was taken in stays taken in when its delivery
fails.
-/

namespace ChunkRelay.Session

open Act

variable {ω : Type} {s : Session ω} {w w' : ω} {t : Transport ω} {notes : List Note}

@[simp] theorem run_state : run state (s, w) = ⟨.ok s, [], (s, w)⟩ := rfl

@[simp] theorem run_update (f : Session ω → Session ω) :
    run (update f) (s, w) = ⟨.ok (), [], (f s, w)⟩ := rfl

@[simp] theorem run_outside {α : Type} (x : Act ω α) :
    run (outside x) (s, w) = ⟨(run x w).answer, (run x w).notes, (s, (run x w).world)⟩ := rfl

theorem requireTransport_some (given : s.transport? = some t) (operation : String) :
    run (requireTransport operation) (s, w) = ⟨.ok t, [], (s, w)⟩ := by
  rw [requireTransport, run_bind_ok run_state, given]
  rfl

theorem requireTransport_none (missing : s.transport? = none) (operation : String) :
    run (requireTransport operation) (s, w) =
      ⟨.error (.caused (.transportRequired operation)), [], (s, w)⟩ := by
  rw [requireTransport, run_bind_ok run_state, missing]
  rfl

/-- What needs the transport comes to nothing without one. -/
theorem requireTransport_preserves {α : Type} {P : Session ω × ω → Prop} {operation : String}
    {f : Transport ω → Act (Session ω × ω) α}
    (kept : ∀ s w t, P (s, w) → s.transport? = some t → P (run (f t) (s, w)).world) :
    Preserves P (requireTransport operation >>= f) := by
  intro ⟨s, w⟩ holds
  cases given : s.transport? with
  | none =>
      rw [run_bind_error (requireTransport_none given _)]
      exact holds
  | some t =>
      rw [run_bind_ok (requireTransport_some given _)]
      exact kept s w t holds given

/-! ## Configuration -/

section Kept

variable {P : Session ω × ω → Prop}

theorem readFeatures_preserves (kept : ∀ id, Preserves P (readFeature id)) :
    Preserves P readFeatures := (kept _).bind fun _ => .ofExcept _

theorem readText_preserves (kept : ∀ id, Preserves P (readFeature id)) (id : ReportId) :
    Preserves P (readText id) := (kept id).bind fun _ => .ofExcept _

theorem readConfig_preserves (kept : ∀ id, Preserves P (readFeature id)) :
    Preserves P readConfig := by
  refine (readFeatures_preserves kept).bind fun _ => (readText_preserves kept _).bind fun _ => ?_
  refine (readText_preserves kept _).bind fun _ => (readText_preserves kept _).bind fun _ => ?_
  exact (Preserves.log _ _ _).bind fun _ => .pure _

end Kept

theorem readFeature_run (given : s.transport? = some t) (id : ReportId) :
    run (readFeature id) (s, w) =
      run (outside (t.readFeature id.code id.limit requestTimeoutMs)) (s, w) := by
  rw [readFeature, run_bind_ok (requireTransport_some given _)]
  rfl

theorem readFeature_ok {id : ReportId} {bytes : List UInt8} (given : s.transport? = some t)
    (read : run (t.readFeature id.code id.limit requestTimeoutMs) w = ⟨.ok bytes, notes, w'⟩) :
    run (readFeature id) (s, w) = ⟨.ok bytes, notes, (s, w')⟩ := by
  rw [readFeature_run given, run_outside, read]

theorem readFeatures_ok {bytes : List UInt8} {n : Nat} (given : s.transport? = some t)
    (read : run (t.readFeature ReportId.supportedFeatures.code ReportId.supportedFeatures.limit
      requestTimeoutMs) w = ⟨.ok bytes, notes, w'⟩)
    (decoded : Codec.decodeFeatures bytes = .ok n) :
    run readFeatures (s, w) = ⟨.ok n, notes, (s, w')⟩ := by
  rw [readFeatures, run_bind_ok (readFeature_ok given read), decoded]
  simp

theorem readText_ok {id : ReportId} {bytes : List UInt8} {text : String}
    (given : s.transport? = some t)
    (read : run (t.readFeature id.code id.limit requestTimeoutMs) w = ⟨.ok bytes, notes, w'⟩)
    (decoded : Codec.decodeText bytes id.limit = .ok text) :
    run (readText id) (s, w) = ⟨.ok text, notes, (s, w')⟩ := by
  rw [readText, run_bind_ok (readFeature_ok given read), decoded]
  simp

theorem readConfig_ok {features : Nat} {identifier uri auth : String} {w₁ w₂ w₃ w₄ : ω}
    {n₁ n₂ n₃ n₄ : List Note}
    (first : run readFeatures (s, w) = ⟨.ok features, n₁, (s, w₁)⟩)
    (second : run (readText .deviceIdentifier) (s, w₁) = ⟨.ok identifier, n₂, (s, w₂)⟩)
    (third : run (readText .dataUri) (s, w₂) = ⟨.ok uri, n₃, (s, w₃)⟩)
    (fourth : run (readText .authorization) (s, w₃) = ⟨.ok auth, n₄, (s, w₄)⟩) :
    ∃ record, run readConfig (s, w) =
      ⟨.ok ⟨features, identifier, uri, auth⟩, n₁ ++ (n₂ ++ (n₃ ++ (n₄ ++ [.log record]))),
        (s, w₄)⟩ := by
  apply Exists.intro
  rw [readConfig, run_bind_ok first, run_bind_ok second, run_bind_ok third, run_bind_ok fourth]
  rfl

/-! ## Stream control -/

theorem writeControl_ok {enable : Bool} {count : Int} (given : s.transport? = some t)
    (written : run (t.writeOutput ReportId.streamControl.code (Codec.encodeControl enable)
      requestTimeoutMs) w = ⟨.ok count, notes, w'⟩) :
    run (writeControl enable) (s, w) = ⟨.ok (), notes, (s, w')⟩ := by
  rw [writeControl, run_bind_ok (requireTransport_some given _)]
  simp [written, Except.map]

theorem writeControl_error {enable : Bool} {e : Failure} (given : s.transport? = some t)
    (written : run (t.writeOutput ReportId.streamControl.code (Codec.encodeControl enable)
      requestTimeoutMs) w = ⟨.error e, notes, w'⟩) :
    run (writeControl enable) (s, w) = ⟨.error e, notes, (s, w')⟩ := by
  rw [writeControl, run_bind_ok (requireTransport_some given _)]
  simp [written, Except.map]

theorem writeControl_none {enable : Bool} (missing : s.transport? = none) :
    run (writeControl enable) (s, w) =
      ⟨.error (.caused (.transportRequired "stream_control")), [], (s, w)⟩ := by
  rw [writeControl, run_bind_error (requireTransport_none missing _)]

theorem writeControl_outcome (s : Session ω) (w : ω) (enable : Bool) :
    ∃ answer notes w', run (writeControl enable) (s, w) = ⟨answer, notes, (s, w')⟩ := by
  cases given : s.transport? with
  | none => exact ⟨_, _, _, writeControl_none given⟩
  | some t =>
      rcases written : run (t.writeOutput ReportId.streamControl.code (Codec.encodeControl enable)
        requestTimeoutMs) w with ⟨e | count, notes, w'⟩
      · exact ⟨_, _, _, writeControl_error given written⟩
      · exact ⟨_, _, _, writeControl_ok given written⟩

theorem enable_ok (written : run (writeControl true) (s, w) = ⟨.ok (), notes, (s, w')⟩) :
    run enable (s, w) = ⟨.ok (), notes ++ [.log ⟨.info, Source.session.name, "STREAM_ENABLED"⟩],
      ({ s with streaming := true }, w')⟩ := by
  rw [enable, run_bind_ok written, run_bind_ok (run_update _)]
  simp

theorem enable_error {e : Failure}
    (written : run (writeControl true) (s, w) = ⟨.error e, notes, (s, w')⟩) :
    run enable (s, w) = ⟨.error e, notes, (s, w')⟩ := by
  rw [enable, run_bind_error written]

theorem disable_ok (written : run (writeControl false) (s, w) = ⟨.ok (), notes, (s, w')⟩) :
    run disable (s, w) = ⟨.ok (), notes ++ [.log ⟨.info, Source.session.name, "STREAM_DISABLED"⟩],
      ({ s with streaming := false, tracker := s.tracker.reset }, w')⟩ := by
  rw [disable, run_bind_ok written, run_bind_ok (run_update _)]
  simp

theorem disable_error {e : Failure}
    (written : run (writeControl false) (s, w) = ⟨.error e, notes, (s, w')⟩) :
    run disable (s, w) = ⟨.error e, notes, (s, w')⟩ := by
  rw [disable, run_bind_error written]

/-- What stays as it is while nothing but feature reports are read and the stream is switched. -/
structure Kept (P : Session ω × ω → Prop) : Prop where
  switched : ∀ {s w} (streaming : Bool) (last? : Option Sequence),
    P (s, w) → P ({ s with streaming, tracker := { s.tracker with last? } }, w)
  feature : ∀ {s w t} (id limit timeoutMs : Int), s.transport? = some t → P (s, w) →
    P (s, (run (t.readFeature id limit timeoutMs) w).world)
  output : ∀ {s w t} (id : Int) (bytes : List UInt8) (timeoutMs : Int), s.transport? = some t →
    P (s, w) → P (s, (run (t.writeOutput id bytes timeoutMs) w).world)

namespace Kept

variable {P : Session ω × ω → Prop}

theorem readConfig (kept : Kept P) : Preserves P readConfig :=
  readConfig_preserves fun _ => requireTransport_preserves fun _ _ _ holds given =>
    kept.feature _ _ _ given holds

theorem writeControl (kept : Kept P) (enable : Bool) : Preserves P (writeControl enable) :=
  requireTransport_preserves fun _ _ _ holds given => by
    have written := kept.output ReportId.streamControl.code (Codec.encodeControl enable)
      requestTimeoutMs given holds
    simpa using written

theorem enable (kept : Kept P) : Preserves P enable := by
  refine (kept.writeControl true).bind fun _ => Preserves.bind ?_ fun _ => .log _ _ _
  exact .modify fun v holds => kept.switched true v.1.tracker.last? holds

theorem disable (kept : Kept P) : Preserves P disable := by
  refine (kept.writeControl false).bind fun _ => Preserves.bind ?_ fun _ => .log _ _ _
  exact .modify fun _ holds => kept.switched false none holds

end Kept

/-! ## Packets -/

/-- The session after it has taken in a packet. -/
def taken (packet : StreamPacket) (s : Session ω) : Session ω :=
  { s with tracker := (s.tracker.see packet.sequence).2 }

/-- The event of a packet that the session takes in. -/
def event (packet : StreamPacket) (s : Session ω) : PacketEvent :=
  ⟨packet, (s.tracker.see packet.sequence).1⟩

theorem handleInput_ok {bytes : List UInt8} {packet : StreamPacket}
    (decoded : Codec.decodePacket bytes = .ok packet) :
    ∃ record, run (handleInput ReportId.streamData.code bytes) (s, w) =
      ⟨.ok (s.event packet), [.log record], (s.taken packet, w)⟩ := by
  rw [handleInput, if_neg (by simp), decoded, run_bind_ok (run_ofExcept _), run_bind_ok run_state]
  dsimp only
  rw [run_bind_ok (run_update _)]
  simp only [event, taken]
  rcases (s.tracker.see packet.sequence).1 with _ | _ | _ <;> exact ⟨_, rfl⟩

/-- The packet in an input report, which has to be a stream report. -/
def accept (id : Int) (bytes : List UInt8) : Except Failure StreamPacket :=
  if id = ReportId.streamData.code then Codec.decodePacket bytes
  else .error (.caused (.notStreamData id))

theorem handleInput_accepted {id : Int} {bytes : List UInt8} {packet : StreamPacket}
    (accepted : accept id bytes = .ok packet) :
    ∃ record, run (handleInput id bytes) (s, w) =
      ⟨.ok (s.event packet), [.log record], (s.taken packet, w)⟩ := by
  rw [accept] at accepted
  split at accepted
  · subst id
    exact handleInput_ok accepted
  · cases accepted

theorem handleInput_refused {id : Int} {bytes : List UInt8} {e : Failure}
    (refused : accept id bytes = .error e) :
    run (handleInput id bytes) (s, w) = ⟨.error e, [], (s, w)⟩ := by
  rw [accept] at refused
  rw [handleInput]
  split at refused
  · subst id
    rw [if_neg (by simp), refused]
    rfl
  · rename_i other
    cases refused
    rw [if_pos other]
    rfl

theorem handleInput_outcome (s : Session ω) (w : ω) (id : Int) (bytes : List UInt8) :
    (∃ packet record, run (handleInput id bytes) (s, w) =
      ⟨.ok (s.event packet), [.log record], (s.taken packet, w)⟩) ∨
    ∃ e, run (handleInput id bytes) (s, w) = ⟨.error e, [], (s, w)⟩ := by
  cases accepted : accept id bytes with
  | error e => exact Or.inr ⟨_, handleInput_refused accepted⟩
  | ok packet =>
      obtain ⟨record, handled⟩ := handleInput_accepted (s := s) (w := w) accepted
      exact Or.inl ⟨packet, record, handled⟩

/-- What a session makes of an answer to its wait for an input report. -/
def heard : Except Failure (Int × List UInt8) → Except Failure StreamPacket
  | .ok (id, bytes) => accept id bytes
  | .error e => .error e

theorem heard_decoded {bytes : List UInt8} {packet : StreamPacket}
    (decoded : Codec.decodePacket bytes = .ok packet) :
    heard (.ok (ReportId.streamData.code, bytes)) = .ok packet := by
  rw [heard, accept, if_pos rfl, decoded]

variable {timeoutMs : Int} {answer : Except Failure (Int × List UInt8)}

theorem readEvent_none (missing : s.transport? = none) :
    run (readEvent timeoutMs) (s, w) =
      ⟨.error (.caused (.transportRequired "read_packet")), [], (s, w)⟩ := by
  rw [readEvent, run_bind_error (requireTransport_none missing _)]

theorem readEvent_ok {packet : StreamPacket} (given : s.transport? = some t)
    (read : run (t.readInput ReportId.streamData.limit timeoutMs) w = ⟨answer, notes, w'⟩)
    (understood : heard answer = .ok packet) :
    ∃ record, run (readEvent timeoutMs) (s, w) =
      ⟨.ok (s.event packet), notes ++ [.log record], (s.taken packet, w')⟩ := by
  rcases answer with e | ⟨id, bytes⟩
  · cases understood
  obtain ⟨record, handled⟩ := handleInput_accepted (s := s) (w := w') understood
  have received : run (outside (t.readInput ReportId.streamData.limit timeoutMs)) (s, w) =
      ⟨.ok (id, bytes), notes, (s, w')⟩ := by rw [run_outside, read]
  refine ⟨record, ?_⟩
  rw [readEvent, run_bind_ok (requireTransport_some given _), run_bind_ok received]
  dsimp only
  rw [handled]
  simp

theorem readEvent_error {e : Failure} (given : s.transport? = some t)
    (read : run (t.readInput ReportId.streamData.limit timeoutMs) w = ⟨answer, notes, w'⟩)
    (unheard : heard answer = .error e) :
    run (readEvent timeoutMs) (s, w) = ⟨.error e, notes, (s, w')⟩ := by
  have received : run (outside (t.readInput ReportId.streamData.limit timeoutMs)) (s, w) =
      ⟨answer, notes, (s, w')⟩ := by rw [run_outside, read]
  rw [readEvent, run_bind_ok (requireTransport_some given _)]
  rcases answer with failure | ⟨id, bytes⟩
  · cases unheard
    rw [run_bind_error received]
    rfl
  · rw [run_bind_ok received]
    dsimp only
    rw [handleInput_refused unheard]
    simp

theorem readEvent_outcome (s : Session ω) (w : ω) (timeoutMs : Int) :
    (∃ packet notes w', run (readEvent timeoutMs) (s, w) =
      ⟨.ok (s.event packet), notes, (s.taken packet, w')⟩) ∨
    ∃ e notes w', run (readEvent timeoutMs) (s, w) = ⟨.error e, notes, (s, w')⟩ := by
  cases given : s.transport? with
  | none => exact Or.inr ⟨_, _, _, readEvent_none given⟩
  | some t =>
      rcases read : run (t.readInput ReportId.streamData.limit timeoutMs) w with
        ⟨answer, notes, w'⟩
      cases understood : heard answer with
      | error e => exact Or.inr ⟨e, notes, w', readEvent_error given read understood⟩
      | ok packet =>
          obtain ⟨record, taken⟩ := readEvent_ok given read understood
          exact Or.inl ⟨packet, _, w', taken⟩

theorem readEvent_preserves {P : Session ω × ω → Prop}
    (tracked : ∀ {s w} (tracker : Tracker), P (s, w) → P ({ s with tracker }, w))
    (input : ∀ {s w t}, s.transport? = some t → P (s, w) →
      P (s, (run (t.readInput ReportId.streamData.limit timeoutMs) w).world)) :
    Preserves P (readEvent timeoutMs) := by
  intro ⟨s, w⟩ holds
  cases given : s.transport? with
  | none =>
      rw [readEvent_none given]
      exact holds
  | some t =>
      have listened := input given holds
      rcases read : run (t.readInput ReportId.streamData.limit timeoutMs) w with
        ⟨answer, notes, w'⟩
      rw [read] at listened
      cases understood : heard answer with
      | error e =>
          rw [readEvent_error given read understood]
          exact listened
      | ok packet =>
          obtain ⟨record, taken⟩ := readEvent_ok given read understood
          rw [taken]
          exact tracked _ listened

theorem readPacket_run :
    run (readPacket timeoutMs) (s, w) =
      ⟨(run (readEvent timeoutMs) (s, w)).answer.map PacketEvent.packet,
        (run (readEvent timeoutMs) (s, w)).notes, (run (readEvent timeoutMs) (s, w)).world⟩ := by
  rw [readPacket, ← map_eq_pure_bind, run_map]

/-! ## Forwarding -/

variable {config : DeviceConfig}

theorem forward_none (unset : s.uploader? = none) (packet : StreamPacket) :
    run (forward config packet) (s, w) = ⟨.ok none, [], (s, w)⟩ := by
  rw [forward, run_bind_ok run_state, unset]
  rfl

theorem forward_some {u : Uploader ω} {packet : StreamPacket} {answer : Except Failure Int}
    (given : s.uploader? = some u)
    (delivered : run (u.deliver config.dataUri config.authorization packet.payload) w =
      ⟨answer, notes, w'⟩) :
    run (forward config packet) (s, w) = ⟨answer.map some, notes, (s, w')⟩ := by
  rw [forward, run_bind_ok run_state, given]
  simp [delivered]

/-- Forwarding leaves the session as it is, and fails only with its uploader. -/
theorem forward_outcome (s : Session ω) (w : ω) (config : DeviceConfig) (packet : StreamPacket) :
    ∃ answer notes w', run (forward config packet) (s, w) = ⟨answer, notes, (s, w')⟩ ∧
      ∀ e, answer = .error e → ∃ u, s.uploader? = some u ∧
        (run (u.deliver config.dataUri config.authorization packet.payload) w).answer =
          .error e := by
  cases given : s.uploader? with
  | none => exact ⟨_, _, _, forward_none given packet, nofun⟩
  | some u =>
      rcases delivered : run (u.deliver config.dataUri config.authorization packet.payload) w with
        ⟨answer, notes, w'⟩
      refine ⟨_, _, _, forward_some given delivered, ?_⟩
      intro e failed
      cases answer with
      | ok status => cases failed
      | error failure =>
          cases failed
          exact ⟨u, rfl, by rw [delivered]⟩

theorem forward_preserves {P : Session ω × ω → Prop}
    (delivery : ∀ {s w u} (uri authorization : String) (payload : List UInt8),
      s.uploader? = some u → P (s, w) →
      P (s, (run (u.deliver uri authorization payload) w).world))
    (config : DeviceConfig) (packet : StreamPacket) : Preserves P (forward config packet) := by
  intro ⟨s, w⟩ holds
  cases given : s.uploader? with
  | none =>
      rw [forward_none given]
      exact holds
  | some u =>
      rw [forward_some given rfl]
      exact delivery _ _ _ given holds

theorem forwardIfGiven_preserves {P : Session ω × ω → Prop}
    (delivery : ∀ {s w u} (uri authorization : String) (payload : List UInt8),
      s.uploader? = some u → P (s, w) →
      P (s, (run (u.deliver uri authorization payload) w).world))
    (config? : Option DeviceConfig) (packet? : Option StreamPacket) :
    Preserves P (forwardIfGiven config? packet?) := by
  refine Preserves.bind (fun _ holds => holds) fun s => ?_
  cases s.uploader? with
  | none => exact .pure _
  | some u =>
      cases config? with
      | none => exact .fail _
      | some config =>
          cases packet? with
          | none => exact .fail _
          | some packet => exact forward_preserves delivery config packet

theorem process_preserves {P : Session ω × ω → Prop}
    (tracked : ∀ {s w} (tracker : Tracker), P (s, w) → P ({ s with tracker }, w))
    (input : ∀ {s w t}, s.transport? = some t → P (s, w) →
      P (s, (run (t.readInput ReportId.streamData.limit timeoutMs) w).world))
    (delivery : ∀ {s w u} (uri authorization : String) (payload : List UInt8),
      s.uploader? = some u → P (s, w) →
      P (s, (run (u.deliver uri authorization payload) w).world))
    (config? : Option DeviceConfig) : Preserves P (process config? timeoutMs) := by
  cases config? with
  | none => exact .fail _
  | some config =>
      exact (readEvent_preserves tracked input).bind fun event =>
        (forward_preserves delivery config event.packet).bind fun _ => .pure _

/-- Forwarding concerns only the part of the world that the uploader works on. -/
theorem forward_apart {τ σ : Type} {s : Session (τ × σ)} {u? : Option (Uploader σ)}
    (given : s.uploader? = u?.map (·.within Focus.snd)) (config : DeviceConfig)
    (packet : StreamPacket) (x : τ) (y : σ) :
    ∃ answer notes y', run (forward config packet) (s, x, y) = ⟨answer, notes, (s, x, y')⟩ := by
  cases u? with
  | none => exact ⟨_, _, _, forward_none given packet⟩
  | some u => exact ⟨_, _, _, forward_some given rfl⟩

theorem process_ok {event : PacketEvent} {s' s'' : Session ω} {w'' : ω}
    {more : List Note} {answer : Except Failure (Option Int)}
    (read : run (readEvent timeoutMs) (s, w) = ⟨.ok event, notes, (s', w')⟩)
    (forwarded : run (forward config event.packet) (s', w') = ⟨answer, more, (s'', w'')⟩) :
    run (process (some config) timeoutMs) (s, w) =
      ⟨answer.map fun _ => event, notes ++ more, (s'', w'')⟩ := by
  rw [process, run_bind_ok read, ← map_eq_pure_bind, run_map, forwarded]
  rfl

theorem process_error {e : Failure}
    (read : run (readEvent timeoutMs) (s, w) = ⟨.error e, notes, (s, w')⟩) :
    run (process (some config) timeoutMs) (s, w) = ⟨.error e, notes, (s, w')⟩ := by
  rw [process, run_bind_error read]

/-- An event that is answered is the one that was taken in. -/
theorem process_answer {event : PacketEvent}
    (processed : (run (process (some config) timeoutMs) (s, w)).answer = .ok event) :
    (run (readEvent timeoutMs) (s, w)).answer = .ok event := by
  rcases read : run (readEvent timeoutMs) (s, w) with ⟨e | taken, notes, s', w'⟩
  · rw [process, run_bind_error read] at processed
    exact processed
  · rcases forwarded : run (forward config taken.packet) (s', w') with ⟨e | status, more, s'', w''⟩
    · rw [process_ok read forwarded] at processed
      cases processed
    · rw [process_ok read forwarded] at processed
      exact processed

/-! ## Closing -/

theorem close_closed (closed : s.closed = true) : run close (s, w) = ⟨.ok (), [], (s, w)⟩ := by
  rw [close, run_bind_ok run_state, if_pos closed]
  rfl

theorem close_idle (unclosed : s.closed = false)
    (idle : (s.streaming && s.transport?.isSome) = false) :
    run close (s, w) =
      ⟨.ok (), [], ({ s with closed := true, tracker := s.tracker.reset }, w)⟩ := by
  rw [close, run_bind_ok run_state, if_neg (by simp [unclosed]), run_bind_ok (run_update _),
    if_neg (by simp [idle])]
  rfl

/-- Whatever becomes of switching the stream off, the session is closed. -/
theorem close_streaming {answer : Except Failure Int} (unclosed : s.closed = false)
    (streaming : s.streaming = true) (given : s.transport? = some t)
    (written : run (t.writeOutput ReportId.streamControl.code (Codec.encodeControl false)
      requestTimeoutMs) w = ⟨answer, notes, w'⟩) :
    ∃ record, run close (s, w) = ⟨.ok (), notes ++ [.log record],
      ({ s with closed := true, streaming := !answer.isOk, tracker := s.tracker.reset }, w')⟩ := by
  have given' : { s with closed := true }.transport? = some t := given
  rw [close, run_bind_ok run_state, if_neg (by simp [unclosed]), run_bind_ok (run_update _),
    if_pos (by simp [streaming, given])]
  cases answer with
  | error e =>
      have refused := disable_error (writeControl_error given' written)
      rw [run_bind_ok (run_tryCatch_error refused)]
      refine ⟨⟨.warning, Source.session.name,
    "STREAM_DISABLE_ON_CLOSE_FAILED err=" ++ e.message⟩, ?_⟩
      simp [Except.isOk, Except.toBool, streaming]
  | ok count =>
      have off := disable_ok (writeControl_ok given' written)
      rw [run_bind_ok (run_tryCatch_ok off)]
      refine ⟨⟨.info, Source.session.name, "STREAM_DISABLED"⟩, ?_⟩
      simp [Except.isOk, Except.toBool, Tracker.reset]

/-- Closing never fails. It does something the first time only. -/
theorem close_cases (s : Session ω) (w : ω) :
    (s.closed = true ∧ run close (s, w) = ⟨.ok (), [], (s, w)⟩) ∨
    ∃ notes streaming w', run close (s, w) = ⟨.ok (), notes,
      ({ s with closed := true, streaming, tracker := s.tracker.reset }, w')⟩ := by
  cases closed : s.closed with
  | true => exact Or.inl ⟨rfl, close_closed closed⟩
  | false =>
      right
      cases idle : s.streaming && s.transport?.isSome with
      | false => exact ⟨_, _, _, close_idle closed idle⟩
      | true =>
          rw [Bool.and_eq_true] at idle
          obtain ⟨t, given⟩ := Option.isSome_iff_exists.mp idle.2
          obtain ⟨record, ran⟩ := close_streaming closed idle.1 given (w := w) rfl
          exact ⟨_, _, _, ran⟩

theorem close_answer (v : Session ω × ω) : (run close v).answer = .ok () := by
  obtain ⟨s, w⟩ := v
  rcases close_cases s w with ⟨_, ran⟩ | ⟨_, _, _, ran⟩
  · rw [ran]
  · rw [ran]

theorem close_closes (v : Session ω × ω) : (run close v).world.1.closed = true := by
  obtain ⟨s, w⟩ := v
  rcases close_cases s w with ⟨closed, ran⟩ | ⟨_, _, _, ran⟩
  · rw [ran]
    exact closed
  · rw [ran]

/-! ## Parts of the world -/

section Part

variable {Ω : Type} {part : Focus Ω ω}

/-- A session whose transport and uploader work on a part of the world. -/
def within (part : Focus Ω ω) (s : Session ω) : Session Ω :=
  ⟨s.transport?.map (·.within part), s.uploader?.map (·.within part), s.tracker, s.streaming,
    s.closed⟩

theorem within_transport {t : Transport Ω} (given : (s.within part).transport? = some t) :
    ∃ t₀ : Transport ω, t = t₀.within part := by
  obtain ⟨t₀, _, within⟩ := Option.map_eq_some_iff.mp given
  exact ⟨t₀, within.symm⟩

theorem within_uploader {u : Uploader Ω} (given : (s.within part).uploader? = some u) :
    ∃ u₀ : Uploader ω, u = u₀.within part := by
  obtain ⟨u₀, _, within⟩ := Option.map_eq_some_iff.mp given
  exact ⟨u₀, within.symm⟩

/-- What the part has no say in stays as it is. -/
theorem within_kept {P : Ω → Prop} (apart : ∀ x w, P w → P (part.set x w)) :
    Kept fun v => (∃ s : Session ω, v.1 = s.within part) ∧ P v.2 where
  switched := by
    rintro _ w streaming last? ⟨⟨s, rfl⟩, holds⟩
    exact ⟨⟨{ s with streaming, tracker := { s.tracker with last? } }, rfl⟩, holds⟩
  feature := by
    rintro _ w t id limit timeoutMs given ⟨⟨s, rfl⟩, holds⟩
    obtain ⟨t₀, rfl⟩ := within_transport given
    exact ⟨⟨s, rfl⟩, apart _ _ holds⟩
  output := by
    rintro _ w t id bytes timeoutMs given ⟨⟨s, rfl⟩, holds⟩
    obtain ⟨t₀, rfl⟩ := within_transport given
    exact ⟨⟨s, rfl⟩, apart _ _ holds⟩

theorem process_within (config? : Option DeviceConfig) (timeoutMs : Int) {P : Ω → Prop}
    (apart : ∀ x w, P w → P (part.set x w)) :
    Preserves (fun v => (∃ s : Session ω, v.1 = s.within part) ∧ P v.2)
      (process config? timeoutMs) := by
  refine process_preserves ?tracked ?input ?delivery config?
  case tracked =>
    rintro _ w tracker ⟨⟨s, rfl⟩, holds⟩
    exact ⟨⟨{ s with tracker }, rfl⟩, holds⟩
  case input =>
    rintro _ w t given ⟨⟨s, rfl⟩, holds⟩
    obtain ⟨t₀, rfl⟩ := within_transport given
    exact ⟨⟨s, rfl⟩, apart _ _ holds⟩
  case delivery =>
    rintro _ w u uri authorization payload given ⟨⟨s, rfl⟩, holds⟩
    obtain ⟨u₀, rfl⟩ := within_uploader given
    exact ⟨⟨s, rfl⟩, apart _ _ holds⟩

end Part

end ChunkRelay.Session
