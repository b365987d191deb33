import ChunkRelay.Proofs.Session.Exchanges
import ChunkRelay.Proofs.Tracker

/-! # The states that a session reaches

A session is taken through any course of its operations, over a transport and with uploaders that
answer and fail as they like, while others may change the world at any time. In every state that it
reaches, its stream is on exactly if the latest control report that was written says so, and an
operation that fails leaves the session as it was. The one exception is a packet that cannot be
delivered: it has been taken in and stays taken in.
-/

namespace ChunkRelay.Session

open Act

variable {ω : Type}

/-- The operations that may fail. -/
inductive Operation where
  | readConfig
  | readFeatures
  | readText (report : ReportId)
  | enable
  | disable
  | readPacket (timeoutMs : Int)
  | handleInput (id : Int) (bytes : List UInt8)
  | forward (config? : Option DeviceConfig) (packet? : Option StreamPacket)
  | process (config? : Option DeviceConfig) (timeoutMs : Int)

def Operation.act : Operation → Act (Session ω × ω) Unit
  | readConfig => discard Session.readConfig
  | readFeatures => discard Session.readFeatures
  | readText report => discard (Session.readText report)
  | enable => Session.enable
  | disable => Session.disable
  | readPacket timeoutMs => discard (Session.readPacket timeoutMs)
  | handleInput id bytes => discard (Session.handleInput id bytes)
  | forward config? packet? => discard (Session.forwardIfGiven config? packet?)
  | process config? timeoutMs => discard (Session.process config? timeoutMs)

/-- What can happen to a session. -/
inductive Move (ω : Type) where
  | operation (op : Operation)
  | close
  | updateLastSequence (n : Int)
  | setUploader (uploader? : Option (Uploader ω))
  /-- Something else is done with the world, which the record does not show. -/
  | meanwhile (x : Act ω Unit)

def Move.act : Move ω → Act (Session (Recorded ω) × Recorded ω) Unit
  | operation op => op.act
  | close => Session.close
  | updateLastSequence n => update (Session.updateLastSequence n)
  | setUploader uploader? => update (Session.setUploader (uploader?.map Uploader.recorded))
  | meanwhile x => outside (x.within Recorded.part)

/-- A new session with its exchanges on record. -/
def unused (t? : Option (Transport ω)) (u? : Option (Uploader ω)) (w : ω) :
    Session (Recorded ω) × Recorded ω :=
  (.new (t?.map Transport.recorded) (u?.map Uploader.recorded), ⟨w, []⟩)

/-- Where moves lead to. -/
def after (start : Session (Recorded ω) × Recorded ω) (moves : List (Move ω)) :
    Session (Recorded ω) × Recorded ω :=
  moves.foldl (fun w move => (run move.act w).world) start

/-- What every move keeps. -/
structure Sound (t? : Option (Transport ω)) (w : Session (Recorded ω) × Recorded ω) : Prop where
  transport : w.1.transport? = t?.map Transport.recorded
  uploader : ∃ u? : Option (Uploader ω), w.1.uploader? = u?.map Uploader.recorded
  streaming : w.1.streaming = switchedOn w.2.exchanges
  without : t? = none → w.1.streaming = false

namespace Sound

variable {t? : Option (Transport ω)} {s s' : Session (Recorded ω)} {r r' : Recorded ω}

theorem of_unused (t? : Option (Transport ω)) (u? : Option (Uploader ω)) (w : ω) :
    Sound t? (unused t? u? w) := ⟨rfl, ⟨u?, rfl⟩, rfl, fun _ => rfl⟩

/-- The recorded transport, where there is one. -/
theorem given (sound : Sound t? (s, r)) {t : Transport (Recorded ω)}
    (has : s.transport? = some t) : ∃ t₀ : Transport ω, t? = some t₀ ∧ t = t₀.recorded := by
  have transport := sound.transport
  rw [has] at transport
  cases t? with
  | none => cases transport
  | some t₀ => exact ⟨t₀, rfl, Option.some.inj transport⟩

/-- What neither switches the stream nor writes a control report may change at any time. -/
theorem quiet (sound : Sound t? (s, r)) (transport : s'.transport? = s.transport?)
    (uploader : s'.uploader? = s.uploader?) (streaming : s'.streaming = s.streaming)
    (record : switchedOn r'.exchanges = switchedOn r.exchanges) : Sound t? (s', r') where
  transport := transport.trans sound.transport
  uploader := by
    obtain ⟨u?, given⟩ := sound.uploader
    exact ⟨u?, uploader.trans given⟩
  streaming := (streaming.trans sound.streaming).trans record.symm
  without missing := streaming.trans (sound.without missing)

theorem tracking (sound : Sound t? (s, r)) (tracker : Tracker) :
    Sound t? ({ s with tracker }, r) := sound.quiet rfl rfl rfl rfl

/-! ## Operations -/

theorem readFeature (id : ReportId) : Preserves (Sound t?) (readFeature id) := by
  apply requireTransport_preserves
  intro s r t sound has
  obtain ⟨t₀, _, rfl⟩ := sound.given has
  exact sound.quiet rfl rfl rfl (switchedOn_quiet _ rfl)

theorem handleInput (id : Int) (bytes : List UInt8) :
    Preserves (Sound t?) (handleInput id bytes) := by
  intro ⟨s, r⟩ sound
  rcases handleInput_outcome s r id bytes with ⟨packet, record, taken⟩ | ⟨e, refused⟩
  · rw [taken]
    exact sound.tracking _
  · rw [refused]
    exact sound

theorem input (sound : Sound t? (s, r)) {t : Transport (Recorded ω)}
    (has : s.transport? = some t) (limit timeoutMs : Int) :
    Sound t? (s, (run (t.readInput limit timeoutMs) r).world) := by
  obtain ⟨t₀, _, rfl⟩ := sound.given has
  exact sound.quiet rfl rfl rfl (switchedOn_quiet _ rfl)

theorem delivery (sound : Sound t? (s, r)) {u : Uploader (Recorded ω)}
    (has : s.uploader? = some u) (uri authorization : String) (payload : List UInt8) :
    Sound t? (s, (run (u.deliver uri authorization payload) r).world) := by
  obtain ⟨u?, given⟩ := sound.uploader
  rw [has] at given
  obtain ⟨u₀, _, rfl⟩ := Option.map_eq_some_iff.mp given.symm
  exact sound.quiet rfl rfl rfl (switchedOn_quiet _ rfl)

theorem readEvent (timeoutMs : Int) : Preserves (Sound t?) (readEvent timeoutMs) :=
  readEvent_preserves (fun tracker sound => sound.tracking tracker)
    fun has sound => sound.input has _ _

theorem forwardIfGiven (config? : Option DeviceConfig) (packet? : Option StreamPacket) :
    Preserves (Sound t?) (forwardIfGiven config? packet?) :=
  forwardIfGiven_preserves (fun uri authorization payload has sound =>
    sound.delivery has uri authorization payload) config? packet?

theorem process (config? : Option DeviceConfig) (timeoutMs : Int) :
    Preserves (Sound t?) (process config? timeoutMs) :=
  process_preserves (fun tracker sound => sound.tracking tracker)
    (fun has sound => sound.input has _ _)
    (fun uri authorization payload has sound => sound.delivery has uri authorization payload)
    config?

/-- A control report counts if it was written and only then. -/
theorem writeControl (sound : Sound t? (s, r)) (enable : Bool) :
    (∃ e notes r', run (writeControl enable) (s, r) = ⟨.error e, notes, (s, r')⟩ ∧
      switchedOn r'.exchanges = switchedOn r.exchanges) ∨
    ∃ notes r', run (Session.writeControl enable) (s, r) = ⟨.ok (), notes, (s, r')⟩ ∧
      switchedOn r'.exchanges = enable ∧ t? ≠ none := by
  cases has : s.transport? with
  | none => exact Or.inl ⟨_, _, r, writeControl_none has, rfl⟩
  | some t =>
      obtain ⟨t₀, some_t₀, rfl⟩ := sound.given has
      have written := run_recorded (.output ReportId.streamControl.code
        (Codec.encodeControl enable) requestTimeoutMs) (t₀.writeOutput ReportId.streamControl.code
        (Codec.encodeControl enable) requestTimeoutMs) r
      cases answer : (run (t₀.writeOutput ReportId.streamControl.code
          (Codec.encodeControl enable) requestTimeoutMs) r.world).answer with
      | error e =>
          rw [answer] at written
          exact Or.inl ⟨e, _, _, writeControl_error has written, switchedOn_quiet _ rfl⟩
      | ok count =>
          rw [answer] at written
          refine Or.inr ⟨_, _, writeControl_ok has written, ?_, by rw [some_t₀]; nofun⟩
          rw [switchedOn_append, switch_written]
          rfl

theorem enable : Preserves (Sound t?) enable := by
  intro ⟨s, r⟩ sound
  rcases sound.writeControl true with
    ⟨e, notes, r', refused, kept⟩ | ⟨notes, r', written, on, some_t⟩
  · rw [enable_error refused]
    exact sound.quiet rfl rfl rfl kept
  · rw [enable_ok written]
    exact ⟨sound.transport, sound.uploader, on.symm, fun missing => absurd missing some_t⟩

theorem disable : Preserves (Sound t?) disable := by
  intro ⟨s, r⟩ sound
  rcases sound.writeControl false with
    ⟨e, notes, r', refused, kept⟩ | ⟨notes, r', written, off, _⟩
  · rw [disable_error refused]
    exact sound.quiet rfl rfl rfl kept
  · rw [disable_ok written]
    exact ⟨sound.transport, sound.uploader, off.symm, fun _ => rfl⟩

theorem close : Preserves (Sound t?) close := by
  refine Preserves.bind (fun _ sound => sound) fun s => ?_
  split
  · exact .pure _
  · have closed : Preserves (Sound t?) (update ({ · with closed := true })) :=
      .modify fun _ sound => sound.quiet rfl rfl rfl rfl
    refine closed.bind fun _ => ?_
    have forgotten : Preserves (Sound t?)
        (update fun s => { s with tracker := s.tracker.reset }) :=
      .modify fun _ sound => sound.tracking _
    have tried : Preserves (Sound t?) (tryCatch Session.disable fun e =>
        log .warning .session ("STREAM_DISABLE_ON_CLOSE_FAILED err=" ++ e.message)) :=
      disable.tryCatch fun _ => .log _ _ _
    split
    · exact tried.bind fun _ => forgotten
    · exact forgotten

theorem operation (op : Operation) : Preserves (Sound t?) (op.act (ω := Recorded ω)) := by
  cases op with
  | readConfig => exact (readConfig_preserves readFeature).discard
  | readFeatures => exact (readFeatures_preserves readFeature).discard
  | readText report => exact (readText_preserves readFeature report).discard
  | enable => exact enable
  | disable => exact disable
  | readPacket timeoutMs => exact ((readEvent timeoutMs).bind fun _ => .pure _).discard
  | handleInput id bytes => exact (handleInput id bytes).discard
  | forward config? packet? => exact (forwardIfGiven config? packet?).discard
  | process config? timeoutMs => exact (process config? timeoutMs).discard

theorem move (move : Move ω) : Preserves (Sound t?) move.act := by
  cases move with
  | operation op => exact operation op
  | close => exact close
  | updateLastSequence n => exact .modify fun _ sound => sound.tracking _
  | setUploader uploader? =>
      exact .modify fun _ sound =>
        ⟨sound.transport, ⟨uploader?, rfl⟩, sound.streaming, sound.without⟩
  | meanwhile x => exact fun _ sound => sound.quiet rfl rfl rfl rfl

theorem after {w : Session (Recorded ω) × Recorded ω} (sound : Sound t? w)
    (moves : List (Move ω)) : Sound t? (after w moves) := by
  induction moves generalizing w with
  | nil => exact sound
  | cons move moves ih => exact ih (Sound.move move w sound)

end Sound

/-! ## Failures -/

/-- The event of the packet that an operation takes in before it hands it over. -/
def Operation.takenFirst? (w : Session ω × ω) : Operation → Option PacketEvent
  | process (some _) timeoutMs => (run (Session.readEvent timeoutMs) w).answer.toOption
  | _ => none

/-- The exchange in which an operation hands a packet over in vain. -/
def Operation.vainDelivery? (packet : StreamPacket) (e : Failure) : Operation → Option Exchange
  | process (some config) _ =>
    some (.delivery config.dataUri config.authorization packet.payload (.error e))
  | _ => none

section Failing

variable {s : Session ω} {w : ω} {e : Failure}

theorem readFeature_state (id : ReportId) : Preserves (fun v => v.1 = s) (readFeature id) :=
  requireTransport_preserves fun _ _ _ same _ => same

theorem forwardIfGiven_state (config? : Option DeviceConfig) (packet? : Option StreamPacket) :
    Preserves (fun v => v.1 = s) (forwardIfGiven (ω := ω) config? packet?) :=
  forwardIfGiven_preserves (fun _ _ _ _ same => same) config? packet?

theorem enable_failed (failed : (run enable (s, w)).answer = .error e) :
    (run enable (s, w)).world.1 = s := by
  obtain ⟨answer, notes, w', written⟩ := writeControl_outcome s w true
  cases answer with
  | error _ => rw [enable_error written]
  | ok _ =>
      rw [enable_ok written] at failed
      cases failed

theorem disable_failed (failed : (run disable (s, w)).answer = .error e) :
    (run disable (s, w)).world.1 = s := by
  obtain ⟨answer, notes, w', written⟩ := writeControl_outcome s w false
  cases answer with
  | error _ => rw [disable_error written]
  | ok _ =>
      rw [disable_ok written] at failed
      cases failed

theorem handleInput_failed {id : Int} {bytes : List UInt8}
    (failed : (run (discard (handleInput id bytes)) (s, w)).answer = .error e) :
    (run (discard (handleInput id bytes)) (s, w)).world.1 = s := by
  rw [run_discard] at failed ⊢
  rcases handleInput_outcome s w id bytes with ⟨packet, record, taken⟩ | ⟨_, refused⟩
  · rw [taken] at failed
    cases failed
  · rw [refused]

theorem readPacket_failed {timeoutMs : Int}
    (failed : (run (discard (readPacket timeoutMs)) (s, w)).answer = .error e) :
    (run (discard (readPacket timeoutMs)) (s, w)).world.1 = s := by
  rw [run_discard, readPacket_run] at failed ⊢
  rcases readEvent_outcome s w timeoutMs with ⟨packet, notes, w', taken⟩ | ⟨_, notes, w', unheard⟩
  · rw [taken] at failed
    cases failed
  · rw [unheard]

end Failing

variable {t? : Option (Transport ω)} {s : Session (Recorded ω)} {r : Recorded ω} {e : Failure}

/-- A process call that fails has taken in no packet, or it has failed to deliver the one that it
    took in. -/
theorem Sound.process_failed (sound : Sound t? (s, r)) {config : DeviceConfig} {timeoutMs : Int}
    (failed : (run (Session.process (some config) timeoutMs) (s, r)).answer = .error e) :
    let left := (run (Session.process (some config) timeoutMs) (s, r)).world
    match (run (Session.readEvent timeoutMs) (s, r)).answer with
    | .error _ => left.1 = s
    | .ok event => left.1 = s.taken event.packet ∧ left.2.exchanges.getLast? =
        some (.delivery config.dataUri config.authorization event.packet.payload (.error e)) := by
  intro left
  rcases readEvent_outcome s r timeoutMs with ⟨packet, notes, r', taken⟩ | ⟨_, notes, r', unheard⟩
  · obtain ⟨u?, given⟩ := sound.uploader
    cases u? with
    | none =>
        rw [process_ok taken (forward_none (s := s.taken packet) given packet)] at failed
        cases failed
    | some u =>
        obtain ⟨answer, more, w, forwarded⟩ :=
          forward_recorded (s := s.taken packet) given config packet r'
        have processed := process_ok taken forwarded
        rw [processed] at failed
        cases answer with
        | ok status => cases failed
        | error refusal =>
            cases failed
            simp only [left, processed, taken]
            exact ⟨rfl, List.getLast?_concat⟩
  · simp only [left, process_error unheard, unheard]

theorem Sound.failed (sound : Sound t? (s, r)) (op : Operation)
    (failed : (run op.act (s, r)).answer = .error e) :
    let left := (run op.act (s, r)).world
    match op.takenFirst? (s, r) with
    | none => left.1 = s
    | some event => left.1 = s.taken event.packet ∧
        left.2.exchanges.getLast? = op.vainDelivery? event.packet e := by
  cases op with
  | readConfig => exact (readConfig_preserves readFeature_state).discard (s, r) rfl
  | readFeatures => exact (readFeatures_preserves readFeature_state).discard (s, r) rfl
  | readText report => exact (readText_preserves readFeature_state report).discard (s, r) rfl
  | enable => exact enable_failed failed
  | disable => exact disable_failed failed
  | readPacket timeoutMs => exact readPacket_failed failed
  | handleInput id bytes => exact handleInput_failed failed
  | forward config? packet? => exact (forwardIfGiven_state config? packet?).discard (s, r) rfl
  | process config? timeoutMs =>
      cases config? with
      | none => rfl
      | some config =>
          have left := sound.process_failed (discard_failed failed)
          rw [Operation.act, run_discard]
          rw [Operation.takenFirst?]
          cases read : (run (Session.readEvent timeoutMs) (s, r)).answer with
          | error _ =>
              rw [read] at left
              exact left
          | ok event =>
              rw [read] at left
              exact left

/-- Whatever was done before, the stream is on exactly if the latest control report that was written
    switched it on, and a failure leaves the session as it was but for the packet that could not be
    delivered. -/
theorem reached_sound (t? : Option (Transport ω)) (u? : Option (Uploader ω)) (world : ω)
    (moves : List (Move ω)) :
    let w := after (unused t? u? world) moves
    (∀ n, w.1.tracker.last? = some n → n.val ≤ 31) ∧
    w.1.streaming = switchedOn w.2.exchanges ∧
    (t? = none → w.1.streaming = false) ∧
    ∀ (op : Operation) (e : Failure), (run op.act w).answer = .error e →
      let left := (run op.act w).world
      match op.takenFirst? w with
      | none => left.1 = w.1
      | some event => left.1 = w.1.taken event.packet ∧
          left.2.exchanges.getLast? = op.vainDelivery? event.packet e := by
  intro w
  have sound : Sound t? w := (Sound.of_unused t? u? world).after moves
  refine ⟨?_, sound.streaming, sound.without, ?_⟩
  · intro n _
    exact Nat.le_of_lt_succ n.isLt
  · intro op e failed
    exact sound.failed op failed

/-- A device that sends the same packet again and again. -/
def beacon : Transport Unit where
  openDevice := pure ()
  closeDevice := pure ()
  isOpen _ := true
  readFeature _ _ _ := pure []
  writeOutput _ bytes _ := pure bytes.length
  readInput _ _ := pure (6, [0xE3, 7])

/-- An uploader that never delivers anything. -/
def refusing : Uploader Unit where
  deliver uri _ payload := Act.failWith (.httpStatus 503 uri payload.length)

/-- The session keeps track of a packet that is refused, and stays switched on. -/
theorem reached_sound_refused :
    let w := after (unused (some beacon) (some refusing) ()) [.operation .enable]
    let op := Operation.process (some ⟨0, "", "uri", ""⟩) 0
    (run op.act w).answer = .error (.caused (.httpStatus 503 "uri" 1)) ∧
      w.1.tracker.last? = none ∧ (run op.act w).world.1.tracker.last? = some 3 ∧
      (run op.act w).world.1.streaming = true := by
  intro w op
  have writable : (Cause.httpStatus 503 "uri" 1).isWritable = true :=
    Numeral.isWritable_small (by decide)
  have failed : (run op.act w).answer = .error (.caused (.httpStatus 503 "uri" 1)) := by
    rw [← Failure.ofCause_writable writable]
    rfl
  have left := (reached_sound (some beacon) (some refusing) () [.operation .enable]).2.2.2 op _
    failed
  obtain ⟨event, taken⟩ : ∃ event, op.takenFirst? w = some event :=
    Option.isSome_iff_exists.mp (by rfl)
  rw [taken] at left
  refine ⟨failed, rfl, ?_, ?_⟩
  · have third : event.packet.sequence = 3 := by
      cases taken
      rfl
    rw [left.1, Session.taken, Tracker.see_last, third]
  · rw [left.1]
    rfl

end ChunkRelay.Session
