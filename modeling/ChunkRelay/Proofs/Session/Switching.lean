import ChunkRelay.Proofs.Device.Release
import ChunkRelay.Proofs.Device.StreamDebt
import ChunkRelay.Proofs.Session.Reached

/-! # What switches the stream

A session over a connection takes its stream to be as the latest control report says that the native
library did not refuse. The library answers how many bytes it has written, and every count that is
not negative passes: a report of which no byte was written, or no more than its id, counts like one
that was written whole.
-/

namespace ChunkRelay

open Act

/-- What a control report that the native library did not refuse switches to. -/
def NativeCall.switch? : NativeCall → Option Bool
  | write (id :: bytes) (.ok count) =>
    if id = 5 ∧ 0 ≤ count then (Codec.decodeControl bytes).toOption else none
  | _ => none

/-- What the latest of the control reports switches to. -/
def lastSwitch? (calls : List NativeCall) : Option Bool :=
  (calls.filterMap NativeCall.switch?).getLast?

theorem lastSwitch_append (calls more : List NativeCall) :
    lastSwitch? (calls ++ more) = (lastSwitch? more).or (lastSwitch? calls) := by
  rw [lastSwitch?, List.filterMap_append, List.getLast?_append]
  rfl

theorem lastSwitch_none {calls : List NativeCall} (quiet : ∀ call ∈ calls, call.switch? = none) :
    lastSwitch? calls = none := by
  rw [lastSwitch?, List.filterMap_eq_nil_iff.mpr quiet]
  rfl

/-- The native calls for a control report, and what the session answers. -/
inductive Told (enable : Bool) : List NativeCall → Except Failure Unit → Prop where
  | untold (cause : Cause) : Told enable [] (.error (.caused cause))
  | taken (count : Int) (passes : 0 ≤ count) :
      Told enable [Connection.controlCall enable (.ok count)] (.ok ())
  | rejected (count : Int) (negative : count < 0) (writable : Numeral.isWritable count = true) :
      Told enable [Connection.controlCall enable (.ok count)]
        (.error (.caused (.writeRejected ReportId.streamControl.code count)))
  | unwritable (count : Int) (negative : count < 0) (tooLong : Numeral.isWritable count = false) :
      Told enable [Connection.controlCall enable (.ok count)] (.error (.defect .numberTooLong))
  | failed (e : Failure) (other : e.isDeviceFault = false) :
      Told enable [Connection.controlCall enable (.error e)] (.error e)
  | lost (e : Failure) (fault : e.isDeviceFault = true) (closing : Except Failure Unit) :
      Told enable [Connection.controlCall enable (.error e), .close closing]
        (.error (Connection.surfacing closing
          (.caused (.writeFailed ReportId.streamControl.code e.message))))

/-- A negative count is told as long as it can be written. -/
theorem Told.negative (enable : Bool) {count : Int} (negative : count < 0) :
    Told enable [Connection.controlCall enable (.ok count)]
      (.error (.ofCause (.writeRejected ReportId.streamControl.code count))) := by
  cases writable : (Cause.writeRejected ReportId.streamControl.code count).isWritable with
  | true =>
      rw [Failure.ofCause_writable writable]
      exact .rejected count negative writable
  | false =>
      rw [Failure.ofCause_unwritable writable]
      exact .unwritable count negative writable

theorem Told.switches {enable : Bool} {calls : List NativeCall} {answer : Except Failure Unit}
    (told : Told enable calls answer) :
    lastSwitch? calls = if answer.isOk then some enable else none := by
  cases told with
  | taken count passes =>
      have decoded := Codec.decodeControl_encoded enable
      have switch : (Connection.controlCall enable (.ok count)).switch? = some enable := by
        rw [Connection.controlCall, NativeCall.switch?, if_pos ⟨rfl, passes⟩, decoded]
        rfl
      simp [lastSwitch?, switch, Except.isOk, Except.toBool]
  | rejected count negative | unwritable count negative =>
      have switch : (Connection.controlCall enable (.ok count)).switch? = none := by
        rw [Connection.controlCall, NativeCall.switch?, if_neg (by omega)]
      simp [lastSwitch?, switch, Except.isOk, Except.toBool]
  | untold | failed | lost => rfl

namespace Connection

variable {σ : Type} {lib : NativeLibrary σ} {v v' : Connection × Traced σ}

/-- Whatever the native library says to a control report, it says it in one call. A device that is
    gone costs the handle. -/
theorem writeOutput_told (lib : NativeLibrary σ) (enable : Bool) (v : Connection × Traced σ) :
    let o := run (writeOutput lib.traced ReportId.streamControl.code (Codec.encodeControl enable)) v
    ∃ calls, o.world.2.native = v.2.native ++ calls ∧
      Told enable calls (o.answer.map fun _ => ()) := by
  obtain ⟨c, t⟩ := v
  dsimp only
  rcases gated_cases c t "write_output" ReportId.streamControl.code with
    ⟨cause, refused⟩ | ⟨isOpen, asked⟩
  · rw [writeOutput, refused]
    exact ⟨[], (List.append_nil _).symm, .untold cause⟩
  · have isByte : 0 ≤ ReportId.streamControl.code ∧ ReportId.streamControl.code < 256 := by decide
    let call := lib.traced.write
      (UInt8.ofNat ReportId.streamControl.code.toNat :: Codec.encodeControl enable)
    have written : run (writeNative lib.traced ReportId.streamControl.code
        (Codec.encodeControl enable)) (c, t) = run (native call) (c, t) := by
      rw [writeNative, if_pos isByte]
    rw [run_native] at written
    rw [writeOutput, asked]
    -- A count is looked at only where the call has returned, so no count costs the handle.
    rcases guarded_cases lib.traced (.writeFailed ReportId.streamControl.code) written isOpen with
      ⟨harmless, kept⟩ | ⟨e, more, failed, fault, dropped⟩
    · have record : (call t).world.native = t.native ++ [controlCall enable (call t).answer] := rfl
      cases answered : (call t).answer with
      | error e =>
          rw [answered] at kept record
          rw [run_bind_error kept]
          exact ⟨_, record, .failed e (harmless e answered)⟩
      | ok count =>
          rw [answered] at kept record
          rw [run_bind_ok kept]
          by_cases negative : count < 0
          · rw [if_pos negative]
            exact ⟨_, record, .negative enable negative⟩
          · rw [if_neg negative]
            exact ⟨_, record, .taken count (Int.not_lt.mp negative)⟩
    · rw [run_bind_error dropped]
      refine ⟨_, ?_, .lost e fault (lib.close (call t).world.world).answer⟩
      have record : (call t).world.native = t.native ++ [controlCall enable (call t).answer] := rfl
      rw [failed] at record
      change (call t).world.native ++ _ = _
      rw [record, List.append_assoc]
      rfl

/-- What makes no call that switches the stream. -/
def Quietly (v v' : Connection × Traced σ) : Prop :=
  ∃ calls, v'.2.native = v.2.native ++ calls ∧ lastSwitch? calls = none

theorem Quietly.refl (v : Connection × Traced σ) : Quietly v v :=
  ⟨[], (List.append_nil _).symm, rfl⟩

theorem Handled.quietly {uses : NativeCall → Prop} (handled : Handled uses v v')
    (quiet : ∀ call, uses call → call.switch? = none) : Quietly v v' := by
  obtain ⟨calls, native, handling⟩ := handled.calls
  refine ⟨calls, native, lastSwitch_none ?_⟩
  generalize v.1.isOpen = held, v'.1.isOpen = held' at handling
  cases handling with
  | idle =>
      intro call member
      cases member
  | used all => exact fun call member => quiet call (all call member)
  | dropped closing all =>
      intro call member
      rcases List.mem_append.mp member with used | closes
      · exact quiet call (all call used)
      · rw [List.mem_singleton.mp closes]
        rfl

theorem readFeature_quietly (lib : NativeLibrary σ) (id limit : Int) (v : Connection × Traced σ) :
    Quietly v (run (readFeature lib.traced id limit) v).world := by
  refine (readFeature_handled id limit v).quietly ?_
  rintro _ ⟨answer, rfl⟩
  rfl

theorem listens_quiet (call : NativeCall) (listening : listens call) : call.switch? = none := by
  cases call <;> first | rfl | cases listening

theorem readInput_quietly (lib : NativeLibrary σ) (limit timeoutMs : Int)
    (v : Connection × Traced σ) : Quietly v (run (readInput lib.traced limit timeoutMs) v).world :=
  (readInput_handled limit timeoutMs v).quietly listens_quiet

theorem setNonblocking_quietly (lib : NativeLibrary σ) (nonblocking : Bool)
    (v : Connection × Traced σ) : Quietly v (run (setNonblocking lib.traced nonblocking) v).world :=
  (setNonblocking_handled nonblocking v).quietly listens_quiet

theorem openDevice_quietly (lib : NativeLibrary σ) (v : Connection × Traced σ) :
    Quietly v (run (openDevice lib.traced) v).world := by
  obtain ⟨c, t⟩ := v
  cases isOpen : c.isOpen with
  | true =>
      rw [openDevice_open isOpen]
      exact .refl _
  | false =>
      obtain ⟨t', _, ⟨notes, ran, native⟩ | ⟨e, notes, ran, native⟩⟩ :=
        openDevice_closed lib isOpen t
      · rw [ran]
        exact ⟨_, native, rfl⟩
      · rw [ran]
        rcases native with native | ⟨e', native⟩
        · exact ⟨[], native.trans (List.append_nil _).symm, rfl⟩
        · exact ⟨_, native, rfl⟩

theorem closeDevice_quietly (lib : NativeLibrary σ) (v : Connection × Traced σ) :
    Quietly v (run (closeDevice lib.traced) v).world := by
  obtain ⟨c, t⟩ := v
  cases isOpen : c.isOpen with
  | false =>
      rw [closeDevice_closed isOpen]
      exact .refl _
  | true =>
      obtain ⟨notes, ran⟩ := closeDevice_open lib.traced (s := t) isOpen
      rw [ran]
      exact ⟨[.close _], rfl, rfl⟩

end Connection

namespace Session

variable {ω : Type} {s : Session ω} {w w' : ω} {notes : List Note}

/-- Switch the stream on or off. -/
def switch (enable : Bool) : Act (Session ω × ω) Unit :=
  if enable then Session.enable else Session.disable

/-- A session whose stream has been switched. -/
def switched (enable : Bool) (s : Session ω) : Session ω :=
  { s with streaming := enable, tracker := if enable then s.tracker else s.tracker.reset }

/-- Switching the stream comes to what became of the control report. -/
theorem switch_run {enable : Bool} {answer : Except Failure Unit}
    (written : run (writeControl enable) (s, w) = ⟨answer, notes, (s, w')⟩) :
    ∃ more, run (switch enable) (s, w) =
      ⟨answer, more, (if answer.isOk then s.switched enable else s, w')⟩ := by
  cases enable with
  | true =>
      cases answer with
      | error e => exact ⟨_, enable_error written⟩
      | ok => exact ⟨_, enable_ok written⟩
  | false =>
      cases answer with
      | error e => exact ⟨_, disable_error written⟩
      | ok => exact ⟨_, disable_ok written⟩

end Session

namespace Switching

variable {σ ρ : Type} {lib : NativeLibrary σ}

/-- A connection with the calls of its native library on record, and what an uploader works on. -/
abbrev World (σ ρ : Type) : Type := (Connection × Traced σ) × ρ

abbrev State (σ ρ : Type) : Type := Session (World σ ρ) × World σ ρ

/-- The native calls so far. -/
def calls (v : State σ ρ) : List NativeCall := v.2.1.2.native

def transport (lib : NativeLibrary σ) : Transport (World σ ρ) :=
  (Connection.transport lib.traced).within .fst

/-- A new session over a closed connection. -/
def begun (lib : NativeLibrary σ) (u? : Option (Uploader ρ)) (address : DeviceAddress) (world : σ)
    (remote : ρ) : State σ ρ :=
  (.new (some (transport lib)) (u?.map (·.within .snd)),
    ((⟨address, false, false, none⟩, Traced.new world), remote))

/-- What can be done with a session and with its connection. -/
inductive Move where
  | operation (op : Session.Operation)
  | close
  | openDevice
  | closeDevice
  | setNonblocking (nonblocking : Bool)
  | setFilter (ids? : Option (List Int))

def onConnection (x : Act (Connection × Traced σ) Unit) : Act (State σ ρ) Unit :=
  Session.outside (x.within .fst)

def Move.act (lib : NativeLibrary σ) : Move → Act (State σ ρ) Unit
  | operation op => op.act
  | close => Session.close
  | openDevice => onConnection (Connection.openDevice lib.traced)
  | closeDevice => onConnection (Connection.closeDevice lib.traced)
  | setNonblocking nonblocking => onConnection (Connection.setNonblocking lib.traced nonblocking)
  | setFilter ids? => onConnection (Connection.update (Connection.setFilter ids?))

/-- Where moves lead to, be they successful or not. -/
def after (lib : NativeLibrary σ) (v : State σ ρ) (moves : List Move) : State σ ρ :=
  moves.foldl (fun v move => (run (move.act lib) v).world) v

/-- What every move keeps: since the start, the flag has gone as the control reports have. -/
structure Governed (lib : NativeLibrary σ) (start v : State σ ρ) : Prop where
  transport : v.1.transport? = some (transport lib)
  uploader : ∃ u? : Option (Uploader ρ), v.1.uploader? = u?.map (·.within .snd)
  steered : ∃ more, calls v = calls start ++ more ∧
    v.1.streaming = (lastSwitch? more).getD start.1.streaming

namespace Governed

variable {start : State σ ρ} {s s' : Session (World σ ρ)} {w w' : World σ ρ}

theorem given (governed : Governed lib start (s, w)) {t : Transport (World σ ρ)}
    (has : s.transport? = some t) : t = Switching.transport lib :=
  Option.some.inj (has.symm.trans governed.transport)

/-- The calls of a move are added to those before it. -/
theorem next (governed : Governed lib start (s, w)) (transport : s'.transport? = s.transport?)
    (uploader : s'.uploader? = s.uploader?) {more : List NativeCall}
    (native : w'.1.2.native = w.1.2.native ++ more)
    (streaming : s'.streaming = (lastSwitch? more).getD s.streaming) :
    Governed lib start (s', w') where
  transport := transport.trans governed.transport
  uploader := by
    obtain ⟨u?, given⟩ := governed.uploader
    exact ⟨u?, uploader.trans given⟩
  steered := by
    obtain ⟨before, native₀, streaming₀⟩ := governed.steered
    refine ⟨before ++ more, ?_, ?_⟩
    · rw [← List.append_assoc, ← native₀]
      exact native
    · rw [streaming, streaming₀, lastSwitch_append, Option.getD_or]

/-- What makes no call that switches the stream leaves the flag alone. -/
theorem quiet (governed : Governed lib start (s, w))
    (quietly : Connection.Quietly w.1 w'.1) : Governed lib start (s, w') := by
  obtain ⟨more, native, none⟩ := quietly
  exact governed.next rfl rfl native (by rw [none, Option.getD_none])

theorem tracking (governed : Governed lib start (s, w)) (tracker : Tracker) :
    Governed lib start ({ s with tracker }, w) :=
  governed.next rfl rfl (List.append_nil _).symm rfl

/-! ## Operations -/

theorem readFeature (id : ReportId) :
    Preserves (Governed lib start) (Session.readFeature id) := by
  apply Session.requireTransport_preserves
  intro s w t governed has
  rw [governed.given has]
  exact governed.quiet (Connection.readFeature_quietly lib _ _ w.1)

theorem handleInput (id : Int) (bytes : List UInt8) :
    Preserves (Governed lib start) (Session.handleInput id bytes) := by
  intro ⟨s, w⟩ governed
  rcases Session.handleInput_outcome s w id bytes with ⟨packet, record, taken⟩ | ⟨e, refused⟩
  · rw [taken]
    exact governed.tracking _
  · rw [refused]
    exact governed

theorem input (governed : Governed lib start (s, w)) {t : Transport (World σ ρ)}
    (has : s.transport? = some t) (limit timeoutMs : Int) :
    Governed lib start (s, (run (t.readInput limit timeoutMs) w).world) := by
  rw [governed.given has]
  exact governed.quiet (Connection.readInput_quietly lib _ _ w.1)

theorem delivery (governed : Governed lib start (s, w)) {u : Uploader (World σ ρ)}
    (has : s.uploader? = some u) (uri authorization : String) (payload : List UInt8) :
    Governed lib start (s, (run (u.deliver uri authorization payload) w).world) := by
  obtain ⟨u?, given⟩ := governed.uploader
  rw [has] at given
  obtain ⟨u₀, _, rfl⟩ := Option.map_eq_some_iff.mp given.symm
  exact governed.quiet (.refl w.1)

/-- A control report leaves the session alone, and nothing else is told to the device. -/
theorem writeControl (governed : Governed lib start (s, w)) (enable : Bool) :
    ∃ answer notes w' more, run (Session.writeControl enable) (s, w) = ⟨answer, notes, (s, w')⟩ ∧
      w'.1.2.native = w.1.2.native ++ more ∧ Told enable more answer := by
  obtain ⟨more, native, told⟩ := Connection.writeOutput_told lib enable w.1
  rcases ran : run (Connection.writeOutput lib.traced ReportId.streamControl.code
    (Codec.encodeControl enable)) w.1 with ⟨answer, notes, v⟩
  rw [ran] at native told
  have written : run ((Switching.transport lib).writeOutput ReportId.streamControl.code
      (Codec.encodeControl enable) Session.requestTimeoutMs) w = ⟨answer, notes, (v, w.2)⟩ :=
    run_within_of ran
  cases answer with
  | error e =>
      exact ⟨_, _, _, more, Session.writeControl_error governed.transport written, native, told⟩
  | ok count =>
      exact ⟨_, _, _, more, Session.writeControl_ok governed.transport written, native, told⟩

/-- Switching the stream comes to what the native library says to the control report. -/
theorem switch_told (governed : Governed lib start (s, w)) (enable : Bool) :
    let o := run (Session.switch enable) (s, w)
    ∃ more, calls o.world = calls (s, w) ++ more ∧ Told enable more o.answer ∧
      o.world.1 = if o.answer.isOk then s.switched enable else s := by
  obtain ⟨answer, notes, w', more, written, native, told⟩ := governed.writeControl enable
  obtain ⟨_, ran⟩ := Session.switch_run written
  rw [ran]
  exact ⟨more, native, told, rfl⟩

theorem switch (enable : Bool) : Preserves (Governed lib start) (Session.switch enable) := by
  intro ⟨s, w⟩ governed
  obtain ⟨answer, notes, w', more, written, native, told⟩ := governed.writeControl enable
  obtain ⟨_, ran⟩ := Session.switch_run written
  have switches := told.switches
  rw [ran]
  cases answer with
  | error e => exact governed.next rfl rfl native (by rw [switches]; rfl)
  | ok => exact governed.next rfl rfl native (by rw [switches]; rfl)

theorem close : Preserves (Governed lib start) Session.close := by
  refine Preserves.bind (fun _ governed => governed) fun s => ?_
  split
  · exact .pure _
  · have closed : Preserves (Governed lib start) (Session.update ({ · with closed := true })) :=
      .modify fun _ governed => governed.next rfl rfl (List.append_nil _).symm rfl
    refine closed.bind fun _ => ?_
    have forgotten : Preserves (Governed lib start)
        (Session.update fun s => { s with tracker := s.tracker.reset }) :=
      .modify fun _ governed => governed.tracking _
    have tried : Preserves (Governed lib start) (tryCatch Session.disable fun e =>
        log .warning .session ("STREAM_DISABLE_ON_CLOSE_FAILED err=" ++ e.message)) :=
      (switch false).tryCatch fun _ => .log _ _ _
    split
    · exact tried.bind fun _ => forgotten
    · exact forgotten

theorem operation (op : Session.Operation) :
    Preserves (Governed lib start) (op.act (ω := World σ ρ)) := by
  cases op with
  | readConfig => exact (Session.readConfig_preserves readFeature).discard
  | readFeatures => exact (Session.readFeatures_preserves readFeature).discard
  | readText report => exact (Session.readText_preserves readFeature report).discard
  | enable => exact switch true
  | disable => exact switch false
  | readPacket timeoutMs =>
      refine Preserves.discard (Preserves.bind (Session.readEvent_preserves ?_ ?_) fun _ => .pure _)
      · exact fun tracker governed => governed.tracking tracker
      · exact fun has governed => governed.input has _ _
  | handleInput id bytes => exact (handleInput id bytes).discard
  | forward config? packet? =>
      refine Preserves.discard (Session.forwardIfGiven_preserves ?_ config? packet?)
      exact fun uri authorization payload has governed =>
        governed.delivery has uri authorization payload
  | process config? timeoutMs =>
      refine Preserves.discard (Session.process_preserves ?_ ?_ ?_ config?)
      · exact fun tracker governed => governed.tracking tracker
      · exact fun has governed => governed.input has _ _
      · exact fun uri authorization payload has governed =>
          governed.delivery has uri authorization payload

theorem onConnection {x : Act (Connection × Traced σ) Unit}
    (quietly : ∀ v, Connection.Quietly v (run x v).world) :
    Preserves (Governed (ρ := ρ) lib start) (Switching.onConnection x) :=
  fun ⟨_, w⟩ governed => governed.quiet (quietly w.1)

theorem move (move : Move) : Preserves (Governed (ρ := ρ) lib start) (move.act lib) := by
  cases move with
  | operation op => exact operation op
  | close => exact close
  | openDevice => exact onConnection (Connection.openDevice_quietly lib)
  | closeDevice => exact onConnection (Connection.closeDevice_quietly lib)
  | setNonblocking nonblocking =>
      exact onConnection (Connection.setNonblocking_quietly lib nonblocking)
  | setFilter ids? => exact onConnection fun v => ⟨[], (List.append_nil _).symm, rfl⟩

theorem after {v : State σ ρ} (governed : Governed lib start v) (moves : List Move) :
    Governed lib start (after lib v moves) := by
  induction moves generalizing v with
  | nil => exact governed
  | cons move moves ih => exact ih (Governed.move move v governed)

/-- Every state that is governed can be taken for the start. -/
theorem here {v : State σ ρ} (governed : Governed lib start v) : Governed lib v v :=
  ⟨governed.transport, governed.uploader, [], (List.append_nil _).symm, rfl⟩

end Governed

theorem begun_governed (lib : NativeLibrary σ) (u? : Option (Uploader ρ)) (address : DeviceAddress)
    (world : σ) (remote : ρ) :
    Governed lib (begun lib u? address world remote) (begun lib u? address world remote) :=
  ⟨rfl, ⟨u?, rfl⟩, [], rfl, rfl⟩

/-- After any history the stream is taken to be as the latest control report says that the native
    library did not refuse. Every move changes the flag by such reports and in no other way, and
    switching succeeds just if there was one: otherwise it fails and leaves the session as it
    was. -/
theorem after_steered (lib : NativeLibrary σ) (u? : Option (Uploader ρ)) (address : DeviceAddress)
    (world : σ) (remote : ρ) (moves : List Move) :
    let v := after lib (begun lib u? address world remote) moves
    v.1.streaming = (lastSwitch? (calls v)).getD false ∧
    (∀ move : Move, let v' := (run (move.act lib) v).world
      ∃ more, calls v' = calls v ++ more ∧
        v'.1.streaming = (lastSwitch? more).getD v.1.streaming) ∧
    ∀ enable, let o := run (Session.switch enable) v
      ∃ more, calls o.world = calls v ++ more ∧ Told enable more o.answer ∧
        o.world.1 = if o.answer.isOk then v.1.switched enable else v.1 := by
  intro v
  have governed := (begun_governed lib u? address world remote).after moves
  refine ⟨?_, fun move => (Governed.move move v governed.here).steered,
    fun enable => governed.switch_told enable⟩
  obtain ⟨more, native, streaming⟩ := governed.steered
  rw [native]
  exact streaming

/-- A library that takes no more of a report than its id. -/
def curt : NativeLibrary Unit :=
  let done : Call Unit Unit := fun _ => ⟨.ok (), false, ()⟩
  { Connection.unplugged with close := done, write := fun _ _ => ⟨.ok 1, false, ()⟩ }

/-- A report of which only the id was written switches the stream on. -/
theorem id_alone_enables :
    let v := after curt (begun curt none ⟨.null, 1, 2, .null⟩ () ()) [.openDevice]
    let o := run (Session.switch true) v
    calls o.world = calls v ++ [.write [5, 1] (.ok 1)] ∧ o.answer = .ok () ∧
      v.1.streaming = false ∧ o.world.1.streaming = true :=
  ⟨rfl, rfl, rfl, rfl⟩

end Switching

end ChunkRelay
