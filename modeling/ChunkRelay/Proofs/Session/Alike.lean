import ChunkRelay.Proofs.Session.Operations

/-! # Transports that a session cannot tell apart

Two actions on worlds of their own are alike if they answer alike wherever these worlds match, and
leave worlds that match again. Failures of the program's own are alike if they are of the same class
and carry the same message. A session does not look behind that: over transports that are alike it
does the same.
-/

namespace ChunkRelay

/-- What a failure lets others see. Of the program's own errors this is the class and the message,
    not the details. -/
def Failure.face : Failure → (ErrorClass × String) ⊕ Failure
  | .caused cause => .inl (cause.errorClass, cause.message)
  | e => .inr e

def shown {α : Type} (answer : Except Failure α) : Except ((ErrorClass × String) ⊕ Failure) α :=
  answer.mapError Failure.face

theorem shown_map {α β : Type} (f : α → β) (answer : Except Failure α) :
    shown (answer.map f) = (shown answer).map f := by
  cases answer <;> rfl

namespace Act

variable {ω ω' α β : Type}

/-- The actions answer alike on worlds that match, and keep them matching. -/
def Alike (R : ω → ω' → Prop) (x : Act ω α) (y : Act ω' α) : Prop :=
  ∀ w w', R w w' → shown (run x w).answer = shown (run y w').answer ∧
    R (run x w).world (run y w').world

namespace Alike

variable {R : ω → ω' → Prop} {x : Act ω α} {y : Act ω' α}

theorem pure (a : α) : Alike R (Pure.pure a) (Pure.pure a) := fun _ _ holds => ⟨rfl, holds⟩

theorem fail (e : Failure) : Alike R (fail e : Act ω α) (fail e) := fun _ _ holds => ⟨rfl, holds⟩

theorem log (level : Level) (source : Source) (message : String) :
    Alike R (log level source message) (log level source message) := fun _ _ holds => ⟨rfl, holds⟩

theorem ofExcept (result : Except Failure α) : Alike R (ofExcept result) (ofExcept result) := by
  cases result with
  | ok a => exact .pure a
  | error e => exact .fail e

theorem modify {f : ω → ω} {g : ω' → ω'} (kept : ∀ {w w'}, R w w' → R (f w) (g w')) :
    Alike R (modify f) (modify g) := fun _ _ holds => ⟨rfl, kept holds⟩

theorem bind {f : α → Act ω β} {g : α → Act ω' β} (first : Alike R x y)
    (then_ : ∀ a, Alike R (f a) (g a)) : Alike R (x >>= f) (y >>= g) := by
  intro w w' holds
  obtain ⟨same, kept⟩ := first w w' holds
  rcases left : run x w with ⟨answer, notes, v⟩
  rcases right : run y w' with ⟨answer', more, v'⟩
  rw [left, right] at same kept
  cases answer with
  | error e =>
      cases answer' with
      | error e' =>
          rw [run_bind_error left, run_bind_error right]
          exact ⟨congrArg Except.error (Except.error.inj same), kept⟩
      | ok a' => cases same
  | ok a =>
      cases answer' with
      | error e' => cases same
      | ok a' =>
          obtain rfl : a = a' := Except.ok.inj same
          rw [run_bind_ok left, run_bind_ok right]
          exact then_ a v v' kept

theorem map (f : α → β) (alike : Alike R x y) : Alike R (f <$> x) (f <$> y) := by
  rw [map_eq_pure_bind, map_eq_pure_bind]
  exact alike.bind fun _ => .pure _

end Alike

end Act

open Act

variable {ω ω' : Type}

/-- Transports between which a session cannot choose: they answer its requests alike. -/
structure Transport.Alike (R : ω → ω' → Prop) (t : Transport ω) (t' : Transport ω') : Prop where
  feature : ∀ id : ReportId, id.kind = .feature →
    Act.Alike R (t.readFeature id.code id.limit Session.requestTimeoutMs)
      (t'.readFeature id.code id.limit Session.requestTimeoutMs)
  control : ∀ enable,
    Act.Alike R (t.writeOutput ReportId.streamControl.code (Codec.encodeControl enable)
        Session.requestTimeoutMs)
      (t'.writeOutput ReportId.streamControl.code (Codec.encodeControl enable)
        Session.requestTimeoutMs)
  input : ∀ timeoutMs, 0 < timeoutMs →
    Act.Alike R (t.readInput ReportId.streamData.limit timeoutMs)
      (t'.readInput ReportId.streamData.limit timeoutMs)

def Uploader.Alike (R : ω → ω' → Prop) (u : Uploader ω) (u' : Uploader ω') : Prop :=
  ∀ uri authorization payload,
    Act.Alike R (u.deliver uri authorization payload) (u'.deliver uri authorization payload)

namespace Session

/-- Sessions in the same state, each with collaborators of its own in a world of its own. -/
structure Twin (R : ω → ω' → Prop) (v : Session ω × ω) (v' : Session ω' × ω') : Prop where
  transport : ∃ t t', v.1.transport? = some t ∧ v'.1.transport? = some t' ∧ t.Alike R t'
  uploader : Option.Rel (Uploader.Alike R) v.1.uploader? v'.1.uploader?
  tracker : v.1.tracker = v'.1.tracker
  streaming : v.1.streaming = v'.1.streaming
  closed : v.1.closed = v'.1.closed
  world : R v.2 v'.2

namespace Twin

variable {R : ω → ω' → Prop} {α : Type}

theorem outside {x : Act ω α} {y : Act ω' α} (alike : Act.Alike R x y) :
    Act.Alike (Twin R) (outside x) (outside y) := by
  intro ⟨s, w⟩ ⟨s', w'⟩ twin
  obtain ⟨same, world⟩ := alike w w' twin.world
  exact ⟨same, { twin with world }⟩

theorem requireTransport {f : Transport ω → Act (Session ω × ω) α}
    {g : Transport ω' → Act (Session ω' × ω') α} (operation : String)
    (alike : ∀ t t', t.Alike R t' → Act.Alike (Twin R) (f t) (g t')) :
    Act.Alike (Twin R) (requireTransport operation >>= f) (requireTransport operation >>= g) := by
  intro ⟨s, w⟩ ⟨s', w'⟩ twin
  obtain ⟨t, t', given, given', same⟩ := twin.transport
  rw [run_bind_ok (requireTransport_some given _), run_bind_ok (requireTransport_some given' _)]
  exact alike t t' same _ _ twin

theorem readFeature (id : ReportId) (kind : id.kind = .feature) :
    Act.Alike (Twin R) (readFeature id) (readFeature id) :=
  requireTransport _ fun _ _ same => outside (same.feature id kind)

theorem readConfig : Act.Alike (Twin R) readConfig readConfig := by
  have text (id : ReportId) (kind : id.kind = .feature) :
      Act.Alike (Twin R) (readText id) (readText id) :=
    (readFeature id kind).bind fun _ => .ofExcept _
  refine ((readFeature _ rfl).bind fun _ => .ofExcept _).bind fun _ => (text _ rfl).bind fun _ => ?_
  refine (text _ rfl).bind fun _ => (text _ rfl).bind fun _ => ?_
  exact (Act.Alike.log _ _ _).bind fun _ => .pure _

theorem writeControl (enable : Bool) :
    Act.Alike (Twin R) (writeControl enable) (writeControl enable) :=
  requireTransport _ fun _ _ same => (outside (same.control enable)).bind fun _ => .pure _

theorem enable : Act.Alike (Twin R) enable enable := by
  refine (writeControl true).bind fun _ => Act.Alike.bind ?_ fun _ => .log _ _ _
  exact .modify fun twin => { twin with streaming := rfl }

theorem disable : Act.Alike (Twin R) disable disable := by
  refine (writeControl false).bind fun _ => Act.Alike.bind ?_ fun _ => .log _ _ _
  exact .modify fun twin =>
    { twin with streaming := rfl, tracker := congrArg Tracker.reset twin.tracker }

theorem handleInput (id : Int) (bytes : List UInt8) :
    Act.Alike (Twin R) (handleInput id bytes) (handleInput id bytes) := by
  intro ⟨s, w⟩ ⟨s', w'⟩ twin
  have tracker : s.tracker = s'.tracker := twin.tracker
  cases accepted : accept id bytes with
  | error cause =>
      rw [handleInput_refused accepted, handleInput_refused accepted]
      exact ⟨rfl, twin⟩
  | ok packet =>
      obtain ⟨record, handled⟩ := handleInput_accepted (s := s) (w := w) accepted
      obtain ⟨record', handled'⟩ := handleInput_accepted (s := s') (w := w') accepted
      rw [handled, handled']
      refine ⟨?_, { twin with tracker := ?_ }⟩
      · rw [event, event, tracker]
      · simp only [taken, tracker]

theorem readEvent {timeoutMs : Int} (positive : 0 < timeoutMs) :
    Act.Alike (Twin R) (readEvent timeoutMs) (readEvent timeoutMs) :=
  requireTransport _ fun _ _ same => (outside (same.input timeoutMs positive)).bind fun
    (id, bytes) => handleInput id bytes

theorem readPacket {timeoutMs : Int} (positive : 0 < timeoutMs) :
    Act.Alike (Twin R) (readPacket timeoutMs) (readPacket timeoutMs) :=
  (readEvent positive).bind fun _ => .pure _

theorem forward (config : DeviceConfig) (packet : StreamPacket) :
    Act.Alike (Twin R) (forward config packet) (forward config packet) := by
  intro ⟨s, w⟩ ⟨s', w'⟩ twin
  have uploaders := twin.uploader
  rcases given : s.uploader? with _ | u <;> rcases given' : s'.uploader? with _ | u' <;>
    simp only [given, given'] at uploaders
  · rw [forward_none given, forward_none given']
    exact ⟨rfl, twin⟩
  · cases uploaders
  · cases uploaders
  · cases uploaders with
    | some alike =>
        obtain ⟨same, world⟩ := alike config.dataUri config.authorization packet.payload w w'
          twin.world
        rcases left : run (u.deliver config.dataUri config.authorization packet.payload) w with
          ⟨answer, notes, v⟩
        rcases right : run (u'.deliver config.dataUri config.authorization packet.payload) w' with
          ⟨answer', more, v'⟩
        rw [left, right] at same world
        rw [forward_some given left, forward_some given' right]
        refine ⟨?_, { twin with world }⟩
        rw [shown_map, shown_map, same]

theorem process (config : DeviceConfig) {timeoutMs : Int} (positive : 0 < timeoutMs) :
    Act.Alike (Twin R) (process (some config) timeoutMs) (process (some config) timeoutMs) :=
  (readEvent positive).bind fun _ => (forward config _).bind fun _ => .pure _

end Twin

end Session

end ChunkRelay
