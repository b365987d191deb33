import ChunkRelay.Proofs.Bench.Cleanup
import ChunkRelay.Proofs.Bridge.Steps

/-! # Who touches the accounts

Of all that happens on a bench only a delivery changes the counts of the uploader and the record of
what was sent, and it prints nothing. Whatever the device does, the connection and the context leave
both alone and print nothing either.
-/

namespace ChunkRelay

open Act

/-- The failures that a platform reports are none of the program's own, and nothing is printed by
    its clock. -/
structure Platform.Foreign {σ : Type} (p : Platform σ) : Prop where
  read : ∀ size timeoutMs? s e,
    (p.native.read size timeoutMs? s).answer = .error e → e.isOperational = false
  setNonblocking : ∀ nonblocking s e,
    (p.native.setNonblocking nonblocking s).answer = .error e → e.isOperational = false
  close : ∀ s e, (p.native.close s).answer = .error e → e.isOperational = false
  post : ∀ request s e, (p.http.post request s).answer = .error e → e.isOperational = false
  silent : ∀ s, printed (run p.clock s).notes = []

theorem Failure.isClass_foreign {e : Failure} (foreign : e.isOperational = false) (c : ErrorClass) :
    e.isClass c = false := by
  rw [isOperational, Option.isSome_eq_false_iff, Option.isNone_iff_eq_none] at foreign
  rw [isClass, foreign]

theorem Failure.mishap_foreign {e : Failure} (foreign : e.isOperational = false) :
    e.mishap? = none := by
  simp [mishap?, isClass_foreign foreign]

namespace Connection

variable {σ α : Type} {lib : NativeLibrary σ}

/-! ## Connections -/

section Apart

variable {R : List String → List HttpCall → Prop}

/-- A condition on what is printed and sent that is no concern of a connection. -/
def Apart (R : List String → List HttpCall → Prop) (lines : List String)
    (v : Connection × Traced σ) : Prop := R lines v.2.http

theorem native_apart (call : Call σ α) (enter : Except Failure α → NativeCall) :
    Upholds (Apart R) (native (call.asNative enter)) := by
  intro lines ⟨c, t⟩ holds
  rw [run_native, printed_stops, List.append_nil]
  exact holds

theorem state_apart : Upholds (Apart (σ := σ) R) state := Upholds.get.bind fun _ => .pure _

theorem update_apart (f : Connection → Connection) : Upholds (Apart (σ := σ) R) (update f) :=
  .modify fun _ _ holds => holds

theorem requireOpen_apart (operation : String) :
    Upholds (Apart (σ := σ) R) (requireOpen operation) := by
  refine state_apart.bind fun c => ?_
  split
  · exact .pure _
  · exact .fail _

theorem checkFilter_apart (id : Int) : Upholds (Apart (σ := σ) R) (checkFilter id) := by
  intro lines ⟨c, t⟩ holds
  rcases checkFilter_cases c t id with passes | ⟨allowed, refused⟩
  · rw [passes]
    simpa using holds
  · rw [refused]
    simpa using holds

theorem onDeviceFault_apart {x : Act (Connection × Traced σ) α}
    {handle : String → Act (Connection × Traced σ) α} (kept : Upholds (Apart R) x)
    (handled : ∀ reason, Upholds (Apart R) (handle reason)) :
    Upholds (Apart R) (onDeviceFault x handle) := by
  refine kept.tryCatch fun e => ?_
  split
  · exact handled _
  · exact .fail e

theorem dropHandle_apart : Upholds (Apart R) (dropHandle lib.traced) := by
  refine state_apart.bind fun c => ?_
  split
  · refine (update_apart _).bind fun _ => onDeviceFault_apart (native_apart _ _) fun _ => ?_
    exact .log _ _ _
  · exact .pure _

/-- Native calls after whose failure the handle is let go. -/
theorem guarded_apart {x : Act (Connection × Traced σ) α} (kept : Upholds (Apart R) x)
    (cause : String → Cause) : Upholds (Apart R) (onDeviceFault x fun reason => do
      dropHandle lib.traced
      Act.failWith (cause reason)) :=
  onDeviceFault_apart kept fun _ => dropHandle_apart.bind fun _ => .fail _

theorem readFeature_apart (id limit : Int) :
    Upholds (Apart R) (readFeature lib.traced id limit) := by
  refine (requireOpen_apart _).bind fun _ => (checkFilter_apart id).bind fun _ => ?_
  exact (guarded_apart (native_apart _ _) _).bind fun _ => .pure _

theorem writeOutput_apart (id : Int) (bytes : List UInt8) :
    Upholds (Apart R) (writeOutput lib.traced id bytes) := by
  have written : Upholds (Apart R) (writeNative lib.traced id bytes) := by
    rw [writeNative]
    split
    · exact native_apart _ _
    · exact .fail _
  refine (requireOpen_apart _).bind fun _ => (checkFilter_apart id).bind fun _ => ?_
  refine (guarded_apart written _).bind fun count => ?_
  split
  · exact .fail _
  · exact .pure _

theorem setNonblocking_apart (nonblocking : Bool) :
    Upholds (Apart R) (setNonblocking lib.traced nonblocking) := by
  refine (requireOpen_apart _).bind fun _ => ?_
  exact (onDeviceFault_apart (native_apart _ _) fun _ => .fail _).bind fun _ => update_apart _

theorem readInput_apart (limit timeoutMs : Int) :
    Upholds (Apart R) (readInput lib.traced limit timeoutMs) := by
  have heard : Upholds (Apart R) (readNative lib.traced limit timeoutMs) := by
    rw [readNative]
    split
    · exact native_apart _ _
    · refine state_apart.bind fun c => ?_
      split
      · exact (setNonblocking_apart _).bind fun _ => native_apart _ _
      · exact native_apart _ _
  refine (requireOpen_apart _).bind fun _ => (guarded_apart heard _).bind fun bytes => ?_
  cases bytes with
  | nil => exact .fail _
  | cons id rest => exact (checkFilter_apart _).bind fun _ => .pure _

theorem openDevice_apart (lib : NativeLibrary σ) :
    Upholds (Apart R) (openDevice lib.traced) := by
  have opened (address : DeviceAddress) : Upholds (Apart R) (openNative lib.traced address) := by
    rw [openNative]
    split
    · cases address.path with
      | text path => exact native_apart _ _
      | _ => exact .fail _
    · exact native_apart _ _
  refine state_apart.bind fun c => ?_
  split
  · exact .pure _
  · exact (onDeviceFault_apart (opened _) fun _ => .fail _).bind fun _ => update_apart _

theorem closeDevice_apart (lib : NativeLibrary σ) :
    Upholds (Apart R) (closeDevice lib.traced) := by
  refine state_apart.bind fun c => ?_
  split
  · exact Leads.followedBy (native_apart _ _) (update_apart _)
  · exact .pure _

end Apart

/-! ## Failures of input reports -/

section Fails

/-- Not a failure that would be taken for that of a delivery. -/
abbrev NoDelivery (e : Failure) : Prop := e.isClass .deliveryFailed = false

variable {p : Platform σ}

theorem native_fails {call : Call (Traced σ) α}
    (foreign : ∀ t e, (call t).answer = .error e → e.isOperational = false) :
    FailsAs NoDelivery (native call) :=
  fun v e failed => Failure.isClass_foreign (foreign v.2 e failed) _

theorem state_fails : FailsAs NoDelivery (state (σ := σ)) := FailsAs.get.bind fun _ => .pure _

theorem requireOpen_fails (operation : String) :
    FailsAs NoDelivery (requireOpen (σ := σ) operation) := by
  refine state_fails.bind fun c => ?_
  split
  · exact .pure _
  · exact .fail rfl

theorem onDeviceFault_fails {x : Act (Connection × σ) α}
    {handle : String → Act (Connection × σ) α} (first : FailsAs NoDelivery x)
    (handled : ∀ reason, FailsAs NoDelivery (handle reason)) :
    FailsAs NoDelivery (onDeviceFault x handle) := by
  refine first.tryCatch fun e other => ?_
  split
  · exact handled _
  · exact .fail other

theorem dropHandle_fails (foreign : p.Foreign) :
    FailsAs NoDelivery (dropHandle p.native.traced) := by
  refine state_fails.bind fun c => ?_
  split
  · refine (FailsAs.modify _).bind fun _ => onDeviceFault_fails ?_ fun _ => .log _ _ _
    exact native_fails fun t e => foreign.close t.world e
  · exact .pure _

theorem readNative_fails (foreign : p.Foreign) (limit timeoutMs : Int) :
    FailsAs NoDelivery (readNative p.native.traced limit timeoutMs) := by
  have read (timeoutMs? : Option Int) :
      FailsAs NoDelivery (native (p.native.traced.read (limit + 1) timeoutMs?)) :=
    native_fails fun t e => foreign.read _ _ t.world e
  have changed (nonblocking : Bool) :
      FailsAs NoDelivery (setNonblocking p.native.traced nonblocking) := by
    refine (requireOpen_fails _).bind fun _ => ?_
    refine FailsAs.bind (onDeviceFault_fails ?_ fun _ => .fail rfl) fun _ => .modify _
    exact native_fails fun t e => foreign.setNonblocking _ t.world e
  rw [readNative]
  split
  · exact read _
  · refine state_fails.bind fun c => ?_
    split
    · exact (changed _).bind fun _ => read _
    · exact read _

theorem readInput_fails (foreign : p.Foreign) (limit timeoutMs : Int) :
    FailsAs NoDelivery (readInput p.native.traced limit timeoutMs) := by
  refine (requireOpen_fails _).bind fun _ => ?_
  refine FailsAs.bind (onDeviceFault_fails (readNative_fails foreign limit timeoutMs) fun _ =>
    (dropHandle_fails foreign).bind fun _ => .fail rfl) fun bytes => ?_
  cases bytes with
  | nil => exact .fail (Failure.ofCause_isClass rfl)
  | cons id rest =>
      refine FailsAs.bind ?_ fun _ => .pure _
      intro ⟨c, t⟩ e failed
      rcases checkFilter_cases c t id.toNat with passes | ⟨allowed, refused⟩
      · rw [passes] at failed
        cases failed
      · rw [refused] at failed
        cases failed
        rfl

end Fails

end Connection

namespace Pipeline

variable {κ ω : Type}

theorem alone_yields {α : Type} {P : List String → ω → Prop}
    {P' : List String → Pipeline κ ω → Prop} {Q : α → List String → ω → Prop}
    {b : Bridge κ} {s : Session ω} {x : Act (Pipeline κ ω) α}
    (inside : Yields P' x fun a lines p => Q a lines p.world)
    (enter : ∀ lines w, P lines w → P' lines ⟨b, s, w⟩) : Yields P (alone b s x) Q := by
  intro lines w a notes w' holds ran
  rcases did : Act.run x ⟨b, s, w⟩ with ⟨answer, more, p⟩
  change (⟨(Act.run x ⟨b, s, w⟩).answer, (Act.run x ⟨b, s, w⟩).notes,
    (Act.run x ⟨b, s, w⟩).world.world⟩ : Outcome ω α) = _ at ran
  rw [did] at ran
  cases ran
  exact inside lines ⟨b, s, w⟩ a _ p (enter lines w holds) did

/-- A bridge that has counted nothing yet. -/
structure Blank (callbacks : List κ) (p : Pipeline κ ω) : Prop where
  callbacks : p.bridge.callbacks = callbacks
  packets : p.bridge.packets = 0
  bytes : p.bridge.bytes = 0
  deliveryFailures : p.bridge.deliveryFailures = 0

theorem start_blank (callbacks : List κ) : Preserves (Blank (ω := ω) callbacks) start := by
  have asked {α : Type} (x : Act (Session ω × ω) α) :
      Preserves (Blank callbacks) (viaSession x) := by
    intro ⟨b, s, w⟩ blank
    obtain ⟨stopping, heeded⟩ := b.heed_stopping (Act.run x (s, w)).notes
    rw [run_viaSession, heeded]
    exact ⟨blank.callbacks, blank.packets, blank.bytes, blank.deliveryFailures⟩
  have begun : Preserves (Blank (ω := ω) callbacks) (modify fun p =>
      { p with
        bridge := { p.bridge with
          stopping := false
          discontinuityBase := p.session.tracker.discontinuities } }) :=
    .modify fun _ blank => ⟨blank.callbacks, blank.packets, blank.bytes, blank.deliveryFailures⟩
  refine begun.bind fun _ => (asked _).bind fun config => ?_
  have configured : Preserves (Blank (ω := ω) callbacks)
      (update ({ · with config? := some config })) :=
    .modify fun _ blank => ⟨blank.callbacks, blank.packets, blank.bytes, blank.deliveryFailures⟩
  refine configured.bind fun _ => (asked _).bind fun _ => ?_
  exact (Preserves.log _ _ _).bind fun _ => .pure _

end Pipeline

namespace Bench

variable {σ α : Type} {p : Platform σ}

section Account

variable {R : List String → HttpUploader → List HttpCall → Prop}

/-- A condition on what is printed, on the uploader and on what is sent. -/
def Account (R : List String → HttpUploader → List HttpCall → Prop) (lines : List String)
    (b : Bench (Traced σ)) : Prop := R lines b.uploader b.platform.http

theorem connection_account {x : Act (Connection × Traced σ) α}
    (kept : ∀ R, Upholds (Connection.Apart R) x) : Upholds (Account R) (x.within connectionPart) :=
  fun lines b holds =>
    kept (fun lines http => R lines b.uploader http) lines (b.connection, b.platform) holds

theorem upkeep_account (p : Platform σ) :
    Session.Upkeep (transport p.traced) fun lines _ b => Account R lines b where
  regardless _ holds := holds
  feature _ id limit _ := connection_account fun _ => Connection.readFeature_apart id limit
  input _ limit timeoutMs := connection_account fun _ => Connection.readInput_apart limit timeoutMs
  control enable holds :=
    connection_account (fun _ => Connection.writeOutput_apart ReportId.streamControl.code
      (Codec.encodeControl enable)) _ _ holds

theorem log_account (level : Level) (message? : Option String) :
    Upholds (Account R) ((backend p.traced).log level message?) := by
  have noted : Upholds (Account (σ := σ) R) (message?.forM (Act.log level .context)) := by
    cases message? with
    | none => exact .pure _
    | some message => exact .log level .context message
  refine noted.bind fun _ => ?_
  cases p.traced.logRefusal? level with
  | none => exact .pure _
  | some defect => exact .fail _

/-! ## Contexts -/

/-- A condition on the same, in the surroundings of a context. -/
abbrev AccountOutside (R : List String → HttpUploader → List HttpCall → Prop) (lines : List String)
    (v : Context Unit × Bench (Traced σ)) : Prop := Account R lines v.2

theorem outside_account {x : Act (Bench (Traced σ)) α} (kept : Upholds (Account R) x) :
    Upholds (AccountOutside R) (Context.outside x) :=
  fun lines v holds => kept lines v.2 holds

theorem openSelected_account (selector : DeviceSelector) :
    Upholds (AccountOutside R) (Context.openSelected (backend p.traced) selector) := by
  have made : Upholds (Account R) ((backend p.traced).make selector) :=
    (Upholds.ofCause _).bind fun _ => .modify fun _ _ holds => holds
  refine (outside_account made).bind fun device => ?_
  have opened := connection_account (R := R) fun _ => Connection.openDevice_apart p.native
  refine (outside_account opened).bind fun _ => ?_
  refine Upholds.bind (.modify fun _ _ holds => holds) fun _ => ?_
  exact (outside_account (log_account _ _)).bind fun _ => .pure _

theorem openDevice_account (settings : Settings) :
    Upholds (AccountOutside R) (openDevice p.traced settings) := by
  have required (operation : String) :
      Upholds (AccountOutside (σ := σ) R) (Context.requireActive operation) := by
    refine (Upholds.get.bind fun _ => .pure _).bind fun c => ?_
    split
    · exact .pure _
    · exact .fail _
  rw [openDevice]
  by_cases byPath : (settings .devicePath).isSet = true
  · rw [if_pos byPath, Context.openPath]
    refine (required _).bind fun _ => ?_
    rw [if_pos byPath]
    exact openSelected_account _
  · rw [if_neg byPath]
    refine (integer_upholds _ _).bind fun _ => (integer_upholds _ _).bind fun _ => ?_
    exact (required _).bind fun _ => openSelected_account _

theorem teardown_account :
    Upholds (AccountOutside R) (Context.teardown (backend p.traced)) := by
  have closed := connection_account (R := R) fun _ => Connection.closeDevice_apart p.native
  have all (devices : List Unit) :
      Upholds (AccountOutside R) (Context.closeAll (backend p.traced) devices) := by
    induction devices with
    | nil => exact .pure _
    | cons device rest ih =>
        exact ((outside_account closed).tryCatch fun _ => outside_account (log_account _ _)).bind
          fun _ => ih
  refine (Upholds.get.bind fun _ => .pure _).bind fun c => ?_
  split
  · refine Upholds.bind (.modify fun _ _ holds => holds) fun _ => (all _).bind fun _ => ?_
    exact Upholds.bind (.modify fun _ _ holds => holds) fun _ => outside_account (log_account _ _)
  · exact .pure _

variable {Q : α → List String → HttpUploader → List HttpCall → Prop}

theorem withDevice_yields {x : Act (Bench (Traced σ)) α} (settings : Settings)
    (done : Yields (Account R) x fun a => Account (Q a)) :
    Yields (Account R) (withDevice p.traced settings x) fun a => Account (Q a) := by
  have begun : Upholds (Account R) (Context.init (backend p.traced)) :=
    (log_account _ _).bind fun _ => .pure _
  have inside : Yields (AccountOutside R)
      ((usingDevice p.traced settings x).followedBy (Context.teardown (backend p.traced)))
      fun a => AccountOutside (Q a) := by
    have used : Yields (AccountOutside R) (Context.outside x) fun a => AccountOutside (Q a) := by
      intro lines ⟨c, b⟩ a notes v holds ran
      rcases did : run x b with ⟨answer, more, b'⟩
      rw [Context.outside_run did] at ran
      cases ran
      exact done lines b a _ b' holds did
    exact ((openDevice_account settings).yields.bind fun _ => used).followedBy fun _ =>
      teardown_account
  exact begun.yields.bind fun context => .starting context inside

/-! ## Bridges and uploaders -/

/-- A bridge that has counted nothing yet, on a bench whose accounts are as the condition says. -/
structure Opening {κ : Type} (p : Platform σ) (callbacks : List κ)
    (R : List String → HttpUploader → List HttpCall → Prop) (lines : List String)
    (pipeline : Pipeline κ (Bench (Traced σ))) : Prop where
  blank : pipeline.Blank callbacks
  between : Bridged p.traced true (fun lines _ b => Account R lines b) lines pipeline

theorem inBridge_yields {κ : Type} {callbacks : List κ}
    {x : Act (Pipeline κ (Bench (Traced σ))) α} (settings : Settings)
    (done : Yields (Opening p callbacks R) x fun a =>
      Bridged p.traced true fun lines _ b => Account (Q a) lines b) :
    Yields (Account R) (inBridge p.traced settings true callbacks x) fun a => Account (Q a) := by
  have started : Yields (Opening p callbacks R) Pipeline.start fun _ => Opening p callbacks R := by
    intro lines pipeline config notes pipeline' opening ran
    have blank := Pipeline.start_blank callbacks pipeline opening.blank
    have between := Pipeline.start_upholds (upkeep_account p) lines pipeline opening.between
    rw [ran] at blank between
    exact ⟨blank, between⟩
  have pumped : Yields (Opening p callbacks R) (pumping x) fun a lines pipeline =>
      Account (Q a) lines pipeline.world := by
    have left : Yields (Opening p callbacks R) (x.followedBy Pipeline.leave) fun a =>
        Bridged p.traced true fun lines _ b => Account (Q a) lines b :=
      done.followedBy fun a => Pipeline.leave_upholds (upkeep_account p)
    exact (started.bind fun _ => left).followedBy fun a =>
      Pipeline.viaSession_leads (upkeep_account p).close
  refine (integer_upholds _ _).yields.bind fun readTimeoutMs => ?_
  exact Pipeline.alone_yields pumped fun _ _ holds =>
    ⟨⟨rfl, rfl, rfl, rfl⟩, rfl, rfl, rfl, holds⟩

theorem withUploader_yields {R : List String → List HttpCall → Prop} {x : Act (Bench (Traced σ)) α}
    (settings : Settings)
    (done : Yields (Account fun lines u http => u.stats = .zero ∧ R lines http) x
      fun a => Account (Q a))
    (closed : ∀ a lines u http answer, Q a lines u http → Q a lines u (http ++ [.close answer])) :
    Yields (Account fun lines _ http => R lines http) (withUploader p.traced settings x)
      fun a => Account (Q a) := by
  have made (timeoutMs : Int) (verbose : Bool) :
      Yields (Account (σ := σ) fun lines _ http => R lines http)
        (modify fun b => { b with uploader := .new timeoutMs verbose true })
        fun _ => Account fun lines u http => u.stats = .zero ∧ R lines http := by
    intro lines b _ _ _ holds ran
    cases ran
    rw [printed_nil, List.append_nil]
    exact ⟨rfl, holds⟩
  have left (a : α) : Upholds (Account (Q a))
      ((HttpUploader.close p.traced.http).within uploaderPart) := by
    intro lines b holds
    cases owns : b.uploader.ownsClient with
    | true =>
        rw [closeUploader_run b owns, printed_stops, List.append_nil]
        exact closed a lines b.uploader b.platform.http _ holds
    | false =>
        have kept : run (HttpUploader.close p.traced.http) (b.uploader, b.platform) =
            ⟨.ok (), [], (b.uploader, b.platform)⟩ := by
          rw [HttpUploader.close, run_bind_ok (run_get _), if_neg (by simp [owns])]
          rfl
        have unclosed : run ((HttpUploader.close p.traced.http).within uploaderPart) b =
            ⟨.ok (), [], b⟩ := run_within_same kept
        rw [unclosed, printed_nil, List.append_nil]
        exact holds
  refine (integer_upholds _ _).yields.bind fun timeoutMs => ?_
  exact (made _ _).bind fun _ => done.followedBy left

end Account

end Bench

end ChunkRelay
