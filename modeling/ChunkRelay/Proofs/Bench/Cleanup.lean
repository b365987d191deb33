import ChunkRelay.Bench
import ChunkRelay.Proofs.Context
import ChunkRelay.Proofs.Device.StreamDebt
import ChunkRelay.Proofs.Upload.Http

/-! # How a bench is left

Between the opening of a device and the end of its context a bench takes on one debt at most: that
of a stream that is on. Closing the session pays it, and the context closes the device after that.
Neither of them, nor the bridge, puts a failure of its own in the place of one that is on its way.
-/

namespace ChunkRelay

namespace HttpUploader

variable {σ : Type} {client : HttpClient σ} {payload : List UInt8} {u : HttpUploader} {t : Traced σ}
  {answer : Except Failure Int} {w : HttpUploader × Traced σ}

/-- A delivery changes no more of the uploader than its counts, and it closes nothing. -/
theorem Delivered.aside (delivered : Delivered client payload u t answer w) :
    w.2.native = t.native ∧ w.2.http.countP HttpCall.closes = t.http.countP HttpCall.closes ∧
      w.1.ownsClient = u.ownsClient := by
  have posted (request : PostRequest) :
      (client.traced.post request t).world.http.countP HttpCall.closes =
        t.http.countP HttpCall.closes := by
    simp [HttpClient.traced, Call.asHttp, HttpCall.closes]
  cases delivered with
  | refused => exact ⟨rfl, rfl, rfl⟩
  | uploaded | rejected | untold | unanswered | broken => exact ⟨rfl, posted _, rfl⟩

end HttpUploader

namespace Bench

open Act

variable {σ α : Type} {p : Platform σ}

/-- A bench that knows whether its device is owed anything. -/
structure Tidy (streaming : Bool) (b : Bench (Traced σ)) : Prop where
  tended : Connection.Tended (b.connection, b.platform)
  known : owed b.platform.native = true → streaming = true
  unclosed : b.platform.http.countP HttpCall.closes = 0
  owns : b.uploader.ownsClient = true

variable {streaming : Bool} {b : Bench (Traced σ)}

theorem Tidy.freely (tidy : Tidy streaming b) {v : Connection × Traced σ}
    (free : Connection.Freely (connectionPart.get b) v) :
    Tidy streaming (connectionPart.set v b) where
  tended := free.tended
  known owing := tidy.known (free.owed owing)
  unclosed := (congrArg (List.countP HttpCall.closes) free.http).trans tidy.unclosed
  owns := tidy.owns

theorem Tidy.aside (tidy : Tidy streaming b) {u : HttpUploader} {t : Traced σ}
    (native : t.native = b.platform.native)
    (unclosed : t.http.countP HttpCall.closes = b.platform.http.countP HttpCall.closes)
    (owns : u.ownsClient = b.uploader.ownsClient) :
    Tidy streaming { b with uploader := u, platform := t } where
  tended := by
    refine ⟨?_, ?_, tidy.tended.unfiltered⟩
    · change Orderly t.native b.connection.isOpen
      rw [native]
      exact tidy.tended.order
    · change Careful t.native
      rw [native]
      exact tidy.tended.careful
  known := by
    change owed t.native = true → _
    rw [native]
    exact tidy.known
  unclosed := unclosed.trans tidy.unclosed
  owns := owns.trans tidy.owns

theorem upkeep_tidy (p : Platform σ) :
    Session.Upkeep (transport p.traced) fun _ streaming b => Tidy streaming b where
  regardless := by
    intro _ b streaming tidy
    exact { tidy with known := fun owing => absurd (tidy.known owing) Bool.false_ne_true }
  feature := by
    intro streaming id limit timeoutMs _ b tidy
    exact tidy.freely (Connection.readFeature_freely id limit tidy.tended)
  input := by
    intro streaming limit timeoutMs _ b tidy
    exact tidy.freely (Connection.readInput_freely limit timeoutMs tidy.tended)
  control := by
    intro _ streaming b enable tidy
    rcases ran : run (Connection.writeOutput p.native.traced ReportId.streamControl.code
      (Codec.encodeControl enable)) (connectionPart.get b) with ⟨answer, notes, v⟩
    have controlled := Connection.writeControl_controlled enable tidy.tended ran
    have written : run ((transport p.traced).writeOutput ReportId.streamControl.code
        (Codec.encodeControl enable) Session.requestTimeoutMs) b =
        ⟨answer, notes, connectionPart.set v b⟩ := run_within_of ran
    dsimp only
    rw [written]
    refine ⟨controlled.tended, ?_, ?_, tidy.owns⟩
    · intro owing
      obtain ⟨enables, before | ⟨count, accepted⟩⟩ := controlled.owed owing
      · simp [enables, tidy.known before]
      · simp [enables, accepted, Except.isOk, Except.toBool]
    · exact (congrArg (List.countP HttpCall.closes) controlled.http).trans tidy.unclosed

theorem deliver_tidy (p : Platform σ) (uri authorization : String) (payload : List UInt8) :
    Upholds (fun _ b => Tidy (σ := σ) streaming b)
      ((httpUploader p.traced).deliver uri authorization payload) := by
  intro _ b tidy
  obtain ⟨answer, notes, w, ran, delivered, _⟩ :=
    HttpUploader.deliver_delivered p.http uri authorization payload b.uploader b.platform
  obtain ⟨native, unclosed, owns⟩ := delivered.aside
  have outcome : run ((httpUploader p.traced).deliver uri authorization payload) b =
      ⟨answer, notes, uploaderPart.set w b⟩ := run_within_of ran
  rw [outcome]
  exact tidy.aside native unclosed owns

theorem clock_tidy (p : Platform σ) :
    Upholds (fun _ b => Tidy (σ := σ) streaming b) (p.traced.clock.within platformPart) := by
  intro _ b tidy
  exact tidy.aside rfl rfl rfl

/-! ## Bridges -/

/-- The session that a bench makes for a bridge. -/
def bridged (p : Platform σ) (uploads : Bool) : Session (Bench σ) :=
  Session.new (some (transport p)) (if uploads then some (httpUploader p) else none)

/-- A bridge whose session is between the parts of its bench. -/
abbrev Bridged {κ : Type} (p : Platform σ) (uploads : Bool)
    (R : List String → Bool → Bench σ → Prop) : List String → Pipeline κ (Bench σ) → Prop :=
  Pipeline.Beside (Session.Between (transport p)
    (if uploads then some (httpUploader p) else none) false R)

theorem pumping_leads {κ : Type} {uploads : Bool} {R : List String → Bool → Bench σ → Prop}
    (upkeep : Session.Upkeep (transport p) R) {x : Act (Pipeline κ (Bench σ)) α}
    (kept : Upholds (Bridged p uploads R) x) :
    Leads (Bridged p uploads R) (pumping x) fun lines pipeline => R lines false pipeline.world := by
  have body : Upholds (Bridged p uploads R) (do
      let _ ← Pipeline.start
      x.followedBy Pipeline.leave) :=
    (Pipeline.start_upholds upkeep).bind fun _ => kept.followedBy (Pipeline.leave_upholds upkeep)
  exact Leads.followedBy body (Pipeline.viaSession_leads upkeep.close)

theorem pumping_answer {κ : Type} (x : Act (Pipeline κ (Bench σ)) α)
    (pipeline : Pipeline κ (Bench σ)) : (run (pumping x) pipeline).answer =
      (run (do
        let _ ← Pipeline.start
        x) pipeline).answer := by
  rw [pumping, followedBy_answer]
  · apply answer_bind_congr
    intro _ pipeline'
    apply followedBy_answer
    intro e failed
    rw [Pipeline.leave_answer] at failed
    cases failed
  · intro e failed
    change (run Session.close _).answer = .error e at failed
    rw [Session.close_answer] at failed
    cases failed

theorem integer_upholds {ω : Type} (P : List String → ω → Prop) (value : Data) :
    Upholds P (integer value) := by
  rw [integer]
  cases value.integer with
  | ok n => exact .pure n
  | error refusal => exact .fail _

/-- A bridge on the open device that is not left. -/
def bareBridge {κ : Type} (p : Platform σ) (settings : Settings) (uploads : Bool)
    (callbacks : List κ) (x : Act (Pipeline κ (Bench σ)) α) : Act (Bench σ) α := do
  let readTimeoutMs ← integer (settings .readTimeoutMs)
  let bridge : Bridge κ := .new readTimeoutMs
  Pipeline.alone { bridge with callbacks } (bridged p uploads) do
    let _ ← Pipeline.start
    x

theorem inBridge_answer {κ : Type} (settings : Settings) (uploads : Bool) (callbacks : List κ)
    (x : Act (Pipeline κ (Bench σ)) α) (b : Bench σ) :
    (run (inBridge p settings uploads callbacks x) b).answer =
      (run (bareBridge p settings uploads callbacks x) b).answer := by
  apply answer_bind_congr
  intro readTimeoutMs b'
  exact pumping_answer x _

theorem inBridge_leads {κ : Type} {uploads : Bool} {R : List String → Bool → Bench σ → Prop}
    (upkeep : Session.Upkeep (transport p) R) {x : Act (Pipeline κ (Bench σ)) α}
    (kept : Upholds (Bridged p uploads R) x) (settings : Settings) (callbacks : List κ) :
    Upholds (fun lines b => R lines false b) (inBridge p settings uploads callbacks x) := by
  refine (integer_upholds _ _).bind fun readTimeoutMs => ?_
  intro lines b around
  exact pumping_leads upkeep kept lines _ ⟨rfl, rfl, rfl, around⟩

/-! ## Contexts -/

theorem Tidy.replaced (tidy : Tidy false b) (isClosed : b.connection.isOpen = false)
    (address : DeviceAddress) :
    Tidy false { b with connection := ⟨address, false, false, none⟩ } where
  tended := by
    refine ⟨?_, tidy.tended.careful, rfl⟩
    have order := tidy.tended.order
    rw [Connection.InOrder, isClosed] at order
    exact order
  known := tidy.known
  unclosed := tidy.unclosed
  owns := tidy.owns

/-- What comes of writing a log record. -/
def logAnswer (p : Platform σ) (level : Level) : Except Failure Unit :=
  match p.logRefusal? level with
  | some defect => .error (.defect defect)
  | none => .ok ()

theorem log_run (p : Platform σ) (level : Level) (message? : Option String)
    (b : Bench (Traced σ)) :
    ∃ notes, run ((backend p.traced).log level message?) b = ⟨logAnswer p level, notes, b⟩ := by
  simp only [backend, Platform.traced, logAnswer]
  cases message? <;> cases p.logRefusal? level <;> exact ⟨_, rfl⟩

/-- What becomes of a context that opens a device: it fails and has none, or it keeps track of one
    and fails only if the log does. -/
inductive Selected (p : Platform σ) (c : Context Unit) :
    Except Failure Unit → Context Unit × Bench (Traced σ) → Prop where
  | failed {b : Bench (Traced σ)} (e : Failure) (tidy : Tidy false b)
      (isClosed : b.connection.isOpen = false) : Selected p c (.error e) (c, b)
  | opened {b : Bench (Traced σ)} (tidy : Tidy false b) :
      Selected p c (logAnswer p .info) ({ c with tracked := c.tracked ++ [()] }, b)

theorem make_cases (p : Platform σ) (selector : DeviceSelector) (b : Bench σ) :
    (∃ cause, run ((backend p).make selector) b = ⟨.error (.caused cause), [], b⟩) ∨
      run ((backend p).make selector) b =
        ⟨.ok (), [], { b with connection := ⟨selector.address, false, false, none⟩ }⟩ := by
  simp only [backend, Connection.new]
  split
  · exact Or.inl ⟨_, rfl⟩
  · exact Or.inr rfl

theorem openSelected_selected (selector : DeviceSelector) (c : Context Unit)
    (tidy : Tidy false b) (isClosed : b.connection.isOpen = false) :
    ∃ answer notes w, run (Context.openSelected (backend p.traced) selector) (c, b) =
      ⟨answer, notes, w⟩ ∧ Selected p c answer w := by
  rw [Context.openSelected]
  rcases make_cases p.traced selector b with ⟨cause, refused⟩ | made
  · rw [run_bind_error (Context.outside_run refused)]
    exact ⟨_, _, _, rfl, .failed _ tidy isClosed⟩
  · rw [run_bind_ok (Context.outside_run made)]
    have replaced := tidy.replaced isClosed selector.address
    obtain ⟨free, unopened⟩ := Connection.openDevice_freely p.native replaced.tended rfl
    rcases ran : run (Connection.openDevice p.native.traced)
      (⟨selector.address, false, false, none⟩, b.platform) with ⟨answer, notes, v⟩
    rw [ran] at free unopened
    have tidy' := replaced.freely free
    have opened : run (Context.outside ((backend p.traced).openDevice ()))
        (c, { b with connection := ⟨selector.address, false, false, none⟩ }) =
        ⟨answer, notes, (c, connectionPart.set v b)⟩ :=
      Context.outside_run (run_within_of ran)
    cases answer with
    | error e =>
        rw [run_bind_error opened]
        exact ⟨_, _, _, rfl, .failed e tidy' (unopened e rfl)⟩
    | ok =>
        obtain ⟨more, logged⟩ := log_run p .info selector.openedMessage? (connectionPart.set v b)
        rw [run_bind_ok opened, run_bind_ok (Context.run_update _), bind_pure_unit,
          Context.outside_run logged]
        exact ⟨_, _, _, rfl, .opened tidy'⟩

theorem openDevice_selected (settings : Settings) {c : Context Unit} (active : c.active = true)
    (tidy : Tidy false b) (isClosed : b.connection.isOpen = false) :
    ∃ answer notes w, run (openDevice p.traced settings) (c, b) = ⟨answer, notes, w⟩ ∧
      Selected p c answer w := by
  have required (operation : String) :
      run (Context.requireActive operation) (c, b) = ⟨.ok (), [], (c, b)⟩ := by
    rw [Context.requireActive, run_bind_ok Context.run_state, if_pos active]
    rfl
  rw [openDevice]
  by_cases byPath : (settings .devicePath).isSet = true
  · rw [if_pos byPath, Context.openPath, run_bind_ok (required _), if_pos byPath]
    exact openSelected_selected _ c tidy isClosed
  · rw [if_neg byPath, integer, integer]
    cases (settings .vendor).integer with
    | error refusal => exact ⟨_, _, _, rfl, .failed _ tidy isClosed⟩
    | ok vendor =>
        cases (settings .product).integer with
        | error refusal => exact ⟨_, _, _, rfl, .failed _ tidy isClosed⟩
        | ok product =>
            rw [pure_bind, pure_bind, Context.openIds, run_bind_ok (required _)]
            exact openSelected_selected _ c tidy isClosed

/-- A device that is owed nothing is closed, and what is in the way of that is logged. -/
theorem closeDevice_logged (p : Platform σ) (device : Unit) (c : Context Unit)
    (tidy : Tidy false b) : ∃ answer notes b',
      run (tryCatch (Context.outside ((backend p.traced).closeDevice device)) fun _ =>
        Context.outside ((backend p.traced).log .error "HID_TRANSPORT_CLOSE_FAILED")) (c, b) =
        ⟨answer, notes, (c, b')⟩ ∧ Tidy false b' ∧ b'.connection.isOpen = false ∧
      ∀ e, answer = .error e → logAnswer p .error = .error e := by
  have unowed : owed b.platform.native = false := by
    rw [Bool.eq_false_iff]
    exact fun owing => Bool.false_ne_true (tidy.known owing)
  obtain ⟨free, closed⟩ := Connection.closeDevice_freely p.native tidy.tended unowed
  rcases ran : run (Connection.closeDevice p.native.traced) (b.connection, b.platform) with
    ⟨answer, notes, v⟩
  rw [ran] at free closed
  have tidy' : Tidy false (connectionPart.set v b) := tidy.freely free
  have left : run (Context.outside ((backend p.traced).closeDevice device)) (c, b) =
      ⟨answer, notes, (c, connectionPart.set v b)⟩ := Context.outside_run (run_within_of ran)
  rw [run_tryCatch, left]
  cases answer with
  | ok => exact ⟨_, _, _, rfl, tidy', closed, nofun⟩
  | error e =>
      obtain ⟨more, logged⟩ := log_run p .error "HID_TRANSPORT_CLOSE_FAILED"
        (connectionPart.set v b)
      dsimp only
      rw [Context.outside_run logged]
      exact ⟨_, _, _, rfl, tidy', closed, fun e failed => failed⟩

theorem closeAll_closed (devices : List Unit) (c : Context Unit) (tidy : Tidy false b)
    (isClosed : devices = [] → b.connection.isOpen = false) :
    ∃ answer notes b', run (Context.closeAll (backend p.traced) devices) (c, b) =
        ⟨answer, notes, (c, b')⟩ ∧ Tidy false b' ∧ b'.connection.isOpen = false ∧
      ∀ e, answer = .error e → devices ≠ [] ∧ logAnswer p .error = .error e := by
  induction devices generalizing b with
  | nil => exact ⟨_, _, _, rfl, tidy, isClosed rfl, nofun⟩
  | cons device rest ih =>
      obtain ⟨answer, _, b', closing, tidy', closed, failing⟩ := closeDevice_logged p device c tidy
      rw [Context.closeAll]
      cases answer with
      | error e =>
          rw [run_bind_error closing]
          refine ⟨_, _, _, rfl, tidy', closed, ?_⟩
          rintro _ ⟨⟩
          exact ⟨List.cons_ne_nil _ _, failing e rfl⟩
      | ok =>
          -- All devices of a bench are its one connection, so the rest finds nothing left to close.
          obtain ⟨answer, _, b'', others, tidy'', closed', failing'⟩ := ih tidy' fun _ => closed
          rw [run_bind_ok closing, others]
          refine ⟨_, _, _, rfl, tidy'', closed', ?_⟩
          intro e failed
          exact ⟨List.cons_ne_nil _ _, (failing' e failed).2⟩

/-- A context before it is torn down: the device is closed unless the context keeps track of it. -/
structure Kept (v : Context Unit × Bench (Traced σ)) : Prop where
  tidy : Tidy false v.2
  active : v.1.active = true
  isClosed : v.1.tracked = [] → v.2.connection.isOpen = false

theorem teardown_closed {c : Context Unit} (kept : Kept (c, b)) :
    ∃ answer notes c' b', run (Context.teardown (backend p.traced)) (c, b) =
        ⟨answer, notes, (c', b')⟩ ∧ Tidy false b' ∧ b'.connection.isOpen = false ∧
      ∀ e, answer = .error e → logAnswer p .debug = .error e ∨
        c.tracked ≠ [] ∧ logAnswer p .error = .error e := by
  obtain ⟨answer, notes, b', closing, tidy', isClosed', failing⟩ :=
    closeAll_closed (p := p) c.tracked { c with active := false } kept.tidy kept.isClosed
  rw [Context.teardown, run_bind_ok Context.run_state, if_pos kept.active,
    run_bind_ok (Context.run_update _)]
  cases answer with
  | error e =>
      rw [run_bind_error closing]
      refine ⟨_, _, _, _, rfl, tidy', isClosed', ?_⟩
      rintro _ ⟨⟩
      exact Or.inr (failing e rfl)
  | ok =>
      obtain ⟨more, logged⟩ := log_run p .debug "HID_CONTEXT_TEARDOWN" b'
      rw [run_bind_ok closing, run_bind_ok (Context.run_update _), Context.outside_run logged]
      exact ⟨_, _, _, _, rfl, tidy', isClosed', fun e failed => Or.inl failed⟩

/-- Something done with the device that settings select, in a context that is not torn down. -/
def usingDevice (p : Platform σ) (settings : Settings) (x : Act (Bench σ) α) :
    Act (Context Unit × Bench σ) α := do
  openDevice p settings
  Context.outside x

/-- Something done with the device that settings select, which is not closed after it. -/
def bareDevice (p : Platform σ) (settings : Settings) (x : Act (Bench σ) α) : Act (Bench σ) α := do
  let context ← Context.init (backend p)
  Act.starting context do
    openDevice p settings
    Context.outside x

/-- What is left of a context before it is torn down. If it keeps track of a device, an error is in
    the way of its log just in case it is in the way of what was to be done. -/
theorem usingDevice_left (settings : Settings) {x : Act (Bench (Traced σ)) α}
    (kept : ∀ {b}, Tidy false b → Tidy false (run x b).world) (tidy : Tidy false b)
    (isClosed : b.connection.isOpen = false) :
    ∃ answer notes v, run (usingDevice p.traced settings x) (⟨true, []⟩, b) =
        ⟨answer, notes, v⟩ ∧ Kept v ∧
      ∀ e, v.1.tracked ≠ [] → logAnswer p .info = .error e → answer = .error e := by
  obtain ⟨answer, notes, w, opened, selected⟩ :=
    openDevice_selected (p := p) settings (c := ⟨true, []⟩) rfl tidy isClosed
  rw [usingDevice]
  cases selected with
  | failed e tidy' isClosed' =>
      rw [run_bind_error opened]
      exact ⟨_, _, _, rfl, ⟨tidy', rfl, fun _ => isClosed'⟩, fun _ tracked => absurd rfl tracked⟩
  | @opened b' tidy' =>
      cases logged : logAnswer p .info with
      | error e =>
          rw [logged] at opened
          rw [run_bind_error opened]
          refine ⟨_, _, _, rfl, ⟨tidy', rfl, nofun⟩, ?_⟩
          rintro _ _ ⟨⟩
          rfl
      | ok =>
          rw [logged] at opened
          rw [run_bind_ok opened]
          exact ⟨_, _, _, rfl, ⟨kept tidy', rfl, nofun⟩, nofun⟩

theorem init_cases (p : Platform σ) (b : Bench (Traced σ)) :
    (∃ e notes, run (Context.init (backend p.traced)) b = ⟨.error e, notes, b⟩) ∨
    logAnswer p .debug = .ok () ∧
      ∃ notes, run (Context.init (backend p.traced)) b = ⟨.ok ⟨true, []⟩, notes, b⟩ := by
  obtain ⟨notes, logged⟩ := log_run p .debug "HID_CONTEXT_INIT" b
  rw [Context.init]
  cases written : logAnswer p .debug with
  | error e =>
      rw [written] at logged
      exact Or.inl ⟨e, _, run_bind_error logged⟩
  | ok =>
      rw [written] at logged
      exact Or.inr ⟨rfl, _, run_bind_ok logged⟩

variable {x y : Act (Bench (Traced σ)) α}

theorem withDevice_left (settings : Settings)
    (kept : ∀ {b}, Tidy false b → Tidy false (run x b).world) (tidy : Tidy false b)
    (isClosed : b.connection.isOpen = false) :
    let b' := (run (withDevice p.traced settings x) b).world
    Tidy false b' ∧ b'.connection.isOpen = false := by
  dsimp only
  rw [withDevice, inContext]
  rcases init_cases p b with ⟨e, notes, refused⟩ | ⟨_, notes, begun⟩
  · rw [run_bind_error refused]
    exact ⟨tidy, isClosed⟩
  · rw [run_bind_ok begun]
    have used : Leads (fun _ v => v = (⟨true, []⟩, b)) (usingDevice p.traced settings x)
        fun _ => Kept := by
      rintro _ _ rfl
      obtain ⟨answer, _, v, ran, keeping, _⟩ :=
        usingDevice_left (p := p) settings kept tidy isClosed
      rw [ran]
      exact keeping
    have torn : Leads (fun _ => Kept) (Context.teardown (backend p.traced))
        fun _ v => Tidy false v.2 ∧ v.2.connection.isOpen = false := by
      rintro _ ⟨c, b'⟩ keeping
      obtain ⟨answer, _, c', b'', ran, tidy', isClosed', _⟩ := teardown_closed keeping
      rw [ran]
      exact ⟨tidy', isClosed'⟩
    exact Leads.followedBy used torn [] _ rfl

theorem withDevice_answer (settings : Settings) (logs : logAnswer p .error = logAnswer p .info)
    (kept : ∀ {b}, Tidy false b → Tidy false (run x b).world)
    (same : ∀ b, (run x b).answer = (run y b).answer) (tidy : Tidy false b)
    (isClosed : b.connection.isOpen = false) :
    (run (withDevice p.traced settings x) b).answer =
      (run (bareDevice p.traced settings y) b).answer := by
  rw [withDevice, inContext, bareDevice]
  rcases init_cases p b with ⟨e, notes, refused⟩ | ⟨logged, notes, begun⟩
  · rw [run_bind_error refused, run_bind_error refused]
  · rw [run_bind_ok begun, run_bind_ok begun]
    have used : (run (usingDevice p.traced settings x) (⟨true, []⟩, b)).answer =
        (run (usingDevice p.traced settings y) (⟨true, []⟩, b)).answer := by
      apply answer_bind_congr
      intro _ v
      exact same v.2
    have surfaced : (run ((usingDevice p.traced settings x).followedBy
        (Context.teardown (backend p.traced))) (⟨true, []⟩, b)).answer =
        (run (usingDevice p.traced settings x) (⟨true, []⟩, b)).answer := by
      apply followedBy_answer
      intro e failed
      obtain ⟨answer, _, ⟨c', b'⟩, ran, keeping, refusing⟩ :=
        usingDevice_left (p := p) settings kept tidy isClosed
      rw [ran] at failed ⊢
      obtain ⟨_, _, _, _, tore, _, _, failing⟩ := teardown_closed (p := p) keeping
      rw [tore] at failed
      -- A log that could be written to at the start can be written to at the end. One that takes no
      -- report of a failed closing took none of the opening either, and that has surfaced.
      rcases failing e failed with debug | ⟨tracked, error⟩
      · rw [logged] at debug
        cases debug
      · exact refusing e tracked (logs ▸ error)
    exact surfaced.trans used

/-! ## Uploaders -/

theorem Tidy.newUploader (tidy : Tidy streaming b) (timeoutMs : Int) (verbose : Bool) :
    Tidy streaming { b with uploader := .new timeoutMs verbose true } :=
  tidy.aside rfl rfl tidy.owns.symm

/-- Something done with a fresh uploader that is not closed after it. -/
def bareUploader (settings : Settings) (x : Act (Bench σ) α) : Act (Bench σ) α := do
  let timeoutMs ← integer (settings .uploadTimeoutMs)
  modify fun b => { b with uploader := .new timeoutMs (settings .verbose).isSet true }
  x

theorem closeUploader_run (b : Bench (Traced σ)) (owns : b.uploader.ownsClient = true) :
    run ((HttpUploader.close p.traced.http).within uploaderPart) b =
      ⟨(p.http.close b.platform.world).answer,
        if (p.http.close b.platform.world).stops then [.stopRequest] else [],
        { b with platform := (p.http.traced.close b.platform).world }⟩ := by
  have closed : run (HttpUploader.close p.http.traced) (b.uploader, b.platform) =
      ⟨(p.http.close b.platform.world).answer,
        if (p.http.close b.platform.world).stops then [.stopRequest] else [],
        (b.uploader, (p.http.traced.close b.platform).world)⟩ := by
    rw [HttpUploader.close, run_bind_ok (run_get _), if_pos owns]
    rfl
  change run (within uploaderPart (HttpUploader.close p.http.traced)) b = _
  rw [run_within_of closed]
  rfl

end Bench

end ChunkRelay
