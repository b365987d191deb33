import ChunkRelay.Bench
import ChunkRelay.Proofs.Secrecy.Bridge

/-! # Benches that hold different secrets

Over twin platforms, contexts, sessions and bridges on benches in the same state mirror each other.
-/

namespace ChunkRelay

open Act

variable {σ σ' ω ω' η κ α α' : Type}

/-! ## Contexts -/

structure DeviceBackend.Mirrors (R : ω → ω' → Prop) (backend : DeviceBackend η ω)
    (backend' : DeviceBackend η ω') : Prop where
  make : ∀ selector, Act.Mirrors R Eq (backend.make selector) (backend'.make selector)
  openDevice : ∀ device, Act.Mirrors R Eq (backend.openDevice device) (backend'.openDevice device)
  closeDevice : ∀ device,
    Act.Mirrors R Eq (backend.closeDevice device) (backend'.closeDevice device)
  enumerate : ∀ vendor product,
    Act.Mirrors R Eq (backend.enumerate vendor product) (backend'.enumerate vendor product)
  log : ∀ level message?,
    Act.Mirrors R Eq (backend.log level message?) (backend'.log level message?)

namespace Context

variable {R : ω → ω' → Prop} {A : α → α' → Prop}

theorem outside_mirrors {x : Act ω α} {y : Act ω' α'} (inner : Mirrors R A x y) :
    Mirrors (Alongside (τ := Context η) R) A (outside x) (outside y) := Alongside.outside inner

theorem update_mirrors (f : Context η → Context η) :
    Mirrors (Alongside R) Eq (update f) (update f) := Alongside.update f

theorem requireActive_mirrors (operation : String) :
    Mirrors (Alongside (τ := Context η) R) Eq (requireActive operation)
      (requireActive operation) :=
  Alongside.state.andThen fun _ => .ite (.pure rfl) (.refuse _)

variable {backend : DeviceBackend η ω} {backend' : DeviceBackend η ω'}
  (mirrors : backend.Mirrors R backend')
include mirrors

theorem init_mirrors : Mirrors R Eq (init backend) (init backend') :=
  (mirrors.log _ _).andThen fun _ => .pure rfl

theorem enumerate_mirrors (vendor product : Int) :
    Mirrors (Alongside R) Eq (enumerate backend vendor product)
      (enumerate backend' vendor product) :=
  (requireActive_mirrors _).andThen fun _ => outside_mirrors (mirrors.enumerate _ _)

theorem openSelected_mirrors (selector : DeviceSelector) :
    Mirrors (Alongside R) Eq (openSelected backend selector) (openSelected backend' selector) := by
  refine (outside_mirrors (mirrors.make _)).andThen fun _ => ?_
  refine (outside_mirrors (mirrors.openDevice _)).andThen fun _ => ?_
  refine (update_mirrors _).andThen fun _ => ?_
  exact (outside_mirrors (mirrors.log _ _)).andThen fun _ => .pure rfl

theorem openIds_mirrors (vendor product : Int) (serial : Data) :
    Mirrors (Alongside R) Eq (openIds backend vendor product serial)
      (openIds backend' vendor product serial) :=
  (requireActive_mirrors _).andThen fun _ => openSelected_mirrors mirrors _

theorem openPath_mirrors (path : Data) :
    Mirrors (Alongside R) Eq (openPath backend path) (openPath backend' path) :=
  (requireActive_mirrors _).andThen fun _ => .ite (openSelected_mirrors mirrors _) (.refuse _)

theorem closeAll_mirrors (devices : List η) :
    Mirrors (Alongside R) Eq (closeAll backend devices) (closeAll backend' devices) := by
  induction devices with
  | nil => exact .pure rfl
  | cons device rest ih =>
      have closed := outside_mirrors (η := η) (mirrors.closeDevice device)
      exact (closed.tryCatch fun _ => outside_mirrors (mirrors.log _ _)).andThen fun _ => ih

theorem teardown_mirrors :
    Mirrors (Alongside R) Eq (teardown backend) (teardown backend') := by
  refine Alongside.state.andThen fun c => .ite ?_ (.pure rfl)
  refine (update_mirrors _).andThen fun _ => (closeAll_mirrors mirrors _).andThen fun _ => ?_
  exact (update_mirrors _).andThen fun _ => outside_mirrors (mirrors.log _ _)

end Context

/-! ## Benches -/

theorem listDevices_mirrors {R : σ → σ' → Prop} {lib : NativeLibrary σ} {lib' : NativeLibrary σ'}
    (twin : lib.Twin R lib') (vendor product : Int) :
    Mirrors R Eq (listDevices lib vendor product) (listDevices lib' vendor product) := by
  refine Mirrors.andThen ((twin.enumerate vendor product).act.tryCatch fun same => ?_) fun _ =>
    .ofExcept (.refl _)
  rw [same.isDeviceFault, same.message]
  exact .ite (.refuse _) (.fail same)

namespace Bench

structure Alongside (R : σ → σ' → Prop) (b : Bench σ) (b' : Bench σ') : Prop where
  connection : b.connection = b'.connection
  uploader : b.uploader = b'.uploader
  platform : R b.platform b'.platform

variable {R : σ → σ' → Prop} {A : α → α' → Prop}

theorem new_alongside {s : σ} {s' : σ'} (start : R s s') : Alongside R (new s) (new s') :=
  ⟨rfl, rfl, start⟩

theorem viaConnection_mirrors {x : Act (Connection × σ) α} {y : Act (Connection × σ') α'}
    (inner : Mirrors (ChunkRelay.Alongside R) A x y) :
    Mirrors (Alongside R) A (x.within connectionPart) (y.within connectionPart) :=
  inner.within (fun beside => ⟨beside.connection, beside.platform⟩)
    fun beside kept => ⟨kept.1, beside.uploader, kept.2⟩

theorem viaUploader_mirrors {x : Act (HttpUploader × σ) α} {y : Act (HttpUploader × σ') α'}
    (inner : Mirrors (ChunkRelay.Alongside R) A x y) :
    Mirrors (Alongside R) A (x.within uploaderPart) (y.within uploaderPart) :=
  inner.within (fun beside => ⟨beside.uploader, beside.platform⟩)
    fun beside kept => ⟨beside.connection, kept.1, kept.2⟩

theorem viaPlatform_mirrors {x : Act σ α} {y : Act σ' α'} (inner : Mirrors R A x y) :
    Mirrors (Alongside R) A (x.within platformPart) (y.within platformPart) :=
  inner.within Alongside.platform fun beside platform => { beside with platform }

theorem integer_mirrors {S : ω → ω' → Prop} (value : Data) :
    Mirrors S Eq (integer value) (integer value) := by
  rw [integer, integer]
  cases value.integer with
  | ok n => exact .pure rfl
  | error refusal => exact .refuse _

variable {p : Platform σ} {p' : Platform σ'} (twin : p.Twin R p')
include twin

theorem backend_mirrors : (backend p).Mirrors (Alongside R) (backend p') where
  make _ := (Mirrors.ofCause _).andThen fun _ => .modify fun beside =>
    { beside with connection := rfl }
  openDevice _ := viaConnection_mirrors (Connection.openDevice_mirrors twin.native)
  closeDevice _ := viaConnection_mirrors (Connection.closeDevice_mirrors twin.native)
  enumerate _ _ := viaPlatform_mirrors (listDevices_mirrors twin.native _ _)
  log level message? := by
    have noted : Mirrors (Alongside R) Eq (message?.forM (Act.log level .context))
        (message?.forM (Act.log level .context)) := by
      cases message? with
      | none => exact .pure rfl
      | some message => exact .log level .context message
    refine noted.andThen fun _ => ?_
    rw [twin.logRefusal]
    cases p'.logRefusal? level with
    | none => exact .pure rfl
    | some defect => exact .refuse _

theorem transport_mirrors : (transport p).Mirrors (Alongside R) (transport p') where
  feature id other := by
    apply viaConnection_mirrors
    apply Connection.readFeature_mirrors twin.native
    intro same
    exact other (by cases id <;> first | rfl | cases same)
  authorization := viaConnection_mirrors (Connection.readAuthorization_mirrors twin.native)
  output _ _ _ := viaConnection_mirrors (Connection.writeOutput_mirrors twin.native _ _)
  input _ _ := viaConnection_mirrors (Connection.readInput_mirrors twin.native _ _)

theorem httpUploader_mirrors : (httpUploader p).Mirrors (Alongside R) (httpUploader p') :=
  fun uri _ _ payload same =>
    viaUploader_mirrors (HttpUploader.deliver_mirrors twin uri same payload)

theorem inContext_mirrors {x : Act (Context Unit × Bench σ) α}
    {y : Act (Context Unit × Bench σ') α'}
    (inner : Mirrors (ChunkRelay.Alongside (Alongside R)) A x y) :
    Mirrors (Alongside R) A (inContext p x) (inContext p' y) := by
  have backends := backend_mirrors twin
  refine (Context.init_mirrors backends).andThen fun context => ?_
  exact ChunkRelay.Alongside.starting context (inner.followedBy (Context.teardown_mirrors backends))

theorem openDevice_mirrors (settings : Settings) :
    Mirrors (ChunkRelay.Alongside (Alongside R)) Eq (openDevice p settings)
      (openDevice p' settings) := by
  have backends := backend_mirrors twin
  refine .ite (Context.openPath_mirrors backends _) ?_
  exact (integer_mirrors _).andThen fun _ => (integer_mirrors _).andThen fun _ =>
    Context.openIds_mirrors backends _ _ _

theorem withDevice_mirrors (settings : Settings) {x : Act (Bench σ) α} {y : Act (Bench σ') α'}
    (inner : Mirrors (Alongside R) A x y) :
    Mirrors (Alongside R) A (withDevice p settings x) (withDevice p' settings y) :=
  inContext_mirrors twin ((openDevice_mirrors twin settings).andThen fun _ =>
    Context.outside_mirrors inner)

theorem devices_mirrors (vendor product : Data) :
    Mirrors (Alongside R) Eq (devices p vendor product) (devices p' vendor product) :=
  inContext_mirrors twin ((integer_mirrors _).andThen fun _ => (integer_mirrors _).andThen fun _ =>
    Context.enumerate_mirrors (backend_mirrors twin) _ _)

theorem inSession_mirrors {x : Act (Session (Bench σ) × Bench σ) α}
    {y : Act (Session (Bench σ') × Bench σ') α'}
    (inner : Mirrors (Session.Alongside (Alongside R)) A x y) :
    Mirrors (Alongside R) A (inSession p x) (inSession p' y) := by
  intro b b' beside
  have session := Session.new_mirrors (.some (transport_mirrors twin)) .none
  obtain ⟨answer, notes, -, world⟩ := inner.followedBy Session.close_mirrors
    (.new (some (transport p)) none, b) (.new (some (transport p')) none, b') ⟨session, beside⟩
  exact ⟨answer, notes, world⟩

theorem readConfig_mirrors (settings : Settings) :
    Mirrors (Alongside R) DeviceConfig.SameMask (readConfig p settings) (readConfig p' settings) :=
  withDevice_mirrors twin settings (inSession_mirrors twin Session.readConfig_mirrors)

omit twin in
theorem pumping_mirrors {x : Act (Pipeline κ (Bench σ)) α} {y : Act (Pipeline κ (Bench σ')) α'}
    (inner : Mirrors (Pipeline.Alongside (Alongside R)) A x y) :
    Mirrors (Pipeline.Alongside (Alongside R)) A (pumping x) (pumping y) := by
  have body := Pipeline.start_mirrors.bind fun _ => inner.followedBy Pipeline.leave_mirrors
  exact body.followedBy (Pipeline.viaSession_mirrors Session.close_mirrors)

theorem inBridge_mirrors (settings : Settings) (uploads : Bool) (callbacks : List κ)
    {x : Act (Pipeline κ (Bench σ)) α} {y : Act (Pipeline κ (Bench σ')) α'}
    (inner : Mirrors (Pipeline.Alongside (Alongside R)) A x y) :
    Mirrors (Alongside R) A (inBridge p settings uploads callbacks x)
      (inBridge p' settings uploads callbacks y) := by
  refine (integer_mirrors _).andThen fun _ => Pipeline.alone_mirrors _ ?_ (pumping_mirrors inner)
  refine Session.new_mirrors (.some (transport_mirrors twin)) ?_
  cases uploads with
  | true => exact .some (httpUploader_mirrors twin)
  | false => exact .none

theorem withUploader_mirrors (settings : Settings) {x : Act (Bench σ) α} {y : Act (Bench σ') α'}
    (inner : Mirrors (Alongside R) A x y) :
    Mirrors (Alongside R) A (withUploader p settings x) (withUploader p' settings y) := by
  have closed : Mirrors (Alongside R) Eq ((HttpUploader.close p.http).within uploaderPart)
      ((HttpUploader.close p'.http).within uploaderPart) := by
    refine viaUploader_mirrors (Mirrors.get.bind fun beside => ?_)
    rw [beside.1]
    exact .ite (ChunkRelay.Alongside.outside twin.close.act) (.pure rfl)
  refine (integer_mirrors _).andThen fun _ => Mirrors.andThen ?_ fun _ => inner.followedBy closed
  exact .modify fun beside => { beside with uploader := rfl }

end Bench

end ChunkRelay
