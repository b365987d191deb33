import ChunkRelay.Bridge
import ChunkRelay.Context
import ChunkRelay.Settings.Basic
import ChunkRelay.Upload.Http

/-! # Benches

A bench has everything that the program works with: one connection, one uploader and the platform
below them. A device is put on the bench, opened and given back by a context, and what is done with
it in between is done by a session or a bridge. Whatever becomes of that, each part is left in turn:
the bridge first, then the session, then the context.
-/

namespace ChunkRelay

/-- The libraries and the clock of a platform `σ`. -/
structure Platform (σ : Type) where
  native : NativeLibrary σ
  http : HttpClient σ
  /-- Seconds since some moment. -/
  clock : Act σ Rat
  /-- What keeps log records of a level from where they belong, if anything does. -/
  logRefusal? (level : Level) : Option Defect := none

/-- The platform without devices and network: it lists nothing, and whatever it is asked to open or
send fails. -/
def Platform.detached : Platform Unit :=
  let refused := fun {α : Type} (message : String) (_ : Unit) =>
    (⟨.error (.fault .system message), false, ()⟩ : Reply Unit α)
  let done : Call Unit Unit := fun _ => ⟨.ok (), false, ()⟩
  { native :=
      { openIds := fun _ _ _ => refused "no device library"
        openPath := fun _ => refused "no device library"
        close := done
        setNonblocking := fun _ => done
        read := fun _ _ => refused "no device library"
        write := fun _ => refused "no device library"
        getFeature := fun _ _ => refused "no device library"
        enumerate := fun _ _ _ => ⟨.ok [], false, ()⟩ }
    http := { post := fun _ => refused "no network", close := done }
    clock := pure 0 }

/-- A connection and an uploader on a platform. -/
structure Bench (σ : Type) where
  connection : Connection
  uploader : HttpUploader
  platform : σ

namespace Bench

variable {σ κ α : Type}

def new (platform : σ) : Bench σ where
  connection := ⟨⟨.null, 0, 0, .null⟩, false, false, none⟩
  uploader := .new HttpUploader.defaultTimeoutMs false true
  platform

def connectionPart : Focus (Bench σ) (Connection × σ) where
  get b := (b.connection, b.platform)
  set p b := { b with connection := p.1, platform := p.2 }

def uploaderPart : Focus (Bench σ) (HttpUploader × σ) where
  get b := (b.uploader, b.platform)
  set u b := { b with uploader := u.1, platform := u.2 }

def platformPart : Focus (Bench σ) σ where
  get := Bench.platform
  set s b := { b with platform := s }

/-- The bench as the place where a context opens its device. -/
def backend (p : Platform σ) : DeviceBackend Unit (Bench σ) where
  make selector := do
    let connection ← Act.ofCause (Connection.new selector.address)
    modify fun b => { b with connection }
  openDevice _ := (Connection.openDevice p.native).within connectionPart
  closeDevice _ := (Connection.closeDevice p.native).within connectionPart
  enumerate vendor product := (listDevices p.native vendor product).within platformPart
  log level message? := do
    message?.forM (Act.log level .context)
    match p.logRefusal? level with
    | some defect => throw (.defect defect)
    | none => pure ()

def transport (p : Platform σ) : Transport (Bench σ) :=
  (Connection.transport p.native).within connectionPart

def httpUploader (p : Platform σ) : Uploader (Bench σ) :=
  (HttpUploader.uploader p.http).within uploaderPart

/-- Do something in a context and tear it down. -/
def inContext (p : Platform σ) (x : Act (Context Unit × Bench σ) α) : Act (Bench σ) α := do
  let context ← Context.init (backend p)
  Act.starting context (x.followedBy (Context.teardown (backend p)))

def integer {ω : Type} (value : Data) : Act ω Int :=
  match value.integer with
  | .ok n => pure n
  | .error refusal => throw (.defect (.notInteger refusal))

/-- Open the device that settings select: the one at a path or else the one with the given ids. -/
def openDevice (p : Platform σ) (settings : Settings) : Act (Context Unit × Bench σ) Unit := do
  if (settings .devicePath).isSet then Context.openPath (backend p) (settings .devicePath)
  else
    let vendor ← integer (settings .vendor)
    let product ← integer (settings .product)
    Context.openIds (backend p) vendor product (settings .serialNumber)

/-- Do something with the device that settings select. -/
def withDevice (p : Platform σ) (settings : Settings) (x : Act (Bench σ) α) : Act (Bench σ) α :=
  inContext p do
    openDevice p settings
    Context.outside x

/-- Do something with a session on the open device and close it. -/
def inSession (p : Platform σ) (x : Act (Session (Bench σ) × Bench σ) α) : Act (Bench σ) α :=
  Act.starting (Session.new (some (transport p)) none) (x.followedBy Session.close)

def devices (p : Platform σ) (vendor product : Data) : Act (Bench σ) (List DeviceInfo) :=
  inContext p do
    Context.enumerate (backend p) (← integer vendor) (← integer product)

def readConfig (p : Platform σ) (settings : Settings) : Act (Bench σ) DeviceConfig :=
  withDevice p settings (inSession p Session.readConfig)

/-- Start a bridge, do something with it and leave it, then close its session. -/
def pumping (x : Act (Pipeline κ (Bench σ)) α) : Act (Pipeline κ (Bench σ)) α := do
  let body : Act (Pipeline κ (Bench σ)) α := do
    let _ ← Pipeline.start
    x.followedBy Pipeline.leave
  body.followedBy (Pipeline.viaSession Session.close)

/-- Do something with a bridge on the open device, given its callbacks. -/
def inBridge (p : Platform σ) (settings : Settings) (uploads : Bool) (callbacks : List κ)
    (x : Act (Pipeline κ (Bench σ)) α) : Act (Bench σ) α := do
  let readTimeoutMs ← integer (settings .readTimeoutMs)
  let session := Session.new (some (transport p)) (if uploads then some (httpUploader p) else none)
  let bridge : Bridge κ := .new readTimeoutMs
  Pipeline.alone { bridge with callbacks } session (pumping x)

/-- Do something with a fresh uploader as settings ask for it, and close it. -/
def withUploader (p : Platform σ) (settings : Settings) (x : Act (Bench σ) α) :
    Act (Bench σ) α := do
  let timeoutMs ← integer (settings .uploadTimeoutMs)
  modify fun b => { b with uploader := .new timeoutMs (settings .verbose).isSet true }
  x.followedBy ((HttpUploader.close p.http).within uploaderPart)

end Bench

end ChunkRelay
