import ChunkRelay.Device.Listing
import ChunkRelay.Device.Connection
import ChunkRelay.Device.Transport

/-! # Device contexts

A context opens devices for as long as it is active and keeps track of the ones it has opened.
Tearing it down closes all of them, whatever comes of each, and ends its use.

A context writes its log records by way of its backend, since the log of a run may fail. It does so
with the first record that goes astray, and in a run the first records are those of the context.
-/

namespace ChunkRelay

/-- What a device is to be opened by. -/
inductive DeviceSelector where
  | ids (vendor product : Int) (serial : Data)
  | path (path : Data)
  deriving Repr

namespace DeviceSelector

def parameters : DeviceSelector → List (String × Data)
  | ids vendor product serial =>
    [("vendor_id", .int vendor), ("product_id", .int product), ("serial_number", serial)]
  | path p => [("path", p)]

/-- The parameters as log records show them. -/
def shown (selector : DeviceSelector) : String :=
  (Data.map (selector.parameters.map fun (name, value) => (.text name, value))).shown

/-- The message of the log record about the opened device, if the parameters can be written. -/
def openedMessage? (selector : DeviceSelector) : Option String :=
  if selector.parameters.all (·.2.isWritable) then
    some ("HID_DEVICE_OPENED params=" ++ selector.shown)
  else none

def address : DeviceSelector → DeviceAddress
  | ids vendor product serial => ⟨.null, vendor, product, serial⟩
  | path p => ⟨p, 0, 0, .null⟩

end DeviceSelector

/-- What a context works with: devices known by handles `η` on a world `ω`. -/
structure DeviceBackend (η ω : Type) where
  /-- Make the transport for a device, still closed. -/
  make (selector : DeviceSelector) : Act ω η
  openDevice (device : η) : Act ω Unit
  closeDevice (device : η) : Act ω Unit
  enumerate (vendor product : Int) : Act ω (List DeviceInfo)
  /-- Write a log record. One whose message cannot be written is lost. -/
  log (level : Level) (message? : Option String) : Act ω Unit :=
    message?.forM (Act.log level .context)

structure Context (η : Type) where
  active : Bool
  /-- The devices opened and not yet given back, the earliest first. -/
  tracked : List η
  deriving DecidableEq, Repr

namespace Context

variable {η ω : Type}

def state : Act (Context η × ω) (Context η) := do pure (← get).1

def update (f : Context η → Context η) : Act (Context η × ω) Unit := modify fun w => (f w.1, w.2)

def outside (x : Act ω α) : Act (Context η × ω) α := x.within Focus.snd

def init (backend : DeviceBackend η ω) : Act ω (Context η) := do
  backend.log .debug "HID_CONTEXT_INIT"
  pure ⟨true, []⟩

def requireActive (operation : String) : Act (Context η × ω) Unit := do
  if (← state).active then pure () else Act.failWith (.contextTornDown operation)

/-- The connected devices with the given ids, where zero stands for any. -/
def enumerate (backend : DeviceBackend η ω) (vendor product : Int) :
    Act (Context η × ω) (List DeviceInfo) := do
  requireActive "enumerate"
  outside (backend.enumerate vendor product)

/-- Make a device's transport, open it and keep track of it. -/
def openSelected (backend : DeviceBackend η ω) (selector : DeviceSelector) :
    Act (Context η × ω) η := do
  let device ← outside (backend.make selector)
  outside (backend.openDevice device)
  update fun c => { c with tracked := c.tracked ++ [device] }
  outside (backend.log .info selector.openedMessage?)
  pure device

def openIds (backend : DeviceBackend η ω) (vendor product : Int) (serial : Data) :
    Act (Context η × ω) η := do
  requireActive "open"
  openSelected backend (.ids vendor product serial)

/-- Open the device at a path, which may not be empty. -/
def openPath (backend : DeviceBackend η ω) (path : Data) : Act (Context η × ω) η := do
  requireActive "open_path"
  if path.isSet then openSelected backend (.path path) else Act.failWith .devicePathEmpty

/-- Give a device back: it is no longer tracked, and then it is closed. -/
def close [DecidableEq η] (backend : DeviceBackend η ω) (device : η) :
    Act (Context η × ω) Unit := do
  update fun c => { c with tracked := c.tracked.erase device }
  outside (backend.closeDevice device)

/-- Close devices in turn; failures are only logged. -/
def closeAll (backend : DeviceBackend η ω) : List η → Act (Context η × ω) Unit
  | [] => pure ()
  | device :: rest => do
    tryCatch (outside (backend.closeDevice device)) fun _ =>
      outside (backend.log .error "HID_TRANSPORT_CLOSE_FAILED")
    closeAll backend rest

/-- Tear the context down. Only the first call does anything. -/
def teardown (backend : DeviceBackend η ω) : Act (Context η × ω) Unit := do
  let c ← state
  if c.active then
    update ({ · with active := false })
    closeAll backend c.tracked
    update ({ · with tracked := [] })
    outside (backend.log .debug "HID_CONTEXT_TEARDOWN")

end Context

end ChunkRelay
