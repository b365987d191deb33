import ChunkRelay.Device.Native
import ChunkRelay.Device.Transport
import ChunkRelay.Text.Utf8
import ChunkRelay.Text.Window

/-! # Connections

A connection is a transport over the native library. It remembers which device it is for, whether it
holds a handle, the mode it last set and an optional filter of report ids. A native failure in
report traffic means that the device is gone, so the connection lets go of its handle.
-/

namespace ChunkRelay

/-- Which device a connection is for: the one at a path or else the one with the given ids. -/
structure DeviceAddress where
  path : Data
  vendor : Int
  product : Int
  serial : Data
  deriving Repr

structure Connection where
  address : DeviceAddress
  /-- Whether a native handle is held. -/
  isOpen : Bool
  /-- The mode that the handle was last set to. -/
  nonblocking : Bool
  /-- The report ids that may pass, all if there is no filter. -/
  filter? : Option (List Int)
  deriving Repr

namespace Connection

/-- A closed connection for a device, which has to be given by a path or by both of its ids. -/
def new (address : DeviceAddress) : Except Cause Connection :=
  if !address.path.isSet && (address.vendor = 0 || address.product = 0) then
    .error .deviceUnspecified
  else .ok ⟨address, false, false, none⟩

variable {σ α : Type}

def state : Act (Connection × σ) Connection := do pure (← get).1

def update (f : Connection → Connection) : Act (Connection × σ) Unit := modify fun w => (f w.1, w.2)

def native (call : Call σ α) : Act (Connection × σ) α := call.act.within Focus.snd

def requireOpen (operation : String) : Act (Connection × σ) Unit := do
  if (← state).isOpen then pure () else Act.failWith (.notOpen operation)

/-- Run an action, and answer its native failures with an action on their message. -/
def onDeviceFault (x : Act (Connection × σ) α) (handle : String → Act (Connection × σ) α) :
    Act (Connection × σ) α :=
  tryCatch x fun e => if e.isDeviceFault then handle e.message else throw e

/-- Let go of the handle: it is forgotten first and then closed, whatever comes of that. -/
def dropHandle (lib : NativeLibrary σ) : Act (Connection × σ) Unit := do
  if (← state).isOpen then
    update ({ · with isOpen := false })
    onDeviceFault (native lib.close) fun reason =>
      Act.log .debug .device ("HID_CLOSE_AFTER_ERROR_FAILED err=" ++ reason)

/-- Fail unless the filter lets a report id pass. The message lists the ids in order. -/
def checkFilter (id : Int) : Act (Connection × σ) Unit := do
  match (← state).filter? with
  | some allowed =>
    if allowed.contains id then pure ()
    else Act.failWith (.filteredOut id (allowed.mergeSort (· ≤ ·)))
  | none => pure ()

/-- What messages name the device by: its path or else its ids. -/
def target (address : DeviceAddress) : Data :=
  if address.path.isSet then address.path
  else .text (Hex.padded 4 address.vendor ++ ":" ++ Hex.padded 4 address.product)

/-- The native call that opens a device. A path has to be a text that can be encoded. -/
def openNative (lib : NativeLibrary σ) (address : DeviceAddress) : Act (Connection × σ) Unit :=
  if address.path.isSet then
    match address.path with
    | .text path => native (lib.openPath (Utf8.encode path))
    | .rawText path => throw (.fault .value path.encodingRefusal)
    | _ => throw (.defect .devicePathNotText)
  else native (lib.openIds address.vendor address.product address.serial)

/-- Open the device unless it is open. A fresh handle is in blocking mode. -/
def openDevice (lib : NativeLibrary σ) : Act (Connection × σ) Unit := do
  let connection ← state
  if connection.isOpen then pure ()
  else
    onDeviceFault (openNative lib connection.address) fun reason =>
      Act.failWith (.openFailed (target connection.address) reason)
    update ({ · with isOpen := true, nonblocking := false })

/-- Close the device if it is open. The handle is gone even if closing it fails. -/
def closeDevice (lib : NativeLibrary σ) : Act (Connection × σ) Unit := do
  if (← state).isOpen then
    (native lib.close).followedBy (update ({ · with isOpen := false }))

/-- Set the mode of the handle; it is remembered once the call has returned. -/
def setNonblocking (lib : NativeLibrary σ) (nonblocking : Bool) : Act (Connection × σ) Unit := do
  requireOpen "set_nonblocking"
  onDeviceFault (native (lib.setNonblocking nonblocking)) fun reason =>
    Act.failWith (.modeChangeFailed reason)
  update ({ · with nonblocking })

/-- Let only the given report ids pass, or all. -/
def setFilter (ids? : Option (List Int)) (connection : Connection) : Connection :=
  { connection with filter? := ids?.map List.eraseDups }

/-- Read a feature report. The native answer repeats the report id in its first byte. -/
def readFeature (lib : NativeLibrary σ) (id limit : Int) : Act (Connection × σ) (List UInt8) := do
  requireOpen "read_feature"
  checkFilter id
  let bytes ← onDeviceFault (native (lib.getFeature id (limit + 1))) fun reason => do
    dropHandle lib
    Act.failWith (.featureReadFailed id reason)
  pure (window bytes 1 (1 + limit))

/-- Write a report with its id in front, which has to be a byte. -/
def writeNative (lib : NativeLibrary σ) (id : Int) (bytes : List UInt8) :
    Act (Connection × σ) Int :=
  if 0 ≤ id ∧ id < 256 then native (lib.write (UInt8.ofNat id.toNat :: bytes))
  else throw (.fault .value "bytes must be in range(0, 256)")

/-- Write an output report. The byte of the id does not count as written. -/
def writeOutput (lib : NativeLibrary σ) (id : Int) (bytes : List UInt8) :
    Act (Connection × σ) Int := do
  requireOpen "write_output"
  checkFilter id
  let count ← onDeviceFault (writeNative lib id bytes) fun reason => do
    dropHandle lib
    Act.failWith (.writeFailed id reason)
  if count < 0 then Act.failWith (.writeRejected id count) else pure (max (count - 1) 0)

/-- The native read for a timeout. Without a positive one the mode of the handle decides, which is
changed if it is not the one wanted. -/
def readNative (lib : NativeLibrary σ) (limit timeoutMs : Int) :
    Act (Connection × σ) (List UInt8) := do
  if timeoutMs > 0 then native (lib.read (limit + 1) (some timeoutMs))
  else
    let poll := timeoutMs = 0
    if poll ≠ (← state).nonblocking then setNonblocking lib poll
    native (lib.read (limit + 1) none)

def readInput (lib : NativeLibrary σ) (limit timeoutMs : Int) :
    Act (Connection × σ) (Int × List UInt8) := do
  requireOpen "read_input"
  let bytes ← onDeviceFault (readNative lib limit timeoutMs) fun reason => do
    dropHandle lib
    Act.failWith (.readFailed reason)
  match bytes with
  | [] => Act.failWith (.noReport timeoutMs)
  | id :: _ =>
    checkFilter id.toNat
    pure (id.toNat, window bytes 1 (1 + limit))

/-- A connection as a transport. Native feature requests and writes know no timeout. -/
def transport (lib : NativeLibrary σ) : Transport (Connection × σ) where
  openDevice := openDevice lib
  closeDevice := closeDevice lib
  isOpen w := w.1.isOpen
  readFeature id limit _ := readFeature lib id limit
  writeOutput id bytes _ := writeOutput lib id bytes
  readInput := readInput lib

end Connection

end ChunkRelay
