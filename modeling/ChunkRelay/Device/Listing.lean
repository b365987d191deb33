import ChunkRelay.Device.Native
import ChunkRelay.Text.Utf8

/-! # Listing devices

The devices that the native library enumerates, as records with a fixed set of fields. Missing
fields get defaults; texts may arrive as bytes, and numbers as numerals.
-/

namespace ChunkRelay

/-- One interface of a connected device. -/
structure DeviceInfo where
  path : String
  vendor : Int
  product : Int
  serialNumber : String
  manufacturer : String
  productName : String
  release : Int
  usagePage : Int
  usage : Int
  interface : Int
  deriving DecidableEq, Repr

namespace DeviceInfo

/-- A text field: nothing is the empty text, bytes are UTF-8, and other values are shown. -/
def textField (value? : Option Data) : Except Failure String :=
  match value? with
  | none | some .null => .ok ""
  | some (.text s) => .ok s
  | some (.bytes bs) => .ok (Utf8.decodeReplacing bs)
  | some value => if value.isWritable then .ok value.shown else .error (.defect .numberTooLong)

/-- A number field, with a default for a missing one. -/
def numberField (default : Int) (value? : Option Data) : Except Failure Int :=
  match value? with
  | none => .ok default
  | some value => value.integer.mapError fun refusal => .defect (.notInteger refusal)

/-- The interface that a native record describes. The first field that cannot be taken counts. -/
def ofRecord (record : DeviceRecord) : Except Failure DeviceInfo := do
  let field := fun name : String => record.lookup name
  pure {
    path := ← textField (field "path")
    vendor := ← numberField 0 (field "vendor_id")
    product := ← numberField 0 (field "product_id")
    serialNumber := ← textField (field "serial_number")
    manufacturer := ← textField (field "manufacturer_string")
    productName := ← textField (field "product_string")
    release := ← numberField 0 (field "release_number")
    usagePage := ← numberField 0 (field "usage_page")
    usage := ← numberField 0 (field "usage")
    interface := ← numberField (-1) (field "interface_number") }

end DeviceInfo

/-- The interfaces with the given ids, where zero stands for any. -/
def listDevices (lib : NativeLibrary σ) (vendor product : Int) : Act σ (List DeviceInfo) := do
  let records ← tryCatch (lib.enumerate vendor product).act fun e =>
    if e.isDeviceFault then Act.failWith (.enumerationFailed e.message) else throw e
  Act.ofExcept (records.mapM DeviceInfo.ofRecord)

end ChunkRelay
