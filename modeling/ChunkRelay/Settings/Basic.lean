import ChunkRelay.Data.Order
import ChunkRelay.Failure

/-! # Settings

What the bridge is told about the device, the upload and its log. Settings start from defaults.
Overrides go on top of them, those from the command line on top of those from a file, and each
leaves alone what it does not give.
-/

namespace ChunkRelay

/-- The values of the settings of the bridge. The ones that are missing are null. -/
abbrev Settings : Type := Setting → Data

namespace Settings

def default : Settings
  | .vendor | .product => .int 0
  | .devicePath | .serialNumber | .logFile => .null
  | .readTimeoutMs => .int 100
  | .upload => .bool true
  | .uploadTimeoutMs => .int 30000
  | .verbose => .bool false

def set (s : Settings) (setting : Setting) (value : Data) : Settings := fun other =>
  if other = setting then value else s other

/-- The settings with new values on top. Null gives no new value. -/
def override (s : Settings) (values : List (Setting × Data)) : Settings :=
  values.foldl (fun s (setting, value) => if value.isNull then s else s.set setting value) s

/-- The settings that entries give values to, which all keys have to be names of. The keys that are
not are listed in order, as far as they have one and can be written. -/
def ofEntries (entries : List (Data × Data)) : Except Failure (List (Setting × Data)) := do
  let unknown := (entries.map (·.1)).filter fun key => (Setting.ofKey? key).isNone
  if !unknown.isEmpty then
    let some keys := Data.sorted? unknown | throw (.defect .keysUnordered)
    throw (.ofCause (.unknownSettings keys))
  pure (entries.filterMap fun (key, value) => (Setting.ofKey? key).map (·, value))

/-- The defaults with given values in place, null included. -/
def withValues (entries : List (Data × Data)) : Except Failure Settings :=
  entries.foldlM
    (fun s (key, value) =>
      match Setting.ofKey? key with
      | some setting => .ok (s.set setting value)
      | none => .error (.defect .settingUnknown))
    default

def entries (s : Settings) : List (String × Data) :=
  Setting.all.map fun setting => (setting.name, s setting)

/-- Whether the settings name a device, by its path or by both ids. -/
def selectDevice (s : Settings) : Bool :=
  (s .devicePath).isSet || ((s .vendor).isSet && (s .product).isSet)

/-- Settings that can be used: they name a device and give the upload time. -/
def validate (s : Settings) : Except Failure Settings :=
  let timeout := s .uploadTimeoutMs
  if !s.selectDevice then .error (.caused .noDeviceSelected)
  else
    match timeout.quantity? with
    | none => .error (.defect .settingIncomparable)
    | some ms =>
      if ms.isAtMost (.finite 0) then .error (.ofCause (.settingNotPositive timeout)) else .ok s

end Settings

end ChunkRelay
