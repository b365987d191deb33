import ChunkRelay.Data

/-! # The names of the settings

What can be set, and by which name.
-/

namespace ChunkRelay

inductive Setting where
  | devicePath | logFile | product | readTimeoutMs | serialNumber | upload | uploadTimeoutMs
  | vendor | verbose
  deriving Repr, DecidableEq

namespace Setting

def all : List Setting :=
  [devicePath, logFile, product, readTimeoutMs, serialNumber, upload, uploadTimeoutMs, vendor,
    verbose]

def name : Setting → String
  | devicePath => "device_path"
  | logFile => "log_file"
  | product => "product_id"
  | readTimeoutMs => "read_timeout_ms"
  | serialNumber => "serial_number"
  | upload => "upload"
  | uploadTimeoutMs => "upload_timeout_ms"
  | vendor => "vendor_id"
  | verbose => "verbose"

def ofKey? : Data → Option Setting
  | .text key => all.find? (·.name = key)
  | _ => none

end Setting

end ChunkRelay
