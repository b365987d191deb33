/-! # Device configuration

What a device says about itself in its four configuration reports. The authorization is a
header of the form `Header-Name:value` and its value is a secret, which is masked wherever the
configuration is shown.
-/

namespace ChunkRelay

/-- The contents of the four configuration reports of a device. -/
structure DeviceConfig where
  features : Int
  identifier : String
  dataUri : String
  authorization : String
  deriving DecidableEq, Repr

namespace DeviceConfig

/-- An authorization without its secret: what stands before the first colon is kept, and all of a
text without a colon is masked. -/
def maskAuthorization (authorization : String) : String :=
  let cs := authorization.toList
  if cs.isEmpty then ""
  else if cs.contains ':' then String.ofList (cs.takeWhile (· ≠ ':')) ++ ":***"
  else "***"

def redacted (config : DeviceConfig) : DeviceConfig :=
  { config with authorization := maskAuthorization config.authorization }

end DeviceConfig

end ChunkRelay
