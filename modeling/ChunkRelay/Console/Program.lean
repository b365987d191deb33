import ChunkRelay.Bench
import ChunkRelay.Console.Arguments
import ChunkRelay.Console.LogSetup
import ChunkRelay.Settings.Document

/-! # The program

What the commands do and print. Operational errors are printed with their hints; all other failures
are not handled here.
-/

namespace ChunkRelay.Console

/-- How a run of the program ends, or that it has not come to an end within the rounds granted. -/
inductive Ending where
  | exit (code : Nat)
  | unfinished
  deriving Repr, DecidableEq

variable {σ : Type}

/-! ## Listing devices -/

def deviceLabel (d : DeviceInfo) : String :=
  match [d.manufacturer, d.productName].filter (!·.isEmpty) with
  | [] => "(unknown)"
  | names => String.intercalate " " names

def deviceLines (d : DeviceInfo) : List String :=
  [Hex.padded 4 d.vendor ++ ":" ++ Hex.padded 4 d.product ++ " " ++ deviceLabel d,
    s!"  path: {d.path}"] ++
  (if d.serialNumber.isEmpty then [] else [s!"  serial: {d.serialNumber}"]) ++
  ["  usage_page=0x" ++ Hex.padded 4 d.usagePage ++ " usage=0x" ++ Hex.padded 4 d.usage ++
    s!" interface={d.interface}"]

/-- Print the lines about a device. The number of the interface is in the last one, and may be too
long to be written. -/
def printDevice (d : DeviceInfo) : Act (Bench σ) Unit :=
  if Numeral.isWritable d.interface then (deviceLines d).forM Act.line
  else do
    (deviceLines d).dropLast.forM Act.line
    throw (.defect .numberTooLong)

def listCommand (p : Platform σ) (options : Options) : Act (Bench σ) Unit := do
  let id := fun option => (options option).getD (.int 0)
  let devices ← Bench.devices p (id .vendor) (id .product)
  if devices.isEmpty then Act.line "No HID devices found."
  else devices.forM printDevice

/-! ## Showing a device's configuration -/

/-- The lines about a device's configuration, which do not give away its secret. -/
def configLines (config : DeviceConfig) : List String :=
  let shown := config.redacted
  ["MDS device configuration:", s!"  Device ID: {shown.identifier}",
    s!"  Data URI:  {shown.dataUri}", s!"  Auth:      {shown.authorization}",
    "  Features:  " ++ Hex.word shown.features]

/-- The settings that arguments lead to: those of a file, if one is given, with those of the
arguments on top. -/
def resolveSettings (tree : FileTree) (a : Arguments) : Except Failure Settings := do
  let base ← match a.configFile? with
    | some file => Settings.load tree file
    | none => pure Settings.default
  (base.override a.overrides).validate

def configCommand (p : Platform σ) (settings : Settings) : Act (Bench σ) Unit := do
  let config ← Bench.readConfig p settings
  (configLines config).forM Act.line

/-! ## Relaying a device's chunks -/

/-- The path of the log file that settings name. -/
def logPath (value : Data) : Except Defect Path :=
  match value with
  | .text text => FileTree.path text
  | .rawText t => .error (if t.isRefusedForHalf then .pathNotEncodable else .pathHoldsNul)
  | _ => .error .logPathNotText

/-- Send log records to the file that settings name, if they name one. The answer says what keeps
records of a level from it. -/
def setUpLogFile (tree : FileTree) (verbose : Bool) (settings : Settings) :
    Act (Bench σ) (Level → Option Defect) :=
  let value := settings .logFile
  let fileVerbose := (settings .verbose).isSet
  if !value.isSet then pure fun _ => none
  else
    let journal := do
      let path ← logPath value
      pure (path, ← (Journal.new (LogSetup.initial.toConsole verbose) tree).toFile path fileVerbose)
    match journal with
    | .ok (path, journal) => do
      Act.note (.logToFile path fileVerbose)
      pure journal.refusal?
    | .error defect => throw (.defect defect)

def packetLine (event : PacketEvent) : String :=
  s!"CHUNK seq={event.packet.sequence.val} len={event.packet.payload.length}" ++
    (if event.isDiscontinuous then " (discontinuity)" else "")

def printPacket (_ : Unit) (event : PacketEvent) : Act (List Unit × Bench σ) Unit :=
  Act.line (packetLine event)

def statsLine (stats : BridgeStats) : String :=
  s!"Packets: {stats.packets} bytes={stats.bytes}" ++
    s!" discontinuities={stats.discontinuities} delivery_failures={stats.deliveryFailures}"

def uploadLine (stats : UploadStats) : String :=
  s!"Uploads: chunks={stats.chunksUploaded} bytes={stats.bytesUploaded}" ++
    s!" failures={stats.uploadFailures} last_status={stats.lastStatus}"

/-- Run a started bridge, with the lines before it. -/
def runBridge (p : Platform σ) (uploads : Bool) (limits : RunLimits) (rounds : Nat) :
    Act (Pipeline Unit (Bench σ)) RunResult := do
  let config ← Act.ofCause (← get).bridge.requireConfig
  Act.line s!"Device:    {config.identifier}"
  Act.line s!"Data URI:  {config.dataUri}"
  Act.line ("Upload:    " ++ if uploads then "on" else "off")
  Pipeline.run (p.clock.within Bench.platformPart) printPacket limits rounds

/-- Relay the chunks of the device that settings select. -/
def relay (p : Platform σ) (settings : Settings) (limits : RunLimits) (rounds : Nat) :
    Act (Bench σ) RunResult :=
  let uploads := (settings .upload).isSet
  let run := Bench.withDevice p settings
    (Bench.inBridge p settings uploads [()] (runBridge p uploads limits rounds))
  if uploads then Bench.withUploader p settings run else run

def Options.limits (o : Options) : RunLimits :=
  ⟨(o .maxPackets).map Limit.ofData, (o .seconds).map Limit.ofData⟩

/-- Relay chunks and print what came of it. -/
def streamCommand (p : Platform σ) (tree : FileTree) (a : Arguments) (settings : Settings)
    (rounds : Nat) : Act (Bench σ) Ending := do
  let logRefusal? ← setUpLogFile tree a.verbose settings
  match ← relay { p with logRefusal? } settings a.options.limits rounds with
  | .finished stats => do
    Act.line (statsLine stats)
    if (settings .upload).isSet then Act.line (uploadLine (← get).uploader.stats)
    pure (.exit 0)
  | .unfinished => pure .unfinished

/-! ## All commands -/

def perform (p : Platform σ) (tree : FileTree) (rounds : Nat) (a : Arguments) :
    Act (Bench σ) Ending := do
  Act.note (.logToConsole a.verbose)
  match a.command with
  | .devices => do
    listCommand p a.options
    pure (.exit 0)
  | .config => do
    configCommand p (← Act.ofExcept (resolveSettings tree a))
    pure (.exit 0)
  | .stream => do
    streamCommand p tree a (← Act.ofExcept (resolveSettings tree a)) rounds

/-- Print an operational error. Other failures go on. -/
def report (e : Failure) : Act (Bench σ) Ending := do
  if e.isOperational then
    Act.line s!"ERROR: {e.message}"
    let hint := e.hint?.getD ""
    if !hint.isEmpty then Act.line s!"Hint: {hint}"
    pure (.exit 1)
  else throw e

def program (p : Platform σ) (tree : FileTree) (rounds : Nat) (arguments : List String) :
    Act (Bench σ) Ending :=
  match Arguments.read arguments with
  | .ok a => tryCatch (perform p tree rounds a) report
  | .error dismissal => pure (.exit dismissal.exitCode)

end ChunkRelay.Console
