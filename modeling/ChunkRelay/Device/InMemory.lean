import ChunkRelay.Device.Transport
import ChunkRelay.DeviceConfig
import ChunkRelay.Report.Table

/-! # A device in memory

A device that answers the configuration reports from a configuration, obeys stream control and
sends queued data as stream packets. Data is cut into chunks when it is queued. Sequence numbers
count modulo 32 and start again from zero when the stream is switched off.
-/

namespace ChunkRelay

structure InMemoryDevice where
  config : DeviceConfig
  isOpen : Bool
  streaming : Bool
  /-- The control reports accepted so far, the first one first. -/
  writes : List (Int × List UInt8)
  /-- The chunks still to be sent, the next one first. -/
  pending : List (List UInt8)
  /-- The sequence number of the next packet. -/
  next : Sequence
  deriving DecidableEq, Repr

/-- Data cut into chunks that are full but for the last one. -/
def chunks (data : List UInt8) : List (List UInt8) :=
  if data.isEmpty then [] else data.take maxChunkLength :: chunks (data.drop maxChunkLength)
termination_by data.length
decreasing_by
  cases data with
  | nil => simp_all
  | cons => simp only [List.length_drop, List.length_cons, maxChunkLength]; omega

namespace InMemoryDevice

def new (config : DeviceConfig) : InMemoryDevice := ⟨config, false, false, [], [], 0⟩

/-- Queue data; the first component is the number of chunks. -/
def queue (device : InMemoryDevice) (data : List UInt8) : Nat × InMemoryDevice :=
  ((chunks data).length, { device with pending := device.pending ++ chunks data })

/-- Count on as if `count` packets had been lost. -/
def skip (device : InMemoryDevice) (count : Int) : InMemoryDevice :=
  { device with next := Sequence.wrap (device.next.val + count) }

/-- The report that the device answers a feature request with. -/
def feature? (config : DeviceConfig) (id : Int) : Option Report :=
  match ReportId.ofCode? id with
  | some .supportedFeatures => some (.supportedFeatures config.features)
  | some .deviceIdentifier => some (.deviceIdentifier config.identifier)
  | some .dataUri => some (.dataUri config.dataUri)
  | some .authorization => some (.authorization config.authorization)
  | _ => none

def requireOpen (operation : String) : Act InMemoryDevice Unit := do
  if (← get).isOpen then pure () else Act.failWith (.notOpen operation)

def readFeature (id limit : Int) : Act InMemoryDevice (List UInt8) := do
  requireOpen "read_feature"
  match feature? (← get).config id with
  | some report =>
    let (_, bytes) ← Act.ofExcept report.encode
    pure (windowTo bytes limit)
  | none => Act.failWith (.unsupportedFeature id)

def writeOutput (id : Int) (bytes : List UInt8) : Act InMemoryDevice Int := do
  requireOpen "write_output"
  if id ≠ ReportId.streamControl.code then Act.failWith (.unsupportedOutput id)
  else
    match Codec.decodeControl bytes with
    | .error e => Act.failWith (.controlRejected e.message)
    | .ok enabled =>
      modify fun device =>
        { device with
          writes := device.writes ++ [(id, bytes)]
          streaming := enabled
          next := if enabled then device.next else 0 }
      pure bytes.length

/-- Send the next chunk as a packet. -/
def readInput (limit timeoutMs : Int) : Act InMemoryDevice (Int × List UInt8) := do
  requireOpen "read_input"
  let device ← get
  match device.streaming, device.pending with
  | true, payload :: rest =>
    set { device with pending := rest }
    let bytes ← Act.ofExcept (Codec.encodePacket device.next.val payload)
    modify fun device => { device with next := device.next.next }
    pure (ReportId.streamData.code, windowTo bytes limit)
  | _, _ => Act.failWith (.nothingQueued timeoutMs)

/-- The device as a transport. It always answers at once. -/
def transport : Transport InMemoryDevice where
  openDevice := modify ({ · with isOpen := true })
  closeDevice := modify ({ · with isOpen := false })
  isOpen := InMemoryDevice.isOpen
  readFeature id limit _ := readFeature id limit
  writeOutput id bytes _ := writeOutput id bytes
  readInput := readInput

end InMemoryDevice

end ChunkRelay
