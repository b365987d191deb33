import ChunkRelay.Device.Transport
import ChunkRelay.DeviceConfig
import ChunkRelay.Report.Table
import ChunkRelay.Tracker
import ChunkRelay.Upload.Uploader

/-! # Sessions

A session speaks the protocol over a transport that it borrows and never opens or closes. It reads
the device's configuration, switches the stream on and off, judges the continuity of the packets
and hands their chunks to an uploader. Without a transport it can still be fed with reports from
elsewhere; without an uploader chunks go nowhere.
-/

namespace ChunkRelay

/-- An accepted packet with its verdict; the first one after a reset has none. -/
structure PacketEvent where
  packet : StreamPacket
  verdict? : Option Verdict
  deriving DecidableEq, Repr

/-- Whether the packet did not follow the one before it. -/
def PacketEvent.isDiscontinuous (event : PacketEvent) : Bool := event.verdict? = some .discontinuous

/-- A session on a world `ω`. -/
structure Session (ω : Type) where
  transport? : Option (Transport ω)
  uploader? : Option (Uploader ω)
  tracker : Tracker
  /-- Whether the latest control report that was written switched the stream on. -/
  streaming : Bool
  closed : Bool

namespace Session

variable {ω α : Type}

def new (transport? : Option (Transport ω)) (uploader? : Option (Uploader ω)) : Session ω :=
  ⟨transport?, uploader?, .new, false, false⟩

def setUploader (uploader? : Option (Uploader ω)) (s : Session ω) : Session ω :=
  { s with uploader? }

/-- Take any integer for the last sequence number, counted modulo 32. -/
def updateLastSequence (n : Int) (s : Session ω) : Session ω :=
  { s with tracker := { s.tracker with last? := some (Sequence.wrap n) } }

def state : Act (Session ω × ω) (Session ω) := do pure (← get).1

def update (f : Session ω → Session ω) : Act (Session ω × ω) Unit := modify fun w => (f w.1, w.2)

def outside (x : Act ω α) : Act (Session ω × ω) α := x.within Focus.snd

/-- How long feature reads and control writes may take. -/
def requestTimeoutMs : Int := 1000

/-- The transport, without which the operation fails. -/
def requireTransport (operation : String) : Act (Session ω × ω) (Transport ω) := do
  match (← state).transport? with
  | some transport => pure transport
  | none => Act.failWith (.transportRequired operation)

/-- Read the bytes of a configuration report. -/
def readFeature (report : ReportId) : Act (Session ω × ω) (List UInt8) := do
  let transport ← requireTransport "read_feature"
  outside (transport.readFeature report.code report.limit requestTimeoutMs)

def readFeatures : Act (Session ω × ω) Nat := do
  Act.ofExcept (Codec.decodeFeatures (← readFeature .supportedFeatures))

/-- The text of one of the device's string reports. -/
def readText (report : ReportId) : Act (Session ω × ω) String := do
  Act.ofExcept (Codec.decodeText (← readFeature report) report.limit)

/-- Read the four configuration reports in the order of their ids; the first failure ends it. -/
def readConfig : Act (Session ω × ω) DeviceConfig := do
  let features ← readFeatures
  let identifier ← readText .deviceIdentifier
  let dataUri ← readText .dataUri
  let authorization ← readText .authorization
  Act.log .info .session
    (s!"DEVICE_CONFIG device_id={identifier} uri={dataUri} features=" ++ Hex.word features)
  pure ⟨features, identifier, dataUri, authorization⟩

/-- Write a control report. The number of bytes written is not looked at. -/
def writeControl (enable : Bool) : Act (Session ω × ω) Unit := do
  let transport ← requireTransport "stream_control"
  let _ ← outside
    (transport.writeOutput ReportId.streamControl.code (Codec.encodeControl enable)
      requestTimeoutMs)

def enable : Act (Session ω × ω) Unit := do
  writeControl true
  update ({ · with streaming := true })
  Act.log .info .session "STREAM_ENABLED"

/-- Switch the stream off and forget the last sequence number. If the report cannot be written,
nothing changes. -/
def disable : Act (Session ω × ω) Unit := do
  writeControl false
  update fun s => { s with streaming := false, tracker := s.tracker.reset }
  Act.log .info .session "STREAM_DISABLED"

/-- How log records write a sequence number that may be missing. -/
def shownSequence : Option Sequence → String
  | some n => toString n.val
  | none => "None"

/-- Take in an input report, which has to be a stream report. -/
def handleInput (id : Int) (bytes : List UInt8) : Act (Session ω × ω) PacketEvent := do
  if id ≠ ReportId.streamData.code then Act.failWith (.notStreamData id)
  else
    let packet ← Act.ofExcept (Codec.decodePacket bytes)
    let before := (← state).tracker
    let (verdict?, tracker) := before.see packet.sequence
    update ({ · with tracker })
    match verdict? with
    | some .discontinuous =>
      Act.log .warning .session
        (s!"SEQUENCE_DISCONTINUITY expected={shownSequence before.expected?}" ++
          s!" got={packet.sequence.val} total={tracker.discontinuities}")
    | _ =>
      Act.log .debug .session
        s!"STREAM_PACKET seq={packet.sequence.val} len={packet.payload.length}"
    pure ⟨packet, verdict?⟩

def readEvent (timeoutMs : Int) : Act (Session ω × ω) PacketEvent := do
  let transport ← requireTransport "read_packet"
  let (id, bytes) ← outside (transport.readInput ReportId.streamData.limit timeoutMs)
  handleInput id bytes

def readPacket (timeoutMs : Int) : Act (Session ω × ω) StreamPacket := do
  pure (← readEvent timeoutMs).packet

/-- Hand a packet's chunk to the uploader; without one there is no status. -/
def forward (config : DeviceConfig) (packet : StreamPacket) :
    Act (Session ω × ω) (Option Int) := do
  match (← state).uploader? with
  | some uploader =>
    let status ← outside (uploader.deliver config.dataUri config.authorization packet.payload)
    pure (some status)
  | none => pure none

/-- Forward a packet where it or the configuration may be missing, which shows only if there is an
uploader. -/
def forwardIfGiven (config? : Option DeviceConfig) (packet? : Option StreamPacket) :
    Act (Session ω × ω) (Option Int) := do
  match (← state).uploader?, config?, packet? with
  | none, _, _ => pure none
  | some _, some config, some packet => forward config packet
  | some _, _, _ => throw (.defect .forwardIncomplete)

/-- Wait for a packet and forward it. What the session learnt from the packet stays when its
delivery fails. -/
def process (config? : Option DeviceConfig) (timeoutMs : Int) :
    Act (Session ω × ω) PacketEvent := do
  match config? with
  | some config =>
    let event ← readEvent timeoutMs
    let _ ← forward config event.packet
    pure event
  | none => Act.failWith .deviceConfigRequired

/-- Close the session: switch a running stream off, log a failure of that, and forget the last
sequence number. Only the first call does anything. -/
def close : Act (Session ω × ω) Unit := do
  let s ← state
  if s.closed then pure ()
  else
    update ({ · with closed := true })
    if s.streaming && s.transport?.isSome then
      tryCatch disable fun e =>
        Act.log .warning .session ("STREAM_DISABLE_ON_CLOSE_FAILED err=" ++ e.message)
    update fun s => { s with tracker := s.tracker.reset }

end Session

end ChunkRelay
