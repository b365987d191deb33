import ChunkRelay.Report.Codec

/-! # Typed reports

The six reports of the protocol, their ids and limits, and the way from bytes to a typed report
and back.
-/

namespace ChunkRelay

inductive ReportId where
  | supportedFeatures
  | deviceIdentifier
  | dataUri
  | authorization
  | streamControl
  | streamData
  deriving DecidableEq, Repr

/-- How a report travels. -/
inductive ReportKind where
  | feature | output | input
  deriving DecidableEq, Repr

def ReportKind.name : ReportKind → String
  | feature => "feature"
  | output => "output"
  | input => "input"

namespace ReportId

def all : List ReportId :=
  [supportedFeatures, deviceIdentifier, dataUri, authorization, streamControl, streamData]

def code : ReportId → Int
  | supportedFeatures => 1
  | deviceIdentifier => 2
  | dataUri => 3
  | authorization => 4
  | streamControl => 5
  | streamData => 6

def ofCode? (id : Int) : Option ReportId := all.find? (·.code = id)

def kind : ReportId → ReportKind
  | streamControl => .output
  | streamData => .input
  | _ => .feature

def direction : ReportId → String
  | streamControl => "host_to_device"
  | _ => "device_to_host"

/-- The most bytes that the report holds. -/
def limit : ReportId → Nat
  | supportedFeatures => 4
  | deviceIdentifier => 64
  | dataUri => 128
  | authorization => 128
  | streamControl => 1
  | streamData => maxChunkLength + 1

end ReportId

inductive Report where
  | supportedFeatures (value : Int)
  | deviceIdentifier (value : String)
  | dataUri (value : String)
  | authorization (value : String)
  | streamControl (enabled : Bool)
  | streamData (packet : StreamPacket)
  deriving DecidableEq, Repr

/-- A value that may or may not be a report; of other values only the name of their type counts. -/
inductive ReportCandidate where
  | report (report : Report)
  | other (typeName : String)
  deriving DecidableEq, Repr

namespace Report

def isKnown (id : Int) : Bool := (ReportId.ofCode? id).isSome

/-- The report of a number, which has to be a report's id. -/
def ofId (id : Int) : Except Failure ReportId :=
  match ReportId.ofCode? id with
  | some report => .ok report
  | none => .error (.ofCause (.unknownReport id))

def id : Report → ReportId
  | supportedFeatures _ => .supportedFeatures
  | deviceIdentifier _ => .deviceIdentifier
  | dataUri _ => .dataUri
  | authorization _ => .authorization
  | streamControl _ => .streamControl
  | streamData _ => .streamData

/-- The report of kind `id` that the bytes hold. -/
def read (id : ReportId) (bytes : List UInt8) : Except Failure Report :=
  match id with
  | .supportedFeatures => (Codec.decodeFeatures bytes).map fun n => supportedFeatures n
  | .deviceIdentifier => (Codec.decodeText bytes id.limit).map deviceIdentifier
  | .dataUri => (Codec.decodeText bytes id.limit).map dataUri
  | .authorization => (Codec.decodeText bytes id.limit).map authorization
  | .streamControl => (Codec.decodeControl bytes).map streamControl
  | .streamData => (Codec.decodePacket bytes).map streamData

def decode (id : Int) (bytes : List UInt8) : Except Failure Report := do
  read (← ofId id) bytes

def write (report : Report) : Except Failure (List UInt8) :=
  match report with
  | supportedFeatures value => Codec.encodeFeatures value
  | deviceIdentifier value | dataUri value | authorization value =>
    Codec.encodeText value report.id.limit
  | streamControl enabled => .ok (Codec.encodeControl enabled)
  | streamData packet => Codec.encodePacket packet.sequence.val packet.payload

def encode (report : Report) : Except Failure (Int × List UInt8) :=
  report.write.map fun bytes => (report.id.code, bytes)

end Report

/-- The number and the bytes of a value, which has to be a report. -/
def ReportCandidate.encode : ReportCandidate → Except Failure (Int × List UInt8)
  | report r => r.encode
  | other typeName => .error (.ofCause (.notAReport typeName))

end ChunkRelay
