import ChunkRelay.Settings.Setting
import ChunkRelay.Text.Hex

/-! # Failures

Everything that can end an operation early. Operational errors belong to a class, which callers
tell apart, and carry a message, an optional hint and details. The program's own ones are given by
their cause; custom devices and uploaders may report others. Faults come from the platform below:
the device library, the network library or the operating system. Defects are inputs that no
operation was written for.
-/

namespace ChunkRelay

/-- The classes of operational errors. -/
inductive ErrorClass where
  | general
  | invalidArgument
  | configuration
  | bridgeNotStarted
  | malformedReport
  | wrongReport
  | authorizationFormat
  | deliveryFailed
  | transport
  | transportOpen
  | transportFailed
  | transportTimeout
  deriving Repr, DecidableEq, Inhabited

namespace ErrorClass

def code : ErrorClass → String
  | general => "unknown"
  | invalidArgument => "invalid_argument"
  | configuration => "config_error"
  | bridgeNotStarted => "bridge_not_started"
  | malformedReport => "malformed_report"
  | wrongReport => "wrong_report_type"
  | authorizationFormat => "invalid_auth_format"
  | deliveryFailed => "delivery_failed"
  | transport => "transport_error"
  | transportOpen => "transport_open"
  | transportFailed => "transport_io"
  | transportTimeout => "timeout"

/-- A class with all broader ones, the narrowest first. -/
def lineage : ErrorClass → List ErrorClass
  | general => [general]
  | transport => [transport, general]
  | c@transportOpen | c@transportFailed | c@transportTimeout => [c, transport, general]
  | c => [c, general]

end ErrorClass

/-- The causes of the program's own operational errors. -/
inductive Cause where
  /-- A features report with fewer than four bytes. -/
  | featuresTooShort (length : Nat)
  | featuresOutOfRange (value : Int)
  /-- A string report needs room for at least its terminator. -/
  | textLimitTooSmall (limit : Int)
  | controlEmpty
  | controlUnknown (mode : UInt8)
  | streamDataEmpty
  | chunkTooLong (length : Nat)
  | unknownReport (id : Int)
  | notAReport (typeName : String)
  | sequenceOutOfRange (sequence : Int)
  /-- An input report of another type where stream data was expected. -/
  | notStreamData (id : Int)
  | deviceConfigRequired
  | transportRequired (operation : String)
  | bridgeNotStarted
  | authorizationFormat (length : Nat)
  | uriEmpty
  | uploadTimeoutNotPositive (ms : Int)
  /-- The request failed before a response came. -/
  | noResponse (reason uri : String) (bytes : Nat)
  /-- The response's status is not a success. -/
  | httpStatus (status : Int) (uri : String) (bytes : Nat)
  | enumerationFailed (reason : String)
  | deviceUnspecified
  | openFailed (target : Data) (reason : String)
  | modeChangeFailed (reason : String)
  | filteredOut (id : Int) (allowed : List Int)
  | featureReadFailed (id : Int) (reason : String)
  | writeFailed (id : Int) (reason : String)
  /-- The device took fewer than zero bytes. -/
  | writeRejected (id count : Int)
  | readFailed (reason : String)
  /-- The device sent nothing in time. -/
  | noReport (timeoutMs : Int)
  /-- The in-memory device has nothing to send. -/
  | nothingQueued (timeoutMs : Int)
  | notOpen (operation : String)
  | unsupportedFeature (id : Int)
  | unsupportedOutput (id : Int)
  | controlRejected (reason : String)
  | contextTornDown (operation : String)
  | devicePathEmpty
  | unknownSettings (keys : List Data)
  | noDeviceSelected
  | settingNotPositive (ms : Data)
  | settingsMissing (path : String)
  | settingsUnparsable (path : String)
  | settingsNotMapping (path : String)
  | settingInvalid (reason path : String)
  deriving Repr

namespace Cause

def errorClass : Cause → ErrorClass
  | featuresTooShort _ | controlEmpty | controlUnknown _ | streamDataEmpty => .malformedReport
  | featuresOutOfRange _ | textLimitTooSmall _ | chunkTooLong _ | sequenceOutOfRange _
  | deviceConfigRequired | transportRequired _ | uriEmpty | uploadTimeoutNotPositive _
  | contextTornDown _ | devicePathEmpty => .invalidArgument
  | unknownReport _ | notAReport _ | notStreamData _ | filteredOut .. | unsupportedFeature _
  | unsupportedOutput _ => .wrongReport
  | bridgeNotStarted => .bridgeNotStarted
  | authorizationFormat _ => .authorizationFormat
  | noResponse .. | httpStatus .. => .deliveryFailed
  | deviceUnspecified | openFailed .. => .transportOpen
  | enumerationFailed _ | modeChangeFailed _ | featureReadFailed .. | writeFailed ..
  | writeRejected .. | readFailed _ | notOpen _ | controlRejected _ => .transportFailed
  | noReport _ | nothingQueued _ => .transportTimeout
  | unknownSettings _ | noDeviceSelected | settingNotPositive _ | settingsMissing _
  | settingsUnparsable _ | settingsNotMapping _ | settingInvalid .. => .configuration

def message : Cause → String
  | featuresTooShort length => s!"features report too short: {length} < 4"
  | featuresOutOfRange value => s!"features value out of u32 range: {value}"
  | textLimitTooSmall limit => s!"max_len must be >= 1, got {limit}"
  | controlEmpty => "stream control report is empty"
  | controlUnknown mode => "unknown stream control mode " ++ Hex.reportId mode.toNat
  | streamDataEmpty => "stream data report missing sequence byte"
  | chunkTooLong length => s!"chunk payload too long: {length} > 63"
  | unknownReport id => "unknown MDS report id " ++ Hex.reportId id
  | notAReport typeName => s!"not an MDS report variant: {typeName}"
  | sequenceOutOfRange sequence => s!"sequence out of range: {sequence} (0..31)"
  | notStreamData id =>
    "expected stream data report " ++ Hex.reportId 6 ++ ", got " ++ Hex.reportId id
  | deviceConfigRequired => "process() requires a DeviceConfig"
  | transportRequired operation =>
    s!"{operation} needs a transport; this session was created without one."
  | bridgeNotStarted => "MdsBridge has no device config yet."
  | authorizationFormat _ =>
    "Invalid authorization header format (expected 'Header-Name:value')."
  | uriEmpty => "upload URI is empty"
  | uploadTimeoutNotPositive ms => s!"upload timeout must be > 0 ms, got {ms}"
  | noResponse .. => "Chunk upload failed (no response)."
  | httpStatus status .. => s!"Chunk upload failed with HTTP status {status}."
  | enumerationFailed reason => s!"HID enumeration failed: {reason}"
  | deviceUnspecified => "HidApiTransport needs a device path or vendor_id/product_id"
  | openFailed target reason =>
    "could not open HID device " ++ target.shown ++ ": " ++ reason
  | modeChangeFailed reason => s!"HID set_nonblocking failed: {reason}"
  | filteredOut id _ => "report id " ++ Hex.reportId id ++ " is filtered out"
  | featureReadFailed id reason =>
    "HID feature read " ++ Hex.reportId id ++ " failed: " ++ reason
  | writeFailed id reason =>
    "HID write " ++ Hex.reportId id ++ " failed (device disconnected?): " ++ reason
  | writeRejected id count => "HID write " ++ Hex.reportId id ++ s!" failed (rc={count})"
  | readFailed reason => s!"HID read failed (device disconnected or unavailable): {reason}"
  | noReport timeoutMs => s!"no input report within {timeoutMs} ms"
  | nothingQueued timeoutMs => s!"no input report within {timeoutMs} ms"
  | notOpen operation => s!"{operation} while transport not open"
  | unsupportedFeature id => "unsupported feature report " ++ Hex.reportId id
  | unsupportedOutput id => "unsupported output report " ++ Hex.reportId id
  | controlRejected reason => s!"device rejected stream control: {reason}"
  | contextTornDown operation => s!"{operation} on a torn-down HidContext"
  | devicePathEmpty => "device path is empty"
  | unknownSettings keys => "Unknown bridge config keys: " ++ (Data.list keys).shown
  | noDeviceSelected => "No device selected."
  | settingNotPositive ms => "upload_timeout_ms must be > 0, got " ++ ms.plain
  | settingsMissing path => s!"Bridge config not found: {path}"
  | settingsUnparsable _ => "Failed to parse bridge config."
  | settingsNotMapping _ => "Bridge config must be a mapping."
  | settingInvalid .. => "Invalid value in bridge config."

/-- The advice that goes with the error. What is wrong with unparsable settings is not worded
here, so their hint is empty. -/
def hint? : Cause → Option String
  | transportRequired _ =>
    some "Use handle_input_report() for externally driven transports."
  | bridgeNotStarted => some "Call start() or enter the bridge context first."
  | authorizationFormat _ =>
    some "Check the authorization feature report the device returns."
  | noResponse reason .. => some reason
  | unknownSettings _ =>
    some ("Valid keys: " ++ (Data.list (Setting.all.map (.text ·.name))).shown)
  | noDeviceSelected => some "Set device_path, or both vendor_id and product_id."
  | settingsUnparsable _ => some ""
  | settingInvalid reason _ => some reason
  | _ => none

/-- The facts that go with the error, by name. -/
def details : Cause → List (String × Data)
  | featuresTooShort length | chunkTooLong length => [("len", .int length)]
  | authorizationFormat length => [("length", .int length)]
  | controlUnknown mode => [("mode", .int mode.toNat)]
  | unknownReport id | notStreamData id => [("report_id", .int id)]
  | noResponse _ uri bytes | httpStatus _ uri bytes =>
    [("uri", .text uri), ("bytes", .int bytes)]
  | filteredOut id allowed =>
    [("report_id", .int id), ("allowed", .list (allowed.map .int))]
  | noReport timeoutMs => [("timeout_ms", .int timeoutMs)]
  | settingNotPositive ms => [("upload_timeout_ms", ms)]
  | settingsUnparsable path | settingsNotMapping path | settingInvalid _ path =>
    [("path", .text path)]
  | _ => []

/-- Whether the message can be written, which a number in it may be too long for. Ids are written in
hexadecimal, which knows no limit, and a length is never that long. -/
def isWritable : Cause → Bool
  | featuresOutOfRange n | textLimitTooSmall n | sequenceOutOfRange n | uploadTimeoutNotPositive n
  | httpStatus n .. | writeRejected _ n | noReport n | nothingQueued n => Numeral.isWritable n
  | unknownSettings keys => keys.all Data.isWritable
  | settingNotPositive ms => ms.isWritable
  | _ => true

/-- The HTTP status of a failed delivery, zero if there was no response. -/
def status : Cause → Int
  | httpStatus status .. => status
  | _ => 0

end Cause

/-- An operational error as a custom device or uploader reports it. -/
structure ReportedError where
  errorClass : ErrorClass
  message : String
  hint? : Option String
  details : List (String × Data)
  status : Int
  deriving Repr

/-- The kinds of faults of the platform. -/
inductive FaultKind where
  /-- The operating system refused or failed a call. -/
  | system
  | systemTimeout
  | systemPermission
  /-- A value that the platform does not take. -/
  | value
  /-- A failure inside the platform. -/
  | runtime
  /-- A request that was not answered. -/
  | request
  | requestConnection
  | requestTimeout
  | requestStatus
  deriving Repr, DecidableEq

namespace FaultKind

def isRequest : FaultKind → Bool
  | request | requestConnection | requestTimeout | requestStatus => true
  | _ => false

/-- The faults that a device library is known to raise: failures of the operating system, to which
those of requests belong, and refused values. -/
def isDevice : FaultKind → Bool
  | runtime => false
  | _ => true

end FaultKind

/-- Inputs that no operation was written for. -/
inductive Defect where
  /-- Unknown settings whose names have no common order. -/
  | keysUnordered
  /-- A number with too many digits to be written in a message. -/
  | numberTooLong
  /-- A setting that does not exist where only settings were expected. -/
  | settingUnknown
  /-- A setting that is no number where it has to be compared with one. -/
  | settingIncomparable
  /-- A limit on a run that is no number. -/
  | limitIncomparable
  /-- A value that is no integer where one was expected. -/
  | notInteger (refusal : Data.IntegerRefusal)
  /-- A settings file that is not UTF-8. -/
  | fileNotUtf8
  | pathIsDirectory
  | partNotDirectory
  | fileInTheWay
  /-- A path with a NUL character. -/
  | pathHoldsNul
  /-- A path, or a name in it, that is longer than any that there could be. -/
  | pathTooLong
  /-- A path with half of a surrogate pair in it. -/
  | pathNotEncodable
  /-- A scalar that does not fit the type it claims. -/
  | scalarUnfit
  /-- A number in a scalar that is too great for what it stands for. -/
  | scalarTooGreat
  /-- A mapping in place of a scalar, where only a text would do. -/
  | scalarNotText
  /-- A word that is no truth value. -/
  | wordUnknown
  /-- A scalar that is no point in time. -/
  | momentUnfit
  /-- An empty scalar where a number was claimed. -/
  | scalarEmpty
  /-- Collections inside each other without end, or too many of them. -/
  | nestedTooDeep
  | devicePathNotText
  | logPathNotText
  /-- A timeout beyond the range of doubles. -/
  | timeoutTooLarge
  /-- A chunk to be forwarded without its packet or its device configuration. -/
  | forwardIncomplete
  deriving Repr, DecidableEq

/-- What ends an operation early. -/
inductive Failure where
  | caused (cause : Cause)
  | reported (error : ReportedError)
  | fault (kind : FaultKind) (message : String)
  | defect (defect : Defect)
  deriving Repr

namespace Failure

/-- The failure that a cause leads to: the error with its message or, where that cannot be written,
what comes of the attempt to write it. -/
def ofCause (cause : Cause) : Failure :=
  if cause.isWritable then caused cause else defect .numberTooLong

def errorClass? : Failure → Option ErrorClass
  | caused cause => some cause.errorClass
  | reported error => some error.errorClass
  | _ => none

/-- Whether the failure is an operational error of the given class or a narrower one. -/
def isClass (failure : Failure) (c : ErrorClass) : Bool :=
  match failure.errorClass? with
  | some own => own.lineage.contains c
  | none => false

/-- Whether the failure is an operational error of any class. -/
def isOperational (failure : Failure) : Bool := failure.errorClass?.isSome

/-- The message of a failure, as log lines and other messages quote it. -/
def message : Failure → String
  | caused cause => cause.message
  | reported error => error.message
  | fault _ message => message
  | defect .numberTooLong => Numeral.writingRefusal
  | defect _ => ""

def hint? : Failure → Option String
  | caused cause => cause.hint?
  | reported error => error.hint?
  | _ => none

def details : Failure → List (String × Data)
  | caused cause => cause.details
  | reported error => error.details
  | _ => []

def status : Failure → Int
  | caused cause => cause.status
  | reported error => error.status
  | _ => 0

/-- Failures that the device library is known to raise. -/
def isDeviceFault : Failure → Bool
  | fault kind _ => kind.isDevice
  | _ => false

def isRequestFault : Failure → Bool
  | fault kind _ => kind.isRequest
  | _ => false

end Failure

end ChunkRelay
