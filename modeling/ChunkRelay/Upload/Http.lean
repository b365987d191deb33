import ChunkRelay.Device.Transport
import ChunkRelay.Upload.Authorization
import ChunkRelay.Upload.Uploader

/-! # Upload by HTTP

One POST request per chunk, with the authorization of the device as a header, and counts of what
became of them. A failed delivery is not repeated.
-/

namespace ChunkRelay

structure PostRequest where
  url : String
  body : List UInt8
  /-- The headers, each name once, in the order they are sent. -/
  headers : List (String × String)
  /-- How many seconds to wait for a response. -/
  timeout : Binary64
  deriving DecidableEq, Repr

structure HttpClient (σ : Type) where
  /-- Send a request; the answer is the status of the response. -/
  post (request : PostRequest) : Call σ Int
  close : Call σ Unit

/-- What became of the requests since the last reset. -/
structure UploadStats where
  chunksUploaded : Nat
  bytesUploaded : Nat
  uploadFailures : Nat
  /-- The status of the latest request, zero if there was no response or no request. -/
  lastStatus : Int
  deriving DecidableEq, Repr

namespace UploadStats

def zero : UploadStats := ⟨0, 0, 0, 0⟩

def success (stats : UploadStats) (status : Int) (bytes : Nat) : UploadStats :=
  { stats with
    chunksUploaded := stats.chunksUploaded + 1
    bytesUploaded := stats.bytesUploaded + bytes
    lastStatus := status }

def failure (stats : UploadStats) (status : Int) : UploadStats :=
  { stats with uploadFailures := stats.uploadFailures + 1, lastStatus := status }

end UploadStats

structure HttpUploader where
  timeoutMs : Int
  verbose : Bool
  /-- Whether closing the uploader closes its client. -/
  ownsClient : Bool
  stats : UploadStats
  deriving DecidableEq, Repr

namespace HttpUploader

def defaultTimeoutMs : Int := 30000

def contentType : String := "application/octet-stream"

def new (timeoutMs : Int) (verbose ownsClient : Bool) : HttpUploader :=
  ⟨timeoutMs, verbose, ownsClient, .zero⟩

/-- The headers of a request. A device header with the name of the content type gives way to it. -/
def headers (auth : AuthHeader) : List (String × String) :=
  if auth.name = "Content-Type" then [("Content-Type", contentType)]
  else [(auth.name, auth.value), ("Content-Type", contentType)]

/-- A timeout in seconds, which has to be within the range of doubles. -/
def timeoutSeconds (timeoutMs : Int) : Except Failure Binary64 :=
  match Binary64.ofInt timeoutMs with
  | .infinite _ => .error (.defect .timeoutTooLarge)
  | x => .ok x.thousandth

/-- Set the timeout, which has to be positive. -/
def setTimeout (timeoutMs : Int) (u : HttpUploader) : Except Failure HttpUploader :=
  if timeoutMs ≤ 0 then .error (.ofCause (.uploadTimeoutNotPositive timeoutMs))
  else .ok { u with timeoutMs }

/-- Set whether deliveries are logged where they show by default. -/
def setVerbose (verbose : Bool) (u : HttpUploader) : HttpUploader := { u with verbose }

def resetStats (u : HttpUploader) : HttpUploader := { u with stats := .zero }

variable {σ : Type}

def count (f : UploadStats → UploadStats) : Act (HttpUploader × σ) Unit :=
  modify fun w => ({ w.1 with stats := f w.1.stats }, w.2)

def isSuccess (status : Int) : Bool := 200 ≤ status && status < 300

/-- Deliver a chunk. An empty address and a malformed authorization are refused before anything is
sent or counted. -/
def deliver (client : HttpClient σ) (uri authorization : String) (payload : List UInt8) :
    Act (HttpUploader × σ) Int := do
  if uri.isEmpty then Act.failWith .uriEmpty
  else
    let auth ← Act.ofCause (AuthHeader.parse authorization)
    let timeout ← Act.ofExcept (timeoutSeconds (← get).1.timeoutMs)
    let request : PostRequest := ⟨uri, payload, headers auth, timeout⟩
    let status ← tryCatch ((client.post request).act.within Focus.snd) fun e => do
      if e.isRequestFault then
        count (·.failure 0)
        Act.log .warning .uploader s!"UPLOAD_FAILED uri={uri} err={e.message}"
        Act.failWith (.noResponse e.message uri payload.length)
      else throw e
    if isSuccess status then
      count (·.success status payload.length)
      Act.log (if (← get).1.verbose then .info else .debug) .uploader
        s!"CHUNK_UPLOADED bytes={payload.length} status={status}"
      pure status
    else
      count (·.failure status)
      Act.logNumber .warning .uploader status s!"UPLOAD_HTTP_ERROR uri={uri} status={status}"
      Act.failWith (.httpStatus status uri payload.length)

/-- Close the client if it is the uploader's own. -/
def close (client : HttpClient σ) : Act (HttpUploader × σ) Unit := do
  if (← get).1.ownsClient then client.close.act.within Focus.snd

def uploader (client : HttpClient σ) : Uploader (HttpUploader × σ) where
  deliver := deliver client

end HttpUploader

end ChunkRelay
