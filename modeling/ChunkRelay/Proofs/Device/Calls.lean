import ChunkRelay.Bench

/-! # Calls of the platform on record

The libraries of a platform can keep a record of their calls, each with what became of it. A record
stands beside the world that the calls take place in, and only the libraries themselves add to it.
-/

namespace ChunkRelay

/-- A call of the native library with what became of it. -/
inductive NativeCall where
  | opening (answer : Except Failure Unit)
  | close (answer : Except Failure Unit)
  | setNonblocking (nonblocking : Bool) (answer : Except Failure Unit)
  | read (size : Int) (timeoutMs? : Option Int) (answer : Except Failure (List UInt8))
  | write (bytes : List UInt8) (answer : Except Failure Int)
  | getFeature (id size : Int) (answer : Except Failure (List UInt8))
  | enumerate (vendor product : Int) (answer : Except Failure (List DeviceRecord))

namespace NativeCall

def isOpening : NativeCall → Bool
  | opening _ => true
  | _ => false

/-- Whether the call has brought a handle. -/
def opens : NativeCall → Bool
  | opening (.ok _) => true
  | _ => false

/-- Whether the call has taken a handle away, which it does even if it fails. -/
def closes : NativeCall → Bool
  | close _ => true
  | _ => false

/-- Whether the call needs a handle that stays. -/
def uses : NativeCall → Bool
  | setNonblocking .. | read .. | write .. | getFeature .. => true
  | _ => false

/-- Whether the device is taken to be gone after the call. -/
def isFaulty : NativeCall → Bool
  | read _ _ (.error e) | write _ (.error e) | getFeature _ _ (.error e) => e.isDeviceFault
  | _ => false

/-- The mode of the handle after a call, given the mode before it. A fresh handle blocks, and a mode
    is set once the call that sets it has returned. -/
def modeAfter (nonblocking : Bool) : NativeCall → Bool
  | opening (.ok _) => false
  | setNonblocking wanted (.ok _) => wanted
  | _ => nonblocking

def failure? : NativeCall → Option Failure
  | opening (.error e) | close (.error e) | setNonblocking _ (.error e) | read _ _ (.error e)
  | write _ (.error e) | getFeature _ _ (.error e) | enumerate _ _ (.error e) => some e
  | _ => none

/-- Whether the call has failed as the device library is known to fail. -/
def isStricken (call : NativeCall) : Bool := call.failure?.any Failure.isDeviceFault

end NativeCall

/-- A call of the HTTP client with what became of it. -/
inductive HttpCall where
  | post (request : PostRequest) (answer : Except Failure Int)
  | close (answer : Except Failure Unit)

namespace HttpCall

def closes : HttpCall → Bool
  | close _ => true
  | _ => false

end HttpCall

/-- A world with the calls so far, the first one first. -/
structure Traced (σ : Type) where
  world : σ
  native : List NativeCall
  http : List HttpCall

namespace Traced

variable {σ α : Type}

def new (world : σ) : Traced σ := ⟨world, [], []⟩

def part : Focus (Traced σ) σ where
  get := world
  set world t := { t with world }

end Traced

namespace Call

variable {σ α : Type}

/-- A native call that is put on record. -/
def asNative (enter : Except Failure α → NativeCall) (call : Call σ α) : Call (Traced σ) α :=
  fun t =>
    let reply := call t.world
    ⟨reply.answer, reply.stops,
      { t with world := reply.world, native := t.native ++ [enter reply.answer] }⟩

/-- A call of the HTTP client that is put on record. -/
def asHttp (enter : Except Failure α → HttpCall) (call : Call σ α) : Call (Traced σ) α :=
  fun t =>
    let reply := call t.world
    ⟨reply.answer, reply.stops,
      { t with world := reply.world, http := t.http ++ [enter reply.answer] }⟩

end Call

variable {σ : Type}

def NativeLibrary.traced (lib : NativeLibrary σ) : NativeLibrary (Traced σ) where
  openIds vendor product serial := (lib.openIds vendor product serial).asNative .opening
  openPath path := (lib.openPath path).asNative .opening
  close := lib.close.asNative .close
  setNonblocking nonblocking :=
    (lib.setNonblocking nonblocking).asNative (.setNonblocking nonblocking)
  read size timeoutMs? := (lib.read size timeoutMs?).asNative (.read size timeoutMs?)
  write bytes := (lib.write bytes).asNative (.write bytes)
  getFeature id size := (lib.getFeature id size).asNative (.getFeature id size)
  enumerate vendor product := (lib.enumerate vendor product).asNative (.enumerate vendor product)

def HttpClient.traced (client : HttpClient σ) : HttpClient (Traced σ) where
  post request := (client.post request).asHttp (.post request)
  close := client.close.asHttp .close

def Platform.traced (p : Platform σ) : Platform (Traced σ) where
  native := p.native.traced
  http := p.http.traced
  clock := p.clock.within Traced.part
  logRefusal? := p.logRefusal?

end ChunkRelay
