import ChunkRelay.Session
import ChunkRelay.RunLimits

/-! # Bridges

A bridge drives a session: it reads the device's configuration, switches the stream on and pumps
packets until a limit is reached or a stop is requested. Polls without a packet, reports of other
types and failed deliveries are counted and survived; every other failure ends the run. Accepted
and delivered packets are passed to callbacks, whose failures are logged and nothing more.

Callbacks are told apart by value: one may be subscribed several times, and cancelling takes away
its earliest subscription.
-/

namespace ChunkRelay

structure BridgeStats where
  packets : Nat
  bytes : Nat
  /-- Discontinuities since the latest start. -/
  discontinuities : Int
  deliveryFailures : Nat
  ignoredReports : Nat
  idlePolls : Nat
  deriving DecidableEq, Repr

/-- The state of a bridge with callbacks `κ`. -/
structure Bridge (κ : Type) where
  readTimeoutMs : Int
  /-- Whether a stop has been requested since the latest start. -/
  stopping : Bool
  /-- The device's configuration as of the latest start that could read it. -/
  config? : Option DeviceConfig
  /-- The subscribed callbacks, the earliest first. -/
  callbacks : List κ
  packets : Nat
  bytes : Nat
  /-- The session's count of discontinuities at the latest start. -/
  discontinuityBase : Nat
  deliveryFailures : Nat
  ignoredReports : Nat
  idlePolls : Nat
  deriving Repr

/-- A bridge with the session it drives and the world around them. -/
structure Pipeline (κ ω : Type) where
  bridge : Bridge κ
  session : Session ω
  world : ω

/-- What became of a run: its counts, or no end within the rounds granted. -/
inductive RunResult where
  | finished (stats : BridgeStats)
  | unfinished
  deriving DecidableEq, Repr

/-- What a subscription is cancelled by. -/
structure Subscription (κ : Type) where
  callback : κ
  deriving DecidableEq, Repr

namespace Bridge

variable {κ ω α : Type}

def defaultReadTimeoutMs : Int := 100

def new (readTimeoutMs : Int) : Bridge κ := ⟨readTimeoutMs, false, none, [], 0, 0, 0, 0, 0, 0⟩

def requestStop (b : Bridge κ) : Bridge κ := { b with stopping := true }

/-- Take notice of a stop request among notes. -/
def heed (b : Bridge κ) (notes : List Note) : Bridge κ :=
  if notes.contains .stopRequest then b.requestStop else b

def subscribe (callback : κ) (callbacks : List κ) : Subscription κ × List κ :=
  (⟨callback⟩, callbacks ++ [callback])

/-- Cancel a subscription: the earliest one of its callback goes, if there is any. -/
def cancel [DecidableEq κ] (subscription : Subscription κ) (callbacks : List κ) : List κ :=
  callbacks.erase subscription.callback

/-- The configuration, without which the operation fails. -/
def requireConfig (b : Bridge κ) : Except Cause DeviceConfig :=
  match b.config? with
  | some config => .ok config
  | none => .error .bridgeNotStarted

/-- The counts, given the tracker of the session. -/
def stats (b : Bridge κ) (tracker : Tracker) : BridgeStats where
  packets := b.packets
  bytes := b.bytes
  discontinuities := (tracker.discontinuities : Int) - b.discontinuityBase
  deliveryFailures := b.deliveryFailures
  ignoredReports := b.ignoredReports
  idlePolls := b.idlePolls

end Bridge

namespace Pipeline

variable {κ ω α : Type}

def stats (p : Pipeline κ ω) : BridgeStats := p.bridge.stats p.session.tracker

def update (f : Bridge κ → Bridge κ) : Act (Pipeline κ ω) Unit :=
  modify fun p => { p with bridge := f p.bridge }

/-- Do something with a bridge and a session that are there only for it. -/
def alone (bridge : Bridge κ) (session : Session ω) (x : Act (Pipeline κ ω) α) : Act ω α := fun w =>
  let o := x ⟨bridge, session, w⟩
  ⟨o.answer, o.notes, o.world.world⟩

/-- Do something with the session; a stop requested meanwhile reaches the bridge. -/
def viaSession (x : Act (Session ω × ω) α) : Act (Pipeline κ ω) α := fun p =>
  let o := x (p.session, p.world)
  ⟨o.answer, o.notes,
    { bridge := p.bridge.heed o.notes, session := o.world.1, world := o.world.2 }⟩

/-- Do something with the world; a stop requested meanwhile reaches the bridge. -/
def viaWorld (x : Act ω α) : Act (Pipeline κ ω) α := viaSession (Session.outside x)

/-- Do something with the world and the subscribed callbacks; a stop requested meanwhile reaches
the bridge. -/
def viaCallbacks (x : Act (List κ × ω) α) : Act (Pipeline κ ω) α := fun p =>
  let o := x (p.bridge.callbacks, p.world)
  ⟨o.answer, o.notes,
    { p with
      bridge := { p.bridge with callbacks := o.world.1 }.heed o.notes
      world := o.world.2 }⟩

/-- Start: forget stop requests, read the configuration and switch the stream on. -/
def start : Act (Pipeline κ ω) DeviceConfig := do
  modify fun p =>
    { p with
      bridge :=
        { p.bridge with
          stopping := false
          discontinuityBase := p.session.tracker.discontinuities } }
  let config ← viaSession Session.readConfig
  update ({ · with config? := some config })
  viaSession Session.enable
  Act.log .info .bridge ("BRIDGE_STARTED device_id=" ++ config.identifier)
  pure config

/-- Stop: request a stop and switch the stream off if it is on. -/
def stop : Act (Pipeline κ ω) Unit := do
  update Bridge.requestStop
  if (← get).session.streaming then viaSession Session.disable
  let st := (← get).stats
  Act.log .info .bridge
    (s!"BRIDGE_STOPPED packets={st.packets} bytes={st.bytes}" ++
      s!" discontinuities={st.discontinuities} delivery_failures={st.deliveryFailures}")

/-- Stop at the end of a run, where a failure to do so is only logged. -/
def leave : Act (Pipeline κ ω) Unit :=
  tryCatch stop fun _ => Act.log .error .bridge "BRIDGE_STOP_FAILED"

/-- Pass an event to the given callbacks in turn. -/
def dispatch (notify : κ → PacketEvent → Act (List κ × ω) Unit) (event : PacketEvent) :
    List κ → Act (Pipeline κ ω) Unit
  | [] => pure ()
  | callback :: rest => do
    tryCatch (viaCallbacks (notify callback event)) fun _ =>
      Act.log .error .bridge "PACKET_CALLBACK_ERROR"
    dispatch notify event rest

/-- What a failure to process a packet does to the counts. Failures that end the run do nothing
to them. -/
def survive (e : Failure) : Act (Pipeline κ ω) (Option PacketEvent) := do
  if e.isClass .transportTimeout then
    update fun b => { b with idlePolls := b.idlePolls + 1 }
    pure none
  else if e.isClass .wrongReport || e.isClass .malformedReport then
    update fun b => { b with ignoredReports := b.ignoredReports + 1 }
    Act.log .debug .bridge ("NON_MDS_REPORT_IGNORED err=" ++ e.message)
    pure none
  else if e.isClass .deliveryFailed then
    update fun b =>
      { b with deliveryFailures := b.deliveryFailures + 1, packets := b.packets + 1 }
    Act.logNumber .warning .bridge e.status
      s!"CHUNK_DELIVERY_FAILED status={e.status} msg={e.message}"
    pure none
  else throw e

/-- Process one packet. The event of a delivered packet is passed to the callbacks subscribed by
then. -/
def step (notify : κ → PacketEvent → Act (List κ × ω) Unit) :
    Act (Pipeline κ ω) (Option PacketEvent) := do
  let bridge := (← get).bridge
  let config ← Act.ofCause bridge.requireConfig
  let result ← Act.attempt (viaSession (Session.process config bridge.readTimeoutMs))
  match result with
  | .error e => survive e
  | .ok event =>
    update fun b =>
      { b with packets := b.packets + 1, bytes := b.bytes + event.packet.payload.length }
    dispatch notify event (← get).bridge.callbacks
    pure event

def reaches (isReached? : Option (Except Defect Bool)) : Act (Pipeline κ ω) Bool :=
  match isReached? with
  | none => pure false
  | some (.ok isReached) => pure isReached
  | some (.error defect) => throw (.defect defect)

/-- Whether a run that began at `began` has come to its end. The clock is read only if time is
limited and nothing else has ended the run. -/
def isOver (clock : Act ω Rat) (limits : RunLimits) (began : Rat) :
    Act (Pipeline κ ω) Bool := do
  let bridge := (← get).bridge
  if bridge.stopping then pure true
  else if ← reaches (limits.maxPackets?.map (·.isReached bridge.packets)) then pure true
  else
    match limits.seconds? with
    | none => pure false
    | some limit => do
      let now ← viaWorld clock
      reaches (some (limit.isReached (now - began)))

/-- Step until the run is over, for at most the given number of rounds. -/
def pump (clock : Act ω Rat) (notify : κ → PacketEvent → Act (List κ × ω) Unit)
    (limits : RunLimits) (began : Rat) : Nat → Act (Pipeline κ ω) RunResult
  | 0 => pure .unfinished
  | rounds + 1 => do
    if ← isOver clock limits began then pure (.finished (← get).stats)
    else
      let _ ← step notify
      pump clock notify limits began rounds

/-- Run a started bridge until a limit is reached or a stop is requested. Time counts from here. -/
def run (clock : Act ω Rat) (notify : κ → PacketEvent → Act (List κ × ω) Unit)
    (limits : RunLimits) (rounds : Nat) : Act (Pipeline κ ω) RunResult := do
  let _ ← Act.ofCause (← get).bridge.requireConfig
  let began ← viaWorld clock
  pump clock notify limits began rounds

end Pipeline

end ChunkRelay
