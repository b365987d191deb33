import Mathlib
import ChunkRelay.Proofs.Device.Presented
import ChunkRelay.Proofs.Session.Exchanges

/-! # Sessions over connections

A session is watched from outside: after each of its operations, what it answered, what it knows and
what has reached the uploader. Nobody who watches can tell whether the session is given a device
itself or a connection to a native handle that stands for the device. The id in front of a report,
the byte more that is asked for to make up for it, and the empty answer of a handle that has heard
nothing in time all stay between the connection and the handle.
-/

namespace ChunkRelay.Dialogue

open Act

/-- A time to wait for a packet, in milliseconds. -/
abbrev Wait : Type := {timeoutMs : Int // 0 < timeoutMs}

/-- What can be done with a session, and what can happen on the device meanwhile. -/
inductive Move where
  | readConfig
  | enable
  | disable
  | readPacket (wait : Wait)
  | process (config? : Option DeviceConfig) (wait : Wait)
  | queue (data : List UInt8)
  | skip (count : Int)

inductive Result where
  | done
  | config (config : DeviceConfig)
  | packet (packet : StreamPacket)
  | event (event : PacketEvent)

variable {δ σ : Type}

/-- A session with a place that its device is part of, and with what its uploader works on. -/
abbrev State (δ σ : Type) : Type := Session (δ × Recorded σ) × (δ × Recorded σ)

def begun (t : Transport δ) (u? : Option (Uploader σ)) (place : δ) (remote : σ) : State δ σ :=
  (.new (some (t.within .fst)) (u?.map (·.recorded.within .snd)), (place, ⟨remote, []⟩))

def onDevice (device : Focus δ InMemoryDevice) (f : InMemoryDevice → InMemoryDevice) :
    Act (State δ σ) Unit :=
  modify fun (s, place, remote) => (s, device.set (f (device.get place)) place, remote)

def Move.act (device : Focus δ InMemoryDevice) : Move → Act (State δ σ) Result
  | readConfig => Result.config <$> Session.readConfig
  | enable => (fun _ => .done) <$> Session.enable
  | disable => (fun _ => .done) <$> Session.disable
  | readPacket wait => Result.packet <$> Session.readPacket wait.1
  | process config? wait => Result.event <$> Session.process config? wait.1
  | queue data => (fun _ => .done) <$> onDevice device fun d => (d.queue data).2
  | skip count => (fun _ => .done) <$> onDevice device fun d => d.skip count

/-- What shows of a session after a move. -/
structure Glimpse (σ : Type) where
  answer : Except ((ErrorClass × String) ⊕ Failure) Result
  tracker : Tracker
  streaming : Bool
  closed : Bool
  /-- What the uploader works on, with every delivery so far. -/
  remote : Recorded σ
  device : InMemoryDevice

def glimpse (device : Focus δ InMemoryDevice) (o : Outcome (State δ σ) Result) : Glimpse σ where
  answer := shown o.answer
  tracker := o.world.1.tracker
  streaming := o.world.1.streaming
  closed := o.world.1.closed
  remote := o.world.2.2
  device := device.get o.world.2.1

/-- What shows after each move in turn. -/
def glimpses (device : Focus δ InMemoryDevice) : State δ σ → List Move → List (Glimpse σ)
  | _, [] => []
  | v, move :: moves =>
    let o := run (move.act device) v
    glimpse device o :: glimpses device o.world moves

variable {τ : Type} {lib : NativeLibrary τ} {device : Focus τ InMemoryDevice}

/-- A session with a device, and a session in the same state with a connection to that device. -/
abbrev Matching (device : Focus τ InMemoryDevice) :
    State InMemoryDevice σ → State (Connection × τ) σ → Prop :=
  Session.Twin (Shadows device)

theorem onDevice_alike (device : Focus τ InMemoryDevice) {f : InMemoryDevice → InMemoryDevice}
    (ready : ∀ {d}, d.Ready → (f d).Ready) :
    Act.Alike (Matching (σ := σ) device) (onDevice .whole f)
      (onDevice (Focus.snd.through device) f) := by
  apply Act.Alike.modify
  intro ⟨s, d, r⟩ ⟨s', ⟨c, t⟩, r'⟩ matching
  have same : device.get t = d := matching.world.device
  have changed : device.get (device.set (f (device.get t)) t) = f d := by
    rw [device.get_set, same]
  exact { matching with world := matching.world.change (ready matching.world.ready) changed }

theorem Move.alike (device : Focus τ InMemoryDevice) (move : Move) :
    Act.Alike (Matching (σ := σ) device) (move.act .whole)
      (move.act (Focus.snd.through device)) := by
  cases move with
  | readConfig => exact Session.Twin.readConfig.map _
  | enable => exact Session.Twin.enable.map _
  | disable => exact Session.Twin.disable.map _
  | readPacket wait => exact (Session.Twin.readPacket wait.2).map _
  | process config? wait =>
      cases config? with
      | none => exact Act.Alike.map _ (.fail _)
      | some config => exact (Session.Twin.process config wait.2).map _
  | queue data =>
      refine (onDevice_alike device ?_).map _
      exact fun ready => ⟨ready.isOpen, ready.inRange, InMemoryDevice.queue_sized ready.sized data⟩
  | skip count =>
      refine (onDevice_alike device ?_).map _
      exact fun ready => ⟨ready.isOpen, ready.inRange, ready.sized⟩

theorem glimpse_same {move : Move} {v : State InMemoryDevice σ} {v' : State (Connection × τ) σ}
    (matching : Matching device v v') :
    glimpse .whole (run (move.act .whole) v) =
      glimpse (Focus.snd.through device) (run (move.act (Focus.snd.through device)) v') := by
  obtain ⟨same, after⟩ := move.alike device v v' matching
  rw [glimpse, glimpse, same, after.tracker, after.streaming, after.closed, after.world.around]
  congr 1
  exact after.world.device.symm

theorem glimpses_same (moves : List Move) {v : State InMemoryDevice σ}
    {v' : State (Connection × τ) σ} (matching : Matching device v v') :
    glimpses .whole v moves = glimpses (Focus.snd.through device) v' moves := by
  -- Each move keeps the two sessions matching, which is what the next one starts from.
  induction moves generalizing v v' with
  | nil => rfl
  | cons move moves ih =>
      rw [glimpses, glimpses, glimpse_same matching, ih (move.alike device v v' matching).2]

/-- A device that is open, with nothing queued yet. -/
def opened (config : DeviceConfig) : InMemoryDevice :=
  { InMemoryDevice.new config with isOpen := true }

theorem begun_matching (presents : lib.Presents device) {config : DeviceConfig}
    (inRange : 0 ≤ config.features ∧ config.features ≤ 0xFFFFFFFF) (u? : Option (Uploader σ))
    (remote : σ) {c : Connection} (isOpen : c.isOpen = true) (unfiltered : c.filter? = none) {t : τ}
    (fresh : device.get t = opened config) :
    Matching device (begun InMemoryDevice.transport u? (opened config) remote)
      (begun (Connection.transport lib) u? (c, t) remote) where
  transport := ⟨_, _, rfl, rfl, presents.alike⟩
  uploader := by
    cases u? with
    | none => exact .none
    | some u => exact .some u.recorded.alike
  tracker := rfl
  streaming := rfl
  closed := rfl
  world := ⟨fresh, ⟨rfl, inRange, nofun⟩, isOpen, unfiltered, rfl⟩

/-- Whatever is done, a session over a connection shows the same after each move as a session over
    the device. -/
theorem connected_same (presents : lib.Presents device) {config : DeviceConfig}
    (inRange : 0 ≤ config.features ∧ config.features ≤ 0xFFFFFFFF) (u? : Option (Uploader σ))
    (remote : σ) {c : Connection} (isOpen : c.isOpen = true) (unfiltered : c.filter? = none) {t : τ}
    (fresh : device.get t = opened config) (moves : List Move) :
    glimpses (Focus.snd.through device) (begun (Connection.transport lib) u? (c, t) remote) moves =
      glimpses .whole (begun InMemoryDevice.transport u? (opened config) remote) moves :=
  (glimpses_same moves (begun_matching presents inRange u? remote isOpen unfiltered fresh)).symm

def plainConfig : DeviceConfig := ⟨0xFFFFFFFF, "id", "uri", "Name:value"⟩

def plainConnection : Connection := ⟨⟨.null, 1, 2, .null⟩, true, false, none⟩

/-- Data that fills a packet and needs a second one for what is left of it. -/
def overfullChunk : List Move :=
  let wait : Wait := ⟨100, by decide⟩
  [.readConfig, .enable, .queue (List.replicate 64 7), .readPacket wait,
    .process (some plainConfig) wait, .disable]

theorem connected_same_overfull :
    let glimpsed := glimpses (Focus.snd.through .whole) (begun
      (Connection.transport InMemoryDevice.native) (none : Option (Uploader Unit))
      (plainConnection, opened plainConfig) ()) overfullChunk
    InMemoryDevice.native.Presents .whole ∧
    (0 ≤ plainConfig.features ∧ plainConfig.features ≤ 0xFFFFFFFF) ∧
    plainConnection.isOpen = true ∧ plainConnection.filter? = none ∧
    glimpsed[3]?.map (·.answer) = some (.ok (.packet ⟨0, List.replicate 63 7, by decide⟩)) ∧
    glimpsed[4]?.map (·.answer) = some (.ok (.event ⟨⟨1, [7], by decide⟩, some .inOrder⟩)) := by
  intro glimpsed
  have inRange : 0 ≤ plainConfig.features ∧ plainConfig.features ≤ 0xFFFFFFFF := by decide
  have same : glimpsed = _ := connected_same InMemoryDevice.native_presents inRange none ()
    (c := plainConnection) (t := opened plainConfig) rfl rfl rfl overfullChunk
  rw [same]
  exact ⟨InMemoryDevice.native_presents, inRange, rfl, rfl, by cbv, by cbv⟩

end ChunkRelay.Dialogue
