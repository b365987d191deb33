import ChunkRelay.Proofs.Report.Codec
import ChunkRelay.Proofs.Session.Operations

/-! # Exchanges on record

A session deals with its surroundings in four ways: it reads feature and input reports, writes
output reports and hands over chunks. Each such exchange can be put on record beside the world it
takes place in, with what became of it. The record is kept by the transport and the uploader
themselves, so nothing that a session does can leave an exchange out.
-/

namespace ChunkRelay

/-- An answer to a wait for an input report. -/
abbrev Reception : Type := Except Failure (Int × List UInt8)

/-- A call of a transport or an uploader with what became of it. -/
inductive Exchange where
  | feature (id limit timeoutMs : Int) (answer : Except Failure (List UInt8))
  | output (id : Int) (bytes : List UInt8) (timeoutMs : Int) (answer : Except Failure Int)
  | input (limit timeoutMs : Int) (answer : Reception)
  | delivery (uri authorization : String) (payload : List UInt8) (answer : Except Failure Int)

/-- A world with the exchanges so far, the first one first. -/
structure Recorded (ω : Type) where
  world : ω
  exchanges : List Exchange

variable {ω α : Type}

def Recorded.part : Focus (Recorded ω) ω where
  get := world
  set world r := { r with world }

/-- An action that is put on record as the given exchange. -/
def Act.recorded (exchange : Except Failure α → Exchange) (x : Act ω α) :
    Act (Recorded ω) α := fun r =>
  let o := run x r.world
  ⟨o.answer, o.notes, ⟨o.world, r.exchanges ++ [exchange o.answer]⟩⟩

@[simp] theorem Act.run_recorded (exchange : Except Failure α → Exchange) (x : Act ω α)
    (r : Recorded ω) :
    run (x.recorded exchange) r = ⟨(run x r.world).answer, (run x r.world).notes,
      ⟨(run x r.world).world, r.exchanges ++ [exchange (run x r.world).answer]⟩⟩ := rfl

def Transport.recorded (t : Transport ω) : Transport (Recorded ω) where
  openDevice := t.openDevice.within Recorded.part
  closeDevice := t.closeDevice.within Recorded.part
  isOpen r := t.isOpen r.world
  readFeature id limit timeoutMs :=
    (t.readFeature id limit timeoutMs).recorded (.feature id limit timeoutMs)
  writeOutput id bytes timeoutMs :=
    (t.writeOutput id bytes timeoutMs).recorded (.output id bytes timeoutMs)
  readInput limit timeoutMs := (t.readInput limit timeoutMs).recorded (.input limit timeoutMs)

def Uploader.recorded (u : Uploader ω) : Uploader (Recorded ω) where
  deliver uri authorization payload :=
    (u.deliver uri authorization payload).recorded (.delivery uri authorization payload)

/-- What was to be handed over: where to, under which authorization, and the chunk. -/
def Exchange.delivered? : Exchange → Option (String × String × List UInt8)
  | delivery uri authorization payload _ => some (uri, authorization, payload)
  | _ => none

def Exchange.received? : Exchange → Option Reception
  | input _ _ answer => some answer
  | _ => none

def Recorded.deliveries (r : Recorded ω) : List (String × String × List UInt8) :=
  r.exchanges.filterMap Exchange.delivered?

def Recorded.receptions (r : Recorded ω) : List Reception :=
  r.exchanges.filterMap Exchange.received?

theorem Transport.readInput_recorded (t : Transport ω) (limit timeoutMs : Int) (r : Recorded ω) :
    ∃ answer notes w, Act.run (t.readInput limit timeoutMs) r.world = ⟨answer, notes, w⟩ ∧
      Act.run (t.recorded.readInput limit timeoutMs) r =
        ⟨answer, notes, ⟨w, r.exchanges ++ [.input limit timeoutMs answer]⟩⟩ :=
  ⟨_, _, _, rfl, rfl⟩

theorem Session.forward_recorded {s : Session (Recorded ω)} {u : Uploader ω}
    (given : s.uploader? = some u.recorded) (config : DeviceConfig) (packet : StreamPacket)
    (r : Recorded ω) :
    ∃ answer notes w, Act.run (forward config packet) (s, r) = ⟨answer.map some, notes, (s, ⟨w,
      r.exchanges ++ [.delivery config.dataUri config.authorization packet.payload answer]⟩)⟩ :=
  ⟨_, _, _, forward_some given rfl⟩

/-! ## Stream control -/

/-- What a control report that was written switches to. -/
def Exchange.switch? : Exchange → Option Bool
  | output id bytes _ (.ok _) =>
    if id = ReportId.streamControl.code then (Codec.decodeControl bytes).toOption else none
  | _ => none

/-- Whether the latest control report that was written switched the stream on. -/
def switchedOn (exchanges : List Exchange) : Bool :=
  (exchanges.filterMap Exchange.switch?).getLast?.getD false

theorem switchedOn_append (exchanges : List Exchange) (exchange : Exchange) :
    switchedOn (exchanges ++ [exchange]) = exchange.switch?.getD (switchedOn exchanges) := by
  rw [switchedOn, List.filterMap_append]
  cases switch : exchange.switch? with
  | none => simp [switch, switchedOn]
  | some on => simp [switch]

theorem switchedOn_quiet {exchange : Exchange} (exchanges : List Exchange)
    (quiet : exchange.switch? = none) :
    switchedOn (exchanges ++ [exchange]) = switchedOn exchanges := by
  rw [switchedOn_append, quiet, Option.getD_none]

theorem switch_written (enable : Bool) (timeoutMs count : Int) :
    (Exchange.output ReportId.streamControl.code (Codec.encodeControl enable) timeoutMs
      (.ok count)).switch? = some enable := by
  rw [Exchange.switch?, if_pos rfl, Codec.decodeControl_encoded]
  rfl

end ChunkRelay
