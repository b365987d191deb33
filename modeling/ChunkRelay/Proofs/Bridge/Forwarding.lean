import ChunkRelay.Proofs.Bridge.Operations
import ChunkRelay.Proofs.Session.ReadBack
import ChunkRelay.Proofs.Tracker

/-! # What a run forwards

A run over a device in memory hands every pending chunk to the uploader, once and in order, whether
or not the deliveries succeed. The calls are recorded beside the world that the uploader works on;
the counts of the bridge say exactly what the record says.
-/

namespace ChunkRelay

/-- The uploader fails only to deliver, and leaves the run alone. -/
structure Uploader.Delivers {σ : Type} (u : Uploader σ) : Prop where
  failed : ∀ uri authorization payload w e,
    (Act.run (u.deliver uri authorization payload) w).answer = .error e →
      e.isClass .deliveryFailed = true
  unasked : ∀ uri authorization payload w,
    Note.stopRequest ∉ (Act.run (u.deliver uri authorization payload) w).notes

/-- The clock answers at any time, and leaves the run alone. -/
def Ticks {τ : Type} (clock : Act τ Rat) : Prop :=
  ∀ time, ∃ now notes time', Act.run clock time = ⟨.ok now, notes, time'⟩ ∧
    Note.stopRequest ∉ notes

/-- A call of an uploader with what became of it. -/
structure Delivery where
  uri : String
  authorization : String
  payload : List UInt8
  answer : Except Failure Int

/-- The surroundings of a bridge: its device, what the uploader and the clock work on, and the calls
    of the uploader so far, the first one first. -/
structure Site (σ τ : Type) where
  device : InMemoryDevice
  remote : σ
  calls : List Delivery
  time : τ

namespace Site

variable {σ τ : Type}

def devicePart : Focus (Site σ τ) InMemoryDevice where
  get := device
  set device site := { site with device }

def timePart : Focus (Site σ τ) τ where
  get := time
  set time site := { site with time }

def queueAll (pieces : List (List UInt8)) (site : Site σ τ) : Site σ τ :=
  { site with device := site.device.queueAll pieces }

/-- An uploader with its calls recorded. -/
def recording (u : Uploader σ) : Uploader (Site σ τ) where
  deliver uri authorization payload := fun site =>
    let o := Act.run (u.deliver uri authorization payload) site.remote
    ⟨o.answer, o.notes,
      { site with
        remote := o.world
        calls := site.calls ++ [⟨uri, authorization, payload, o.answer⟩] }⟩

theorem recording_run {u : Uploader σ} {site : Site σ τ} {uri authorization : String}
    {payload : List UInt8} {answer : Except Failure Int} {notes : List Note} {remote : σ}
    (delivered : Act.run (u.deliver uri authorization payload) site.remote =
      ⟨answer, notes, remote⟩) :
    Act.run ((recording u).deliver uri authorization payload) site = ⟨answer, notes,
      { site with remote, calls := site.calls ++ [⟨uri, authorization, payload, answer⟩] }⟩ := by
  change Outcome.mk _ _ _ = _
  rw [delivered]

/-- What a chunk that was sent and handed over leaves behind. -/
def handedOver (rest : List (List UInt8)) (remote : σ) (call : Delivery) (site : Site σ τ) :
    Site σ τ :=
  { site with
    device := site.device.sent rest
    remote
    calls := site.calls ++ [call] }

end Site

/-! ## Counts -/

/-- The counts of a run in which exactly the given calls were made. -/
def accounted (calls : List Delivery) : BridgeStats where
  packets := calls.length
  bytes := ((calls.filter (·.answer.isOk)).flatMap Delivery.payload).length
  discontinuities := 0
  deliveryFailures := (calls.filter (!·.answer.isOk)).length
  ignoredReports := 0
  idlePolls := 0

variable {calls : List Delivery} {call : Delivery}

theorem accounted_delivered (delivered : call.answer.isOk = true) :
    accounted (calls ++ [call]) =
      { accounted calls with
        packets := (accounted calls).packets + 1
        bytes := (accounted calls).bytes + call.payload.length } := by
  simp [accounted, delivered]

theorem accounted_undelivered (undelivered : call.answer.isOk = false) :
    accounted (calls ++ [call]) =
      { accounted calls with
        packets := (accounted calls).packets + 1
        deliveryFailures := (accounted calls).deliveryFailures + 1 } := by
  simp [accounted, undelivered]

namespace Pipeline

open Act

variable {κ σ τ : Type} {u : Uploader σ} {config : DeviceConfig} {p : Pipeline κ (Site σ τ)}

/-- A started bridge that has forwarded whatever its device has sent. -/
structure Flowing (u : Uploader σ) (config : DeviceConfig) (p : Pipeline κ (Site σ τ)) : Prop where
  transport : p.session.transport? = some (InMemoryDevice.transport.within Site.devicePart)
  uploader : p.session.uploader? = some (Site.recording u)
  isOpen : p.world.device.isOpen = true
  streaming : p.world.device.streaming = true
  sized : ∀ payload ∈ p.world.device.pending, IsChunk payload
  follows : ∀ last, p.session.tracker.last? = some last → p.world.device.next = last.next
  configured : p.bridge.config? = some config
  unwatched : p.bridge.callbacks = []
  unasked : p.bridge.stopping = false
  counted : p.stats = accounted p.world.calls
  addressed : ∀ call ∈ p.world.calls, IsChunk call.payload ∧
    call.uri = config.dataUri ∧ call.authorization = config.authorization

namespace Flowing

theorem packets (flow : Flowing u config p) : p.bridge.packets = p.world.calls.length :=
  congrArg BridgeStats.packets flow.counted

theorem queue (flow : Flowing u config p) (pieces : List (List UInt8)) :
    Flowing u config { p with world := p.world.queueAll pieces } := by
  have queued := InMemoryDevice.queueAll_eq (d := p.world.device) pieces
  have sized := InMemoryDevice.queueAll_sized flow.sized pieces
  refine { flow with isOpen := ?_, streaming := ?_, sized, follows := ?_ }
  all_goals simp only [Site.queueAll, queued]
  · exact flow.isOpen
  · exact flow.streaming
  · exact flow.follows

theorem later (flow : Flowing u config p) (time : τ) :
    Flowing u config { p with world := { p.world with time } } := { flow with }

variable {b b' : Bridge κ} {s : Session (Site σ τ)} {site : Site σ τ} {payload : List UInt8}
  {rest : List (List UInt8)}

/-- Processing the next chunk hands it over. -/
theorem process (flow : Flowing u config ⟨b, s, site⟩)
    (pending : site.device.pending = payload :: rest) {answer : Except Failure Int}
    {notes : List Note} {remote : σ}
    (delivered : Act.run (u.deliver config.dataUri config.authorization payload) site.remote =
      ⟨answer, notes, remote⟩) (timeoutMs : Int) :
    ∃ packet record, packet.sequence = site.device.next ∧ packet.payload = payload ∧
      Act.run (Session.process (some config) timeoutMs) (s, site) =
        ⟨answer.map fun _ => s.event packet, .log record :: notes,
          (s.taken packet, site.handedOver rest remote
            ⟨config.dataUri, config.authorization, payload, answer⟩)⟩ := by
  have chunk : IsChunk payload := flow.sized payload (pending ▸ List.mem_cons_self)
  obtain ⟨packet, record, sequence, rfl, read⟩ := Session.readEvent_sent (w := site)
    flow.transport flow.isOpen flow.streaming pending chunk.2 timeoutMs
  have recorded : Act.run ((Site.recording u).deliver config.dataUri config.authorization
      packet.payload) (Site.devicePart.set (site.device.sent rest) site) =
      ⟨answer, notes, site.handedOver rest remote
        ⟨config.dataUri, config.authorization, packet.payload, answer⟩⟩ :=
    Site.recording_run delivered
  have forwarded := Session.forward_some (s := s.taken packet) flow.uploader recorded
  refine ⟨packet, record, sequence, rfl, ?_⟩
  rw [Session.process_ok read forwarded]
  cases answer <;> rfl

/-- The flow goes on after a chunk was handed over, once the call is counted. -/
theorem handOver (flow : Flowing u config ⟨b, s, site⟩)
    (pending : site.device.pending = payload :: rest) {packet : StreamPacket}
    (sequence : packet.sequence = site.device.next) (remote : σ) (answer : Except Failure Int)
    (configured : b'.config? = b.config?) (unwatched : b'.callbacks = b.callbacks)
    (unasked : b'.stopping = b.stopping)
    (counted : b'.stats (s.taken packet).tracker =
      accounted (site.calls ++ [⟨config.dataUri, config.authorization, payload, answer⟩])) :
    Flowing u config ⟨b', s.taken packet, site.handedOver rest remote
      ⟨config.dataUri, config.authorization, payload, answer⟩⟩ where
  transport := flow.transport
  uploader := flow.uploader
  isOpen := flow.isOpen
  streaming := flow.streaming
  sized chunk member := flow.sized chunk (pending ▸ List.mem_cons_of_mem _ member)
  follows last tracked := by
    have seen := Tracker.see_last s.tracker packet.sequence
    rw [Session.taken, seen, sequence] at tracked
    cases tracked
    rfl
  configured := configured.trans flow.configured
  unwatched := unwatched.trans flow.unwatched
  unasked := unasked.trans flow.unasked
  counted := counted
  addressed call member := by
    rcases List.mem_append.mp member with made | new
    · exact flow.addressed call made
    · cases List.mem_singleton.mp new
      exact ⟨flow.sized payload (pending ▸ List.mem_cons_self), rfl, rfl⟩

variable (notify : κ → PacketEvent → Act (List κ × Site σ τ) Unit)

theorem step (flow : Flowing u config p) (delivers : u.Delivers)
    (pending : p.world.device.pending = payload :: rest) :
    ∃ event? notes p' call, Act.run (step notify) p = ⟨.ok event?, notes, p'⟩ ∧
      Flowing u config p' ∧ p'.world.device.pending = rest ∧
      p'.world.calls = p.world.calls ++ [call] ∧ call.payload = payload := by
  rcases p with ⟨b, s, site⟩
  rcases delivered : Act.run (u.deliver config.dataUri config.authorization payload) site.remote
    with ⟨answer, notes, remote⟩
  have quiet := delivers.unasked config.dataUri config.authorization payload site.remote
  rw [delivered] at quiet
  obtain ⟨packet, record, sequence, same, processed⟩ :=
    flow.process pending delivered b.readTimeoutMs
  have unasked : Note.stopRequest ∉ Note.log record :: notes := by simpa using quiet
  have continuous := Tracker.see_following s.tracker packet.sequence
    fun last tracked => sequence.trans (flow.follows last tracked)
  cases answer with
  | error e =>
      have failed := delivers.failed config.dataUri config.authorization payload site.remote e
        (by rw [delivered])
      obtain ⟨warning, stepped⟩ := step_undelivered notify flow.configured processed
        failed unasked
      refine ⟨none, _, _, _, stepped, ?_, rfl, rfl, rfl⟩
      refine flow.handOver pending sequence remote (.error e) rfl rfl rfl ?_
      rw [accounted_undelivered rfl, ← flow.counted]
      simp only [stats, Bridge.stats, Session.taken, continuous]
  | ok status =>
      have stepped := step_delivered notify flow.configured flow.unwatched processed unasked
      refine ⟨_, _, _, _, stepped, ?_, rfl, rfl, rfl⟩
      refine flow.handOver pending sequence remote (.ok status) rfl rfl rfl ?_
      rw [accounted_delivered rfl, ← flow.counted]
      simp only [stats, Bridge.stats, Session.taken, Session.event, continuous, same]

theorem isOver (flow : Flowing u config p) (clock : Act (Site σ τ) Rat) (began : Rat) (n : Nat) :
    Act.run (isOver clock ⟨some (Limit.ofData (.int n)), none⟩ began) p =
      ⟨.ok (decide (n ≤ p.world.calls.length)), [], p⟩ := by
  rw [isOver_packets n flow.unasked, flow.packets]

/-- Every round hands over one chunk, until none is left. -/
theorem pump (flow : Flowing u config p) (delivers : u.Delivers) (clock : Act (Site σ τ) Rat)
    (began : Rat) {n rounds : Nat} (enough : p.world.device.pending.length < rounds)
    (due : p.world.calls.length + p.world.device.pending.length = n) :
    ∃ notes p', Act.run (pump clock notify ⟨some (Limit.ofData (.int n)), none⟩ began rounds) p =
        ⟨.ok (.finished p'.stats), notes, p'⟩ ∧
      Flowing u config p' ∧ p'.world.device.pending = [] ∧
      p'.world.calls.map Delivery.payload =
        p.world.calls.map Delivery.payload ++ p.world.device.pending := by
  -- Calls made and chunks left always add up to the limit, so it is reached with the last chunk.
  generalize left : p.world.device.pending = pending at enough due
  induction pending generalizing p rounds with
  | nil =>
      obtain ⟨rounds, rfl⟩ := Nat.exists_eq_add_one.mpr enough
      have reached := flow.isOver clock began n
      rw [decide_eq_true (show n ≤ p.world.calls.length from due.ge)] at reached
      exact ⟨_, p, pump_over rounds reached, flow, left, (List.append_nil _).symm⟩
  | cons payload rest ih =>
      rw [List.length_cons] at enough due
      obtain ⟨rounds, rfl⟩ := Nat.exists_eq_add_one.mpr (Nat.zero_lt_of_lt enough)
      have goesOn := flow.isOver clock began n
      rw [decide_eq_false (by omega)] at goesOn
      obtain ⟨event?, notes, p', call, stepped, flow', left', calls, same⟩ :=
        flow.step notify delivers left
      have fewer : rest.length < rounds := by omega
      have due' : p'.world.calls.length + rest.length = n := by
        rw [calls, List.length_append, List.length_singleton]
        omega
      obtain ⟨more, p'', pumped, flow'', empty, payloads⟩ := ih flow' left' fewer due'
      refine ⟨notes ++ more, p'', ?_, flow'', empty, ?_⟩
      · rw [pump_on rounds goesOn stepped, pumped]
        rfl
      · rw [payloads, calls, List.map_append, List.append_assoc, ← same]
        rfl

end Flowing

/-- A bridge that nobody has used, over a device in memory and a recorded uploader. -/
def fresh (timeoutMs : Int) (u : Uploader σ) (d : InMemoryDevice) (remote : σ) (time : τ) :
    Pipeline κ (Site σ τ) where
  bridge := .new timeoutMs
  session := .new (some (InMemoryDevice.transport.within Site.devicePart)) (some (Site.recording u))
  world := ⟨d, remote, [], time⟩

theorem start_flowing {d : InMemoryDevice} (isOpen : d.isOpen = true)
    (sized : ∀ payload ∈ d.pending, IsChunk payload)
    (inRange : 0 ≤ d.config.features ∧ d.config.features ≤ 0xFFFFFFFF) (timeoutMs : Int)
    (u : Uploader σ) (remote : σ) (time : τ) :
    ∃ config notes p,
      Act.run start (fresh timeoutMs u d remote time : Pipeline κ (Site σ τ)) =
        ⟨.ok config, notes, p⟩ ∧
      Session.ReadBack d.config config ∧ Flowing u config p ∧
      p.world = ⟨d.switched true, remote, [], time⟩ := by
  let s : Session (Site σ τ) :=
    .new (some (InMemoryDevice.transport.within Site.devicePart)) (some (Site.recording u))
  let site : Site σ τ := ⟨d, remote, [], time⟩
  obtain ⟨config, shown, read, back⟩ :=
    Session.readConfig_device (s := s) (w := site) rfl isOpen inRange
  obtain ⟨record, enabled⟩ := Session.enable_open (s := s) (w := site) rfl isOpen
  obtain ⟨last, ran⟩ := start_ok (b := Bridge.new (κ := κ) timeoutMs) read enabled (by simp)
  refine ⟨config, _, _, ran, back, ?_, rfl⟩
  exact ⟨rfl, rfl, isOpen, rfl, sized, nofun, rfl, rfl, rfl, rfl, nofun⟩

theorem run_flowing (notify : κ → PacketEvent → Act (List κ × Site σ τ) Unit)
    (flow : Flowing u config p) (delivers : u.Delivers) {clock : Act τ Rat}
    (ticks : Ticks clock) (unused : p.world.calls = []) {rounds : Nat}
    (enough : p.world.device.pending.length < rounds) :
    ∃ notes p', Act.run (run (clock.within Site.timePart) notify
          ⟨some (Limit.ofData (.int p.world.device.pending.length)), none⟩ rounds) p =
        ⟨.ok (.finished p'.stats), notes, p'⟩ ∧
      Flowing u config p' ∧ p'.world.device.pending = [] ∧
      p'.world.calls.map Delivery.payload = p.world.device.pending := by
  rcases p with ⟨b, s, site⟩
  obtain ⟨began, notes, time, read, unasked⟩ := ticks site.time
  have ticked : Act.run (viaWorld (clock.within Site.timePart)) (⟨b, s, site⟩ : Pipeline κ _) =
      ⟨.ok began, notes, ⟨b, s, { site with time }⟩⟩ := by
    refine viaSession_unasked ?_ unasked
    rw [Session.run_outside, run_within_of read]
    rfl
  have due : site.calls.length + site.device.pending.length = site.device.pending.length := by
    rw [unused, List.length_nil, Nat.zero_add]
  obtain ⟨more, p', pumped, flow', empty, payloads⟩ :=
    (flow.later time).pump notify delivers (clock.within Site.timePart) began enough due
  refine ⟨notes ++ more, p', ?_, flow', empty, by rw [payloads, unused]; rfl⟩
  rw [run, run_bind_ok (run_get _)]
  dsimp only
  rw [Bridge.requireConfig_some flow.configured, run_bind_ok (run_ofCause_ok _), run_bind_ok ticked,
    pumped]
  rfl

/-- Nothing that is queued gets lost, doubled, reordered or changed on its way to the uploader,
    whichever deliveries fail, and the counts say what became of it. -/
theorem run_forwards_all (delivers : u.Delivers) {clock : Act τ Rat} (ticks : Ticks clock)
    {d : InMemoryDevice} (isOpen : d.isOpen = true) (unqueued : d.pending = [])
    (inRange : 0 ≤ d.config.features ∧ d.config.features ≤ 0xFFFFFFFF)
    (earlier later : List (List UInt8)) (timeoutMs : Int) (remote : σ) (time : τ)
    (notify : κ → PacketEvent → Act (List κ × Site σ τ) Unit) :
    ∃ config notes p,
      Act.run start (fresh timeoutMs u (d.queueAll earlier) remote time) = ⟨.ok config, notes, p⟩ ∧
      Session.ReadBack d.config config ∧
      let q := { p with world := p.world.queueAll later }
      let pending := q.world.device.pending
      ∀ rounds, pending.length < rounds → ∃ stats notes p',
        Act.run (run (clock.within Site.timePart) notify
            ⟨some (Limit.ofData (.int pending.length)), none⟩ rounds) q =
          ⟨.ok (.finished stats), notes, p'⟩ ∧
        p'.world.device.pending = [] ∧
        p'.world.calls.map Delivery.payload = pending ∧
        (p'.world.calls.map Delivery.payload).flatten = (earlier ++ later).flatten ∧
        (∀ call ∈ p'.world.calls, 1 ≤ call.payload.length ∧ call.payload.length ≤ 63 ∧
          call.uri = config.dataUri ∧ call.authorization = config.authorization) ∧
        stats = accounted p'.world.calls := by
  have queued := InMemoryDevice.queueAll_eq (d := d) earlier
  have sized := d.queueAll_sized (by rw [unqueued]; exact nofun) earlier
  obtain ⟨config, notes, p, started, back, flow, site⟩ :=
    start_flowing (d := d.queueAll earlier) (by rw [queued]; exact isOpen) sized
      (by rw [queued]; exact inRange) timeoutMs u remote time
  refine ⟨config, notes, p, started, by rw [queued] at back; exact back, ?_⟩
  intro q pending rounds enough
  have unused : q.world.calls = [] := congrArg Site.calls site
  have cut : pending = (earlier ++ later).flatMap chunks := by
    change (p.world.device.queueAll later).pending = _
    rw [InMemoryDevice.queueAll_pending, site]
    change (d.queueAll earlier).pending ++ _ = _
    rw [InMemoryDevice.queueAll_pending, unqueued, List.nil_append, List.flatMap_append]
  obtain ⟨more, p', ran, flow', empty, payloads⟩ :=
    run_flowing notify (flow.queue later) delivers ticks unused enough
  refine ⟨_, more, p', ran, empty, payloads, ?_, ?_, flow'.counted⟩
  · calc (p'.world.calls.map Delivery.payload).flatten
      _ = pending.flatten := congrArg List.flatten payloads
      _ = ((earlier ++ later).flatMap chunks).flatten := congrArg List.flatten cut
      _ = (earlier ++ later).flatten := flatMap_chunks_flatten _
  · intro call made
    obtain ⟨chunk, uri, authorization⟩ := flow'.addressed call made
    exact ⟨chunk.1, chunk.2, uri, authorization⟩

/-- An uploader that fails to deliver the second chunk it is given. -/
def secondRefused : Uploader Nat where
  deliver uri _ payload := fun count =>
    ⟨if count = 1 then .error (.caused (.httpStatus 503 uri payload.length)) else .ok 200, [],
      count + 1⟩

theorem run_forwards_refused :
    let d := Session.overfullDevice
    let clock : Act Unit Rat := pure 0
    secondRefused.Delivers ∧ Ticks clock ∧ d.isOpen = true ∧ d.pending = [] ∧
    (0 ≤ d.config.features ∧ d.config.features ≤ 0xFFFFFFFF) ∧
    ∃ config notes p,
      Act.run start (fresh 100 secondRefused (d.queueAll [List.replicate 64 7, []]) 0 ()) =
        ⟨.ok config, notes, (p : Pipeline Empty (Site Nat Unit))⟩ ∧
      let q := { p with world := p.world.queueAll [[1]] }
      ∃ stats notes p',
        Act.run (run (clock.within Site.timePart) nofun
            ⟨some (Limit.ofData (.int q.world.device.pending.length)), none⟩
            (q.world.device.pending.length + 1)) q =
          ⟨.ok (.finished stats), notes, p'⟩ ∧
        (p'.world.calls.map Delivery.payload).flatten = List.replicate 64 7 ++ [1] ∧
        stats = accounted p'.world.calls := by
  have delivers : secondRefused.Delivers := by
    constructor
    · intro uri authorization payload count e refused
      by_cases second : count = 1
      · subst second
        cases refused
        rfl
      · simp [secondRefused, Act.run, second] at refused
    · exact fun _ _ _ _ => List.not_mem_nil
  have ticks : Ticks (pure 0 : Act Unit Rat) := fun _ => ⟨0, [], (), rfl, List.not_mem_nil⟩
  have inRange : 0 ≤ Session.overfullDevice.config.features ∧
      Session.overfullDevice.config.features ≤ 0xFFFFFFFF := by decide
  obtain ⟨config, notes, p, started, _, runs⟩ := run_forwards_all (κ := Empty) delivers ticks
    (d := Session.overfullDevice) rfl rfl inRange [List.replicate 64 7, []] [[1]] 100 0 () nofun
  obtain ⟨stats, more, p', ran, _, _, whole, _, counted⟩ := runs _ (Nat.lt_succ_self _)
  exact ⟨delivers, ticks, rfl, rfl, inRange, config, notes, p, started, stats, more, p', ran, whole,
    counted⟩

end Pipeline

end ChunkRelay
