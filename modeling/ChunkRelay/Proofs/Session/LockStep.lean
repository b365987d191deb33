import Mathlib
import ChunkRelay.Proofs.Session.OverDevice
import ChunkRelay.Proofs.Tracker

/-! # Host and device in step

A session and the device in memory that it alone uses count packets independently of each other.
They agree all the same: on whether the stream is on, and on the number of the next packet up to the
packets that the device has skipped. So a verdict tells exactly whether packets were skipped, up to
multiples of 32.
-/

namespace ChunkRelay

/-- A session with the device that it alone uses, and with what its uploader works on. -/
abbrev Link (σ : Type) : Type := Session (InMemoryDevice × σ) × (InMemoryDevice × σ)

namespace Link

open Act

variable {σ : Type}

/-- The transport of every link. -/
def transport : Transport (InMemoryDevice × σ) := InMemoryDevice.transport.within Focus.fst

/-- A link on which nothing has been done. -/
def fresh (config : DeviceConfig) (uploader? : Option (Uploader σ)) (remote : σ) : Link σ :=
  (.new (some transport) (uploader?.map (·.within Focus.snd)), (.new config, remote))

/-- What can be done on a link, by the host or on the side of the device. -/
inductive Move where
  | enable
  | disable
  | readPacket (timeoutMs : Int)
  | process (config? : Option DeviceConfig) (timeoutMs : Int)
  | readConfig
  | openDevice
  | closeDevice
  | queue (data : List UInt8)
  | skip (count : Int)

/-- Change the device from its own side. -/
def onDevice (f : InMemoryDevice → InMemoryDevice) : Act (Link σ) Unit :=
  modify fun (s, d, remote) => (s, f d, remote)

def Move.act : Move → Act (Link σ) Unit
  | enable => Session.enable
  | disable => Session.disable
  | readPacket timeoutMs => discard (Session.readPacket timeoutMs)
  | process config? timeoutMs => discard (Session.process config? timeoutMs)
  | readConfig => discard Session.readConfig
  | openDevice => Session.outside transport.openDevice
  | closeDevice => Session.outside transport.closeDevice
  | queue data => onDevice fun d => (d.queue data).2
  | skip count => onDevice fun d => d.skip count

/-- The event of the packet that a move takes in, if it takes one in. Reading and judging a packet
    is the same for both moves that do it; whether it can be delivered shows only afterwards. -/
def Move.accepted? (link : Link σ) : Move → Option PacketEvent
  | readPacket timeoutMs | process (some _) timeoutMs =>
    (run (Session.readEvent timeoutMs) link).answer.toOption
  | _ => none

/-- What counts for the numbering of packets. -/
inductive Happening where
  | accepted (event : PacketEvent)
  | switchedOff
  | skipped (count : Int)

def Move.happenings (link : Link σ) : Move → List Happening
  | disable => (run Session.disable link).answer.toOption.toList.map fun _ => .switchedOff
  | skip count => [.skipped count]
  | move => (move.accepted? link).toList.map .accepted

/-- The packet accepted last, unless the stream has been switched off since. The latest happening is
    the first of the list. -/
def previous? : List Happening → Option StreamPacket
  | [] | .switchedOff :: _ => none
  | .accepted event :: _ => some event.packet
  | .skipped _ :: past => previous? past

/-- How many packets the device has skipped since the packet accepted last. -/
def skipped : List Happening → Int
  | .skipped count :: past => count + skipped past
  | _ => 0

/-- A link with its past, the latest happening first. -/
structure Course (σ : Type) where
  link : Link σ
  past : List Happening

def Course.next (c : Course σ) (move : Move) : Course σ :=
  ⟨(run move.act c.link).world, move.happenings c.link ++ c.past⟩

/-- The course that a link takes from the start. -/
def course (start : Link σ) (moves : List Move) : Course σ := moves.foldl Course.next ⟨start, []⟩

/-- What every move keeps. -/
structure InStep (c : Course σ) : Prop where
  transport : c.link.1.transport? = some transport
  uploader : ∃ uploader? : Option (Uploader σ),
    c.link.1.uploader? = uploader?.map (·.within Focus.snd)
  streaming : c.link.1.streaming = c.link.2.1.streaming
  tracked : c.link.1.tracker.last? = (previous? c.past).map StreamPacket.sequence
  numbered : ∀ packet, previous? c.past = some packet →
    c.link.2.1.next = Sequence.wrap (packet.sequence.val + 1 + skipped c.past)

namespace InStep

variable {c : Course σ}

theorem of_fresh (config : DeviceConfig) (uploader? : Option (Uploader σ)) (remote : σ) :
    InStep ⟨fresh config uploader? remote, []⟩ :=
  ⟨rfl, ⟨uploader?, rfl⟩, rfl, rfl, nofun⟩

/-- What neither side counts may change at any time. -/
theorem quiet (held : InStep c) {d : InMemoryDevice} (remote : σ)
    (streaming : d.streaming = c.link.2.1.streaming) (next : d.next = c.link.2.1.next) :
    InStep ⟨(c.link.1, d, remote), c.past⟩ where
  transport := held.transport
  uploader := held.uploader
  streaming := held.streaming.trans streaming.symm
  tracked := held.tracked
  numbered packet latest := next.trans (held.numbered packet latest)

theorem accept (held : InStep c) {packet : StreamPacket}
    (sent : packet.sequence = c.link.2.1.next) (rest : List (List UInt8)) (remote : σ) :
    InStep ⟨(c.link.1.taken packet, c.link.2.1.sent rest, remote),
      .accepted (c.link.1.event packet) :: c.past⟩ where
  transport := held.transport
  uploader := held.uploader
  streaming := held.streaming
  tracked := Tracker.see_last _ _
  numbered latest same := by
    have latest_eq : packet = latest := Option.some.inj same
    subst latest_eq
    change Sequence.next _ = Sequence.wrap (packet.sequence.val + 1 + 0)
    rw [sent, Int.add_zero]
    rfl

theorem switchOn (held : InStep c) (remote : σ) :
    InStep ⟨({ c.link.1 with streaming := true }, c.link.2.1.switched true, remote), c.past⟩ where
  transport := held.transport
  uploader := held.uploader
  streaming := rfl
  tracked := held.tracked
  numbered := held.numbered

theorem switchOff (held : InStep c) (remote : σ) :
    InStep ⟨({ c.link.1 with streaming := false, tracker := c.link.1.tracker.reset },
      c.link.2.1.switched false, remote), .switchedOff :: c.past⟩ where
  transport := held.transport
  uploader := held.uploader
  streaming := rfl
  tracked := rfl
  numbered := nofun

theorem skip (held : InStep c) (count : Int) :
    InStep ⟨(c.link.1, c.link.2.1.skip count, c.link.2.2), .skipped count :: c.past⟩ where
  transport := held.transport
  uploader := held.uploader
  streaming := held.streaming
  tracked := held.tracked
  numbered packet latest := by
    have before := held.numbered packet latest
    change Sequence.wrap (c.link.2.1.next.val + count) =
      Sequence.wrap (packet.sequence.val + 1 + (count + skipped c.past))
    rw [before, Sequence.wrap_shift]
    congr 1
    omega

theorem enable (held : InStep c) : InStep (c.next .enable) := by
  rcases c with ⟨⟨s, d, remote⟩, past⟩
  rw [Course.next, Move.act]
  cases isOpen : d.isOpen with
  | false =>
      obtain ⟨e, refused⟩ := Session.enable_closed (w := (d, remote)) held.transport isOpen
      rw [refused]
      exact held
  | true =>
      obtain ⟨record, enabled⟩ := Session.enable_open (w := (d, remote)) held.transport isOpen
      rw [enabled]
      exact held.switchOn remote

theorem disable (held : InStep c) : InStep (c.next .disable) := by
  rcases c with ⟨⟨s, d, remote⟩, past⟩
  rw [Course.next, Move.act, Move.happenings]
  cases isOpen : d.isOpen with
  | false =>
      obtain ⟨e, refused⟩ := Session.disable_closed (w := (d, remote)) held.transport isOpen
      rw [refused]
      exact held
  | true =>
      obtain ⟨record, disabled⟩ := Session.disable_open (w := (d, remote)) held.transport isOpen
      rw [disabled]
      exact held.switchOff remote

theorem readPacket (held : InStep c) (timeoutMs : Int) :
    InStep (c.next (.readPacket timeoutMs)) := by
  rcases c with ⟨⟨s, d, remote⟩, past⟩
  have happened : (Move.readPacket timeoutMs).happenings (s, d, remote) =
    (run (Session.readEvent timeoutMs) (s, d, remote)).answer.toOption.toList.map .accepted := rfl
  rw [Course.next, Move.act, run_discard, Session.readPacket_run, happened]
  rcases Session.readEvent_cases held.transport (d, remote) timeoutMs with
    ⟨packet, rest, record, sent, _, taken⟩ | ⟨e, d', failed, streaming, next⟩
  · rw [taken]
    exact held.accept sent rest remote
  · rw [failed]
    exact held.quiet remote streaming next

theorem process (held : InStep c) (config : DeviceConfig) (timeoutMs : Int) :
    InStep (c.next (.process (some config) timeoutMs)) := by
  rcases c with ⟨⟨s, d, remote⟩, past⟩
  obtain ⟨uploader?, uploads⟩ := held.uploader
  have happened : (Move.process (some config) timeoutMs).happenings (s, d, remote) =
    (run (Session.readEvent timeoutMs) (s, d, remote)).answer.toOption.toList.map .accepted := rfl
  rw [Course.next, Move.act, run_discard, happened]
  rcases Session.readEvent_cases held.transport (d, remote) timeoutMs with
    ⟨packet, rest, record, sent, _, taken⟩ | ⟨e, d', failed, streaming, next⟩
  · obtain ⟨answer, notes, remote', forwarded⟩ :=
      Session.forward_apart (s := s.taken packet) uploads config packet (d.sent rest) remote
    rw [taken, Session.process_ok taken forwarded]
    exact held.accept sent rest remote'
  · rw [failed, Session.process_error failed]
    exact held.quiet remote streaming next

theorem readConfig (held : InStep c) : InStep (c.next .readConfig) := by
  rcases c with ⟨⟨s, d, remote⟩, past⟩
  have kept := Session.readConfig_kept (w := (d, remote)) held.transport _ rfl
  rw [Course.next, Move.act, run_discard, kept]
  exact held

theorem next (held : InStep c) (move : Move) : InStep (c.next move) := by
  cases move with
  | enable => exact held.enable
  | disable => exact held.disable
  | readPacket timeoutMs => exact held.readPacket timeoutMs
  | process config? timeoutMs =>
      cases config? with
      | none => exact held
      | some config => exact held.process config timeoutMs
  | readConfig => exact held.readConfig
  | openDevice | closeDevice | queue => exact held.quiet _ rfl rfl
  | skip count => exact held.skip count

theorem foldl (held : InStep c) (moves : List Move) : InStep (moves.foldl Course.next c) := by
  induction moves generalizing c with
  | nil => exact held
  | cons move moves ih => exact ih (held.next move)

theorem verdict (held : InStep c) :
    (c.link.1.tracker.see c.link.2.1.next).1 =
      if (previous? c.past).isNone then none
      else if 32 ∣ skipped c.past then some .inOrder
      else some .discontinuous := by
  have tracked := held.tracked
  cases latest : previous? c.past with
  | none =>
      rw [latest] at tracked
      exact Tracker.see_first _ _ tracked
  | some packet =>
      rw [latest] at tracked
      rw [held.numbered packet latest, Tracker.see_skipped _ tracked]
      simp only [Option.isNone_some, Bool.false_eq_true, if_false]
      split <;> rfl

/-- Whatever is taken in is what the device sends next. -/
theorem accepted (held : InStep c) {move : Move} {event : PacketEvent}
    (taken : move.accepted? c.link = some event) :
    event.packet.sequence = c.link.2.1.next ∧
    c.link.2.1.pending.head? = some event.packet.payload ∧
    event.verdict? = (c.link.1.tracker.see c.link.2.1.next).1 := by
  rcases c with ⟨⟨s, d, remote⟩, past⟩
  obtain ⟨timeoutMs, read⟩ : ∃ timeoutMs,
      (run (Session.readEvent timeoutMs) (s, d, remote)).answer.toOption = some event := by
    cases move with
    | readPacket timeoutMs => exact ⟨timeoutMs, taken⟩
    | process config? timeoutMs =>
        cases config? with
        | none => cases taken
        | some config => exact ⟨timeoutMs, taken⟩
    | _ => cases taken
  rcases Session.readEvent_cases held.transport (d, remote) timeoutMs with
    ⟨packet, rest, record, sent, pending, received⟩ | ⟨e, d', failed, _, _⟩
  · rw [received] at read
    cases read
    change d.pending = _ at pending
    change packet.sequence = d.next at sent
    exact ⟨sent, by rw [pending]; rfl, by rw [Session.event, sent]⟩
  · rw [failed] at read
    cases read

end InStep

/-- Whatever was done before, the two sides agree on whether the stream is on and on the next
    number, and the verdict on a packet says what the device has skipped since the one before it. -/
theorem lock_step (config : DeviceConfig) (uploader? : Option (Uploader σ)) (remote : σ)
    (moves : List Move) :
    let c := course (fresh config uploader? remote) moves
    c.link.1.streaming = c.link.2.1.streaming ∧
    c.link.1.tracker.last? = (previous? c.past).map StreamPacket.sequence ∧
    (∀ n, c.link.1.tracker.last? = some n →
      c.link.2.1.next = Sequence.wrap (n.val + 1 + skipped c.past)) ∧
    (∀ (move : Move) (event : PacketEvent), move.accepted? c.link = some event →
      event.packet.sequence = c.link.2.1.next ∧
      c.link.2.1.pending.head? = some event.packet.payload ∧
      event.verdict? =
        if (previous? c.past).isNone then none
        else if 32 ∣ skipped c.past then some .inOrder
        else some .discontinuous) ∧
    ∀ (config : DeviceConfig) (timeoutMs : Int) (event : PacketEvent),
      (run (Session.process (some config) timeoutMs) c.link).answer = .ok event →
        (Move.process (some config) timeoutMs).accepted? c.link = some event := by
  intro c
  have held : InStep c := (InStep.of_fresh config uploader? remote).foldl moves
  refine ⟨held.streaming, held.tracked, ?_, ?_, ?_⟩
  · intro n tracked
    rw [held.tracked, Option.map_eq_some_iff] at tracked
    obtain ⟨packet, latest, rfl⟩ := tracked
    exact held.numbered packet latest
  · intro move event taken
    obtain ⟨sent, first, judged⟩ := held.accepted taken
    exact ⟨sent, first, judged.trans held.verdict⟩
  · intro config timeoutMs event processed
    exact congrArg Except.toOption (Session.process_answer processed)

/-- A packet after 33 skipped ones; after 32 it would count as the next one. -/
theorem lock_step_skipped :
    let c := course (fresh ⟨0, "", "", ""⟩ (none : Option (Uploader Unit)) ())
      [.openDevice, .enable, .queue [1], .readPacket 0, .skip 33, .queue [2]]
    ∃ event, (Move.readPacket 0).accepted? c.link = some event ∧
      event.verdict? = some .discontinuous := by
  intro c
  obtain ⟨event, taken⟩ : ∃ event, (Move.readPacket 0).accepted? c.link = some event :=
    Option.isSome_iff_exists.mp (by cbv)
  obtain ⟨_, _, judged⟩ := (lock_step ⟨0, "", "", ""⟩ (none : Option (Uploader Unit)) ()
    [.openDevice, .enable, .queue [1], .readPacket 0, .skip 33, .queue [2]]).2.2.2.1 _ _ taken
  exact ⟨event, taken, judged.trans (by cbv)⟩

end Link

end ChunkRelay
