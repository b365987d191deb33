import ChunkRelay.Proofs.Session.Reached
import ChunkRelay.Proofs.Tracker.History

/-! # The tracker of a session

A session asks its tracker for a verdict on every packet that it takes in, and makes it forget when
the stream was switched off or the session is closed. Everything that is known of a tracker's
histories is therefore known of the tracker of a session.
-/

namespace ChunkRelay.Session

open Act

variable {ω : Type}

/-- The event of the packet that an operation takes in. -/
def Operation.takenIn? (w : Session ω × ω) : Operation → Option PacketEvent
  | readPacket timeoutMs => (run (Session.readEvent timeoutMs) w).answer.toOption
  | process (some _) timeoutMs => (run (Session.readEvent timeoutMs) w).answer.toOption
  | handleInput id bytes => (run (Session.handleInput id bytes) w).answer.toOption
  | _ => none

/-- What taking in a packet asks of the tracker, if one was taken in. -/
def seen : Option PacketEvent → List Tracker.Request
  | some event => [.observe event.packet.sequence.val]
  | none => []

/-- What an operation asks of the tracker. -/
def Operation.asked (w : Session ω × ω) : Operation → List Tracker.Request
  | disable => if (run Session.disable w).answer.isOk then [.reset] else []
  | op => seen (op.takenIn? w)

def Move.asked (w : Session (Recorded ω) × Recorded ω) : Move ω → List Tracker.Request
  | operation op => op.asked w
  -- A running stream that is switched off resets the tracker once more, which changes nothing.
  | close => if w.1.closed then [] else [.reset]
  | updateLastSequence n => [.force (Sequence.wrap n).val]
  | setUploader _ => []
  | meanwhile _ => []

/-- What moves ask of the tracker one after the other. -/
def asked (start : Session (Recorded ω) × Recorded ω) : List (Move ω) → List Tracker.Request
  | [] => []
  | move :: moves => move.asked start ++ asked (run move.act start).world moves

section Operations

variable (s : Session ω) (w : ω) (timeoutMs : Int)

theorem readEvent_tracker :
    let o := run (readEvent timeoutMs) (s, w)
    o.world.1.tracker = s.tracker.after (seen o.answer.toOption) := by
  rcases readEvent_outcome s w timeoutMs with ⟨packet, notes, w', taken⟩ | ⟨e, notes, w', unheard⟩
  · rw [taken]
    exact (Tracker.after_observe _ _).symm
  · rw [unheard]
    rfl

theorem handleInput_tracker (id : Int) (bytes : List UInt8) :
    let o := run (handleInput id bytes) (s, w)
    o.world.1.tracker = s.tracker.after (seen o.answer.toOption) := by
  rcases handleInput_outcome s w id bytes with ⟨packet, record, taken⟩ | ⟨e, refused⟩
  · rw [taken]
    exact (Tracker.after_observe _ _).symm
  · rw [refused]
    rfl

theorem process_session (config : DeviceConfig) :
    (run (process (some config) timeoutMs) (s, w)).world.1 =
      (run (readEvent timeoutMs) (s, w)).world.1 := by
  rcases readEvent_outcome s w timeoutMs with ⟨packet, notes, w', taken⟩ | ⟨e, notes, w', unheard⟩
  · obtain ⟨answer, more, w'', forwarded, _⟩ := forward_outcome (s.taken packet) w' config packet
    rw [process_ok taken forwarded, taken]
  · rw [process_error unheard, unheard]

theorem enable_tracker : (run enable (s, w)).world.1.tracker = s.tracker := by
  obtain ⟨answer, notes, w', written⟩ := writeControl_outcome s w true
  cases answer with
  | error e => rw [enable_error written]
  | ok _ => rw [enable_ok written]

theorem disable_tracker :
    (run disable (s, w)).world.1.tracker =
      s.tracker.after (if (run disable (s, w)).answer.isOk then [.reset] else []) := by
  obtain ⟨answer, notes, w', written⟩ := writeControl_outcome s w false
  cases answer with
  | error e =>
      rw [disable_error written]
      rfl
  | ok _ =>
      rw [disable_ok written]
      rfl

/-- An operation leaves the tracker that its requests leave. -/
theorem Operation.tracker (op : Operation) :
    (run op.act (s, w)).world.1.tracker = s.tracker.after (op.asked (s, w)) := by
  cases op with
  | readConfig =>
      have same := (readConfig_preserves (readFeature_state (s := s))).discard (s, w) rfl
      exact congrArg Session.tracker same
  | readFeatures =>
      have same := (readFeatures_preserves (readFeature_state (s := s))).discard (s, w) rfl
      exact congrArg Session.tracker same
  | readText report =>
      have same := (readText_preserves (readFeature_state (s := s)) report).discard (s, w) rfl
      exact congrArg Session.tracker same
  | enable => exact enable_tracker s w
  | disable => exact disable_tracker s w
  | readPacket timeoutMs =>
      rw [act, run_discard, readPacket_run]
      exact readEvent_tracker s w timeoutMs
  | handleInput id bytes =>
      rw [act, run_discard]
      exact handleInput_tracker s w id bytes
  | forward config? packet? =>
      have same := (forwardIfGiven_state (s := s) config? packet?).discard (s, w) rfl
      exact congrArg Session.tracker same
  | process config? timeoutMs =>
      cases config? with
      | none => rfl
      | some config =>
          rw [act, run_discard, process_session]
          exact readEvent_tracker s w timeoutMs

theorem close_tracker :
    (run close (s, w)).world.1.tracker = s.tracker.after (if s.closed then [] else [.reset]) := by
  cases closed : s.closed with
  | true =>
      rw [close_closed closed]
      rfl
  | false =>
      rcases close_cases s w with ⟨closed', _⟩ | ⟨notes, streaming, w', ran⟩
      · rw [closed] at closed'
        cases closed'
      · rw [ran]
        rfl

end Operations

theorem Move.tracker (w : Session (Recorded ω) × Recorded ω) (move : Move ω) :
    (run move.act w).world.1.tracker = w.1.tracker.after (move.asked w) := by
  cases move with
  | operation op => exact op.tracker w.1 w.2
  | close => exact close_tracker w.1 w.2
  | updateLastSequence n =>
      have forced : w.1.tracker.next (.force (Sequence.wrap n).val) = _ :=
        Tracker.next_ok (w.1.tracker.force_wrap n)
      exact forced.symm
  | setUploader uploader? => rfl
  | meanwhile x => rfl

/-- The tracker of a session is where its history of requests leads. -/
theorem after_tracker (start : Session (Recorded ω) × Recorded ω) (moves : List (Move ω)) :
    (after start moves).1.tracker = start.1.tracker.after (asked start moves) := by
  induction moves generalizing start with
  | nil => rfl
  | cons move moves ih =>
      calc
        (after start (move :: moves)).1.tracker =
            (run move.act start).world.1.tracker.after (asked (run move.act start).world moves) :=
          ih _
        _ = start.1.tracker.after (asked start (move :: moves)) := by
          rw [move.tracker, asked, Tracker.after, Tracker.after, Tracker.after, List.foldl_append]

/-! ## The next packet -/

section Next

variable {v : Session ω × ω} {event : PacketEvent}

theorem readEvent_event {timeoutMs : Int}
    (taken : (run (readEvent timeoutMs) v).answer.toOption = some event) :
    event = v.1.event event.packet := by
  rcases readEvent_outcome v.1 v.2 timeoutMs with ⟨packet, _, _, heard⟩ | ⟨_, _, _, unheard⟩
  · rw [heard] at taken
    cases taken
    rfl
  · rw [unheard] at taken
    cases taken

theorem handleInput_event {id : Int} {bytes : List UInt8}
    (taken : (run (handleInput id bytes) v).answer.toOption = some event) :
    event = v.1.event event.packet := by
  rcases handleInput_outcome v.1 v.2 id bytes with ⟨packet, _, handled⟩ | ⟨_, refused⟩
  · rw [handled] at taken
    cases taken
    rfl
  · rw [refused] at taken
    cases taken

theorem Operation.takenIn_event {op : Operation} (taken : op.takenIn? v = some event) :
    event = v.1.event event.packet := by
  cases op with
  | readPacket timeoutMs => exact readEvent_event taken
  | handleInput id bytes => exact handleInput_event taken
  | process config? timeoutMs =>
      cases config? with
      | none => cases taken
      | some config => exact readEvent_event taken
  | _ => cases taken

theorem Operation.takenIn_inOrder {op : Operation} (taken : op.takenIn? v = some event) :
    event.verdict? = some .inOrder ↔ v.1.tracker.expected? = some event.packet.sequence := by
  rw [takenIn_event taken]
  exact v.1.tracker.see_inOrder_iff event.packet.sequence

/-- The verdict on the packet is counted, whatever becomes of the packet. -/
theorem Operation.takenIn_counted {op : Operation} (taken : op.takenIn? v = some event) :
    (run op.act v).world.1.tracker = (v.1.tracker.see event.packet.sequence).2 := by
  have asked : op.asked v = [.observe event.packet.sequence.val] := by
    cases op with
    | disable => cases taken
    | _ => exact congrArg seen taken
  rw [op.tracker v.1 v.2, asked, Tracker.after_observe]

end Next

/-- A number that the tracker was made to take for the last one is followed by the next packet just
    if the packet's number is the one after it. -/
theorem next_after_update (w : Session (Recorded ω) × Recorded ω) (k : Int) (moves : List (Move ω))
    (unasked : asked (after w [.updateLastSequence k]) moves = []) {op : Operation}
    {event : PacketEvent}
    (taken : op.takenIn? (after w (.updateLastSequence k :: moves)) = some event) :
    event.verdict? = some .inOrder ↔ (event.packet.sequence.val : Int) % 32 = (k + 1) % 32 := by
  have tracker : (after w (.updateLastSequence k :: moves)).1.tracker =
      (w.1.updateLastSequence k).tracker := by
    have left := after_tracker (after w [.updateLastSequence k]) moves
    rw [unasked] at left
    exact left
  have small := event.packet.sequence.isLt
  rw [Operation.takenIn_inOrder taken, tracker]
  simp only [Tracker.expected?, updateLastSequence, Option.map_some, Option.some_inj,
    Sequence.next, Fin.ext_iff, Sequence.wrap]
  omega

/-- The bookkeeping of a tracker over any history, and the packet that follows a number which a
    session was made to take for the last one. A number out of range is refused by an error about
    it, unless it is too long to be written into the error's message, and changes nothing. -/
theorem tracker_histories (requests : List Tracker.Request)
    (w : Session (Recorded ω) × Recorded ω) (k : Int) :
    let t := Tracker.new.after requests
    t.number? = Tracker.latest none requests ∧
    (∀ n, t.number? = some n → Tracker.InRange n) ∧
    t.inOrder + t.discontinuities = Tracker.judged none requests ∧
    (∀ request : Tracker.Request, match t.ask request with
      | .error e =>
          (∃ n, request.number? = some n ∧ ¬ Tracker.InRange n ∧
            e.Quoting n .invalidArgument) ∧ t.next request = t
      | .ok _ => ∀ n, request.number? = some n → Tracker.InRange n) ∧
    (∀ n, match t.observe n with
      | .error _ => ¬ Tracker.InRange n
      | .ok (verdict?, _) => (verdict? = none ↔ t.isTracking = false) ∧
          (verdict? = some .inOrder ↔ ∃ m : Sequence, t.expected? = some m ∧ m.val = n)) ∧
    w.1.tracker.force (Sequence.wrap k).val = .ok (w.1.updateLastSequence k).tracker ∧
    ∀ (moves : List (Move ω)) (op : Operation) (event : PacketEvent),
      let left := after w (.updateLastSequence k :: moves)
      asked (after w [.updateLastSequence k]) moves = [] → op.takenIn? left = some event →
      (event.verdict? = some .inOrder ↔ (event.packet.sequence.val : Int) % 32 = (k + 1) % 32) ∧
      (run op.act left).world.1.tracker = (left.1.tracker.see event.packet.sequence).2 := by
  intro t
  refine ⟨Tracker.new.after_number requests, t.number_inRange,
    (Tracker.new.after_total requests).trans (Nat.zero_add _), ?_, t.observe_verdict,
    w.1.tracker.force_wrap k, ?_⟩
  · intro request
    have verdict := t.ask_verdict request
    cases answer : t.ask request with
    | error e =>
        rw [answer] at verdict
        exact ⟨verdict, Tracker.next_error answer⟩
    | ok t' =>
        rw [answer] at verdict
        exact verdict
  · intro moves op event left unasked taken
    exact ⟨next_after_update w k moves unasked taken, op.takenIn_counted taken⟩

/-- Numbers wrap around, and so does a negative one that a session is told: 3 comes after -30. -/
theorem tracker_histories_wrapped :
    let requests : List Tracker.Request :=
      [.observe 5, .observe 6, .observe 9, .force 31, .observe 0, .observe 32, .reset, .observe 7]
    let start := unused (some beacon) none ()
    let left := after start [.updateLastSequence (-30), .operation .enable]
    (Tracker.new.after requests).inOrder + (Tracker.new.after requests).discontinuities = 3 ∧
    ∃ event, (Operation.readPacket 0).takenIn? left = some event ∧ event.packet.sequence = 3 ∧
      event.verdict? = some .inOrder := by
  intro requests start left
  have told := tracker_histories requests start (-30)
  refine ⟨told.2.2.1, _, rfl, rfl, ?_⟩
  have verdict := told.2.2.2.2.2.2 [.operation .enable] (.readPacket 0) _ rfl rfl
  exact verdict.1.mpr rfl

end ChunkRelay.Session
