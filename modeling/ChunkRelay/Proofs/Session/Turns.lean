import ChunkRelay.Proofs.Session.Exchanges

/-! # What a session hands over

A session is polled again and again by calls of `process`. Every stream report with at least one
byte that its transport answers with is handed over once, in order, whatever the verdict on it and
whatever became of the packets before it. What the session learns from the answers depends on them
alone: the uploader plays no part in it.
-/

namespace ChunkRelay

/-- A call of `process`. -/
structure Poll where
  config? : Option DeviceConfig
  timeoutMs : Int

/-- The chunk in a stream report, which has to have at least one byte. -/
def Reception.chunk? : Reception → Option (List UInt8)
  | .ok (id, _ :: chunk) => if id = 6 then some (chunk.take 63) else none
  | _ => none

/-- What a transport answers to polls if it is left to itself. -/
def Transport.answers {τ : Type} (t : Transport τ) : List Poll → τ → List (Option Reception)
  | [], _ => []
  | ⟨none, _⟩ :: polls, x => none :: t.answers polls x
  | ⟨some _, timeoutMs⟩ :: polls, x =>
    let o := Act.run (t.readInput ReportId.streamData.limit timeoutMs) x
    some o.answer :: t.answers polls o.world

namespace Session

theorem chunk_heard {answer : Reception} {packet : StreamPacket}
    (understood : heard answer = .ok packet) : answer.chunk? = some packet.payload := by
  rcases answer with e | ⟨id, bytes⟩
  · cases understood
  · rw [heard, accept] at understood
    split at understood
    · subst id
      cases bytes with
      | nil => cases understood
      | cons first rest =>
          cases understood
          rfl
    · cases understood

theorem chunk_unheard {answer : Reception} {e : Failure} (unheard : heard answer = .error e) :
    answer.chunk? = none := by
  rcases answer with failure | ⟨id, bytes⟩
  · rfl
  · rw [heard, accept] at unheard
    split at unheard
    · cases bytes with
      | nil => rfl
      | cons first rest => cases unheard
    · rename_i other
      cases bytes with
      | nil => rfl
      | cons first rest => exact if_neg other

end Session

/-- What a tracker makes of an answer, if there is one: the event of the packet in it and the
    tracker from then on. -/
def Tracker.hear (t : Tracker) : Option Reception → Option PacketEvent × Tracker
  | none => (none, t)
  | some answer =>
    match Session.heard answer with
    | .ok packet => (some ⟨packet, (t.see packet.sequence).1⟩, (t.see packet.sequence).2)
    | .error _ => (none, t)

def Tracker.hearAll : Tracker → List (Option Reception) → List (Option PacketEvent × Tracker)
  | _, [] => []
  | t, answer? :: later => t.hear answer? :: (t.hear answer?).2.hearAll later

namespace Session

open Act

variable {ω : Type}

/-- A poll with what it starts from. -/
structure Turn (ω : Type) where
  poll : Poll
  before : Session ω × ω

namespace Turn

def outcome (turn : Turn ω) : Outcome (Session ω × ω) PacketEvent :=
  run (process turn.poll.config? turn.poll.timeoutMs) turn.before

/-- What the transport answers, if it is asked. -/
def answer? (turn : Turn ω) : Option Reception :=
  match turn.poll.config?, turn.before.1.transport? with
  | some _, some t =>
    some (run (t.readInput ReportId.streamData.limit turn.poll.timeoutMs) turn.before.2).answer
  | _, _ => none

/-- The event of the packet that is taken in, whether or not it can be delivered. -/
def event? (turn : Turn ω) : Option PacketEvent :=
  turn.poll.config?.bind fun _ =>
    (run (readEvent turn.poll.timeoutMs) turn.before).answer.toOption

/-- What the session has learnt. -/
def learnt (turn : Turn ω) : Option PacketEvent × Tracker :=
  (turn.event?, turn.outcome.world.1.tracker)

/-- What is to be handed over: where to, under which authorization, and the chunk. -/
def due? (turn : Turn ω) : Option (String × String × List UInt8) :=
  turn.poll.config?.bind fun config =>
    (turn.answer?.bind Reception.chunk?).map fun chunk =>
      (config.dataUri, config.authorization, chunk)

end Turn

/-- The turns of a session that is polled again and again. -/
def turns : List Poll → Session ω × ω → List (Turn ω)
  | [], _ => []
  | poll :: polls, w => ⟨poll, w⟩ :: turns polls (Turn.mk poll w).outcome.world

/-- What the polls leave behind. -/
def polled (polls : List Poll) (w : Session ω × ω) : Session ω × ω :=
  polls.foldl (fun w poll => (Turn.mk poll w).outcome.world) w

/-! ## One turn -/

/-- The session after an answer, if there is one. -/
def hearing (answer? : Option Reception) (s : Session ω) : Session ω :=
  { s with tracker := (s.tracker.hear answer?).2 }

variable {s : Session ω} {w : ω} {poll : Poll} {config : DeviceConfig} {timeoutMs : Int}

theorem hear_understood (t : Tracker) {answer : Reception} {packet : StreamPacket}
    (understood : heard answer = .ok packet) :
    t.hear (some answer) =
      (some ⟨packet, (t.see packet.sequence).1⟩, (t.see packet.sequence).2) := by
  rw [Tracker.hear, understood]

theorem hear_unheard (t : Tracker) {answer : Reception} {e : Failure}
    (unheard : heard answer = .error e) : t.hear (some answer) = (none, t) := by
  rw [Tracker.hear, unheard]

theorem answer_none (missing : s.transport? = none) :
    (Turn.mk poll (s, w)).answer? = none := by
  rw [Turn.answer?, missing]
  cases poll.config? <;> rfl

theorem answer_some {t : Transport ω} (given : s.transport? = some t) :
    (Turn.mk ⟨some config, timeoutMs⟩ (s, w)).answer? =
      some (run (t.readInput ReportId.streamData.limit timeoutMs) w).answer := by
  rw [Turn.answer?, given]

/-- Of the session a turn changes the tracker alone, and that only by the answer. -/
theorem turn_session (turn : Turn ω) :
    turn.outcome.world.1 = turn.before.1.hearing turn.answer? ∧
      turn.event? = (turn.before.1.tracker.hear turn.answer?).1 := by
  obtain ⟨⟨config?, timeoutMs⟩, s, w⟩ := turn
  cases config? with
  | none => exact ⟨rfl, rfl⟩
  | some config =>
      cases given : s.transport? with
      | none =>
          have unread : run (readEvent timeoutMs) (s, w) = _ := readEvent_none given
          rw [answer_none given, Turn.outcome, process_error unread, Turn.event?,
            Option.bind_some, unread]
          exact ⟨rfl, rfl⟩
      | some t =>
          rw [answer_some given]
          rcases read : run (t.readInput ReportId.streamData.limit timeoutMs) w with
            ⟨answer, notes, w'⟩
          cases understood : heard answer with
          | error e =>
              have unread := readEvent_error given read understood
              rw [Turn.outcome, process_error unread, Turn.event?, Option.bind_some, unread,
                hearing, hear_unheard _ understood]
              exact ⟨rfl, rfl⟩
          | ok packet =>
              obtain ⟨record, taken⟩ := readEvent_ok given read understood
              obtain ⟨_, _, _, forwarded, _⟩ := forward_outcome (s.taken packet) w' config packet
              rw [Turn.outcome, process_ok taken forwarded, Turn.event?, Option.bind_some, taken,
                hearing, hear_understood _ understood]
              exact ⟨rfl, rfl⟩

theorem Turn.event_answered (turn : Turn ω) {event : PacketEvent}
    (processed : turn.outcome.answer = .ok event) : turn.event? = some event := by
  obtain ⟨⟨config?, timeoutMs⟩, w⟩ := turn
  cases config? with
  | none => cases processed
  | some config => exact congrArg Except.toOption (process_answer processed)

/-! ## What is learnt -/

theorem learnt_turns (polls : List Poll) (w : Session ω × ω) :
    (turns polls w).map Turn.learnt =
      w.1.tracker.hearAll ((turns polls w).map Turn.answer?) := by
  induction polls generalizing w with
  | nil => rfl
  | cons poll polls ih =>
      obtain ⟨session, event⟩ := turn_session ⟨poll, w⟩
      have tracker : (Turn.mk poll w).outcome.world.1.tracker =
          (w.1.tracker.hear (Turn.mk poll w).answer?).2 := congrArg Session.tracker session
      rw [turns, List.map_cons, List.map_cons, Tracker.hearAll, Turn.learnt, event, tracker]
      rw [ih, tracker]

/-! ## What is handed over -/

section Record

variable {t : Transport ω} {u : Uploader ω}

theorem due_answered {w : Session ω × ω} {answer : Reception}
    (answered : (Turn.mk ⟨some config, timeoutMs⟩ w).answer? = some answer) :
    (Turn.mk ⟨some config, timeoutMs⟩ w).due? =
      answer.chunk?.map fun chunk => (config.dataUri, config.authorization, chunk) := by
  rw [Turn.due?, answered]
  rfl

/-- A turn reads once if it is given a configuration, and hands over what it then has to. -/
theorem turn_record (turn : Turn (Recorded ω))
    (transport : turn.before.1.transport? = some t.recorded)
    (uploader : turn.before.1.uploader? = some u.recorded) :
    turn.outcome.world.2.deliveries = turn.before.2.deliveries ++ turn.due?.toList ∧
      turn.outcome.world.2.receptions = turn.before.2.receptions ++ turn.answer?.toList := by
  obtain ⟨⟨config?, timeoutMs⟩, s, r⟩ := turn
  cases config? with
  | none => exact ⟨(List.append_nil _).symm, (List.append_nil _).symm⟩
  | some config =>
      obtain ⟨answer, notes, w, _, read⟩ :=
        t.readInput_recorded ReportId.streamData.limit timeoutMs r
      have answered : (Turn.mk ⟨some config, timeoutMs⟩ (s, r)).answer? = some answer := by
        rw [answer_some transport, read]
      rw [due_answered answered, answered]
      cases understood : heard answer with
      | error e =>
          have unread := readEvent_error transport read understood
          rw [Turn.outcome, process_error unread, chunk_unheard understood]
          exact ⟨List.filterMap_append, List.filterMap_append⟩
      | ok packet =>
          obtain ⟨record, taken⟩ := readEvent_ok transport read understood
          obtain ⟨status, more, w', forwarded⟩ :=
            forward_recorded (s := s.taken packet) uploader config packet _
          rw [Turn.outcome, process_ok taken forwarded, chunk_heard understood]
          simp only [Recorded.deliveries, Recorded.receptions, List.append_assoc]
          exact ⟨List.filterMap_append, List.filterMap_append⟩

theorem turns_record (polls : List Poll) {w : Session (Recorded ω) × Recorded ω}
    (transport : w.1.transport? = some t.recorded)
    (uploader : w.1.uploader? = some u.recorded) :
    (polled polls w).2.deliveries = w.2.deliveries ++ (turns polls w).filterMap Turn.due? ∧
      (polled polls w).2.receptions =
        w.2.receptions ++ (turns polls w).filterMap Turn.answer? := by
  induction polls generalizing w with
  | nil => exact ⟨(List.append_nil _).symm, (List.append_nil _).symm⟩
  | cons poll polls ih =>
      obtain ⟨deliveries, receptions⟩ := turn_record ⟨poll, w⟩ transport uploader
      obtain ⟨session, _⟩ := turn_session ⟨poll, w⟩
      obtain ⟨later, listened⟩ := ih (w := (Turn.mk poll w).outcome.world)
        (by rw [session]; exact transport) (by rw [session]; exact uploader)
      rw [turns, polled, List.foldl_cons, List.filterMap_cons, List.filterMap_cons]
      constructor
      · rw [← polled, later, deliveries, List.append_assoc]
        cases (Turn.mk poll w).due? <;> rfl
      · rw [← polled, listened, receptions, List.append_assoc]
        cases (Turn.mk poll w).answer? <;> rfl

end Record

/-! ## The part of the uploader -/

section Apart

variable {τ σ σ' : Type} {t : Transport τ} {u? : Option (Uploader σ)}

theorem turn_apart (poll : Poll) {s : Session (τ × σ)} {x : τ} (y : σ)
    (transport : s.transport? = some (t.within .fst))
    (uploader : s.uploader? = u?.map (·.within .snd)) :
    t.answers (poll :: polls) x = (Turn.mk poll (s, x, y)).answer? ::
      t.answers polls (Turn.mk poll (s, x, y)).outcome.world.2.1 := by
  obtain ⟨config?, timeoutMs⟩ := poll
  cases config? with
  | none => rfl
  | some config =>
      rcases read : run (t.readInput ReportId.streamData.limit timeoutMs) x with
        ⟨answer, notes, x'⟩
      have read' : run ((t.within Focus.fst).readInput ReportId.streamData.limit timeoutMs) (x, y) =
          ⟨answer, notes, (x', y)⟩ := run_within_of read
      rw [answer_some transport, read', Transport.answers, read]
      cases understood : heard answer with
      | error e =>
          have unread := readEvent_error transport read' understood
          rw [Turn.outcome, process_error unread]
      | ok packet =>
          obtain ⟨record, taken⟩ := readEvent_ok transport read' understood
          obtain ⟨_, _, _, forwarded⟩ :=
            forward_apart (s := s.taken packet) uploader config packet x' y
          rw [Turn.outcome, process_ok taken forwarded]

theorem answers_apart (polls : List Poll) {s : Session (τ × σ)} (x : τ) (y : σ)
    (transport : s.transport? = some (t.within .fst))
    (uploader : s.uploader? = u?.map (·.within .snd)) :
    (turns polls (s, x, y)).map Turn.answer? = t.answers polls x := by
  induction polls generalizing s x y with
  | nil => rfl
  | cons poll polls ih =>
      obtain ⟨session, _⟩ := turn_session ⟨poll, s, x, y⟩
      rw [turns, List.map_cons, turn_apart poll y transport uploader]
      rcases left : (Turn.mk poll (s, x, y)).outcome.world with ⟨s', x', y'⟩
      rw [left] at session
      dsimp only at session
      subst session
      exact congrArg _ (ih x' y' transport uploader)

end Apart

/-- Whatever the answers and whatever becomes of the deliveries, each packet that is taken in is
    handed over once and in order, and nothing else is. What is learnt follows from the answers, so
    another uploader or none makes no difference to it. -/
theorem process_forwards_once (t : Transport ω) (u : Uploader ω) (tracker : Tracker)
    (streaming closed : Bool) (r : Recorded ω) (polls : List Poll) :
    let start : Session (Recorded ω) × Recorded ω :=
      (⟨some t.recorded, some u.recorded, tracker, streaming, closed⟩, r)
    let done := turns polls start
    (polled polls start).2.deliveries = r.deliveries ++ done.filterMap Turn.due? ∧
    (polled polls start).2.receptions = r.receptions ++ done.filterMap Turn.answer? ∧
    (∀ turn ∈ done, ∀ event, turn.outcome.answer = .ok event → turn.event? = some event) ∧
    done.map Turn.learnt = tracker.hearAll (done.map Turn.answer?) ∧
    ∀ (τ σ σ' : Type) (t : Transport τ) (u? : Option (Uploader σ)) (u'? : Option (Uploader σ'))
      (x : τ) (y : σ) (y' : σ'),
      (turns polls (⟨some (t.within .fst), u?.map (·.within .snd), tracker, streaming, closed⟩,
        x, y)).map Turn.learnt =
      (turns polls (⟨some (t.within .fst), u'?.map (·.within .snd), tracker, streaming, closed⟩,
        x, y')).map Turn.learnt := by
  intro start done
  obtain ⟨deliveries, receptions⟩ := turns_record polls (w := start) (t := t) (u := u) rfl rfl
  refine ⟨deliveries, receptions, ?_, learnt_turns polls start, ?_⟩
  · intro turn _ event processed
    exact turn.event_answered processed
  · intro τ σ σ' t u? u'? x y y'
    rw [learnt_turns, learnt_turns, answers_apart polls x y rfl rfl,
      answers_apart polls x y' rfl rfl]

end Session

end ChunkRelay
