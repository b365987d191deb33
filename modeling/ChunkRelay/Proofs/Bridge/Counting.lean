import ChunkRelay.Proofs.Bridge.Course
import ChunkRelay.Proofs.Bridge.Steps
import Mathlib.Data.List.ReduceOption

/-! # What a bridge counts

A step that returns is counted once: as a packet, as an ignored report or as an idle poll. A step
that fails is not counted, and nothing but a step counts anything. So the counts of a bridge tell
how many of its steps returned, how many of them with an event, and how many bytes those events
carried; and the callbacks have been told of these events and no others.
-/

namespace ChunkRelay

/-- The counts that a bridge keeps itself. -/
structure Tally where
  packets : Nat
  bytes : Nat
  deliveryFailures : Nat
  ignoredReports : Nat
  idlePolls : Nat

namespace Tally

/-- The counts from one step to the next, by its answer and by whether a delivery failed in it. -/
def Counts (t t' : Tally) : (undelivered : Bool) → Except Failure (Option PacketEvent) → Prop
  | false, .error _ => t' = t
  | false, .ok (some event) =>
    t' = { t with packets := t.packets + 1, bytes := t.bytes + event.packet.payload.length }
  | false, .ok none =>
    t' = { t with ignoredReports := t.ignoredReports + 1 } ∨
      t' = { t with idlePolls := t.idlePolls + 1 }
  | true, .ok none =>
    t' = { t with packets := t.packets + 1, deliveryFailures := t.deliveryFailures + 1 }
  | true, _ => False

/-- The counts say what the steps that returned answered. -/
structure Balanced (t : Tally) (returned : List (Option PacketEvent)) : Prop where
  steps : t.packets + t.ignoredReports + t.idlePolls = returned.length
  delivered : t.packets = t.deliveryFailures + returned.reduceOption.length
  bytes : t.bytes = (returned.reduceOption.flatMap fun event => event.packet.payload).length

variable {t t' : Tally} {undelivered : Bool} {answer : Except Failure (Option PacketEvent)}
  {returned : List (Option PacketEvent)}

theorem Counts.grown {event? : Option PacketEvent} (counts : t.Counts t' undelivered (.ok event?)) :
    t'.packets + t'.ignoredReports + t'.idlePolls =
        t.packets + t.ignoredReports + t.idlePolls + 1 ∧
      t'.packets + t.deliveryFailures =
        t.packets + t'.deliveryFailures + event?.toList.length ∧
      t'.bytes = t.bytes + (event?.toList.flatMap fun event => event.packet.payload).length := by
  cases undelivered with
  | false =>
      cases event? with
      | none =>
          rcases counts with ignored | idle
          · cases ignored
            exact ⟨Nat.add_right_comm (t.packets + t.ignoredReports) 1 t.idlePolls, rfl, rfl⟩
          · cases idle
            exact ⟨rfl, rfl, rfl⟩
      | some event =>
          cases counts
          exact ⟨by simp only; omega, Nat.add_right_comm .., by simp⟩
  | true =>
      cases event? with
      | none =>
          cases counts
          exact ⟨by simp only; omega, Nat.add_right_comm .., rfl⟩
      | some event => cases counts

theorem Balanced.next (balanced : t.Balanced returned) (counts : t.Counts t' undelivered answer) :
    t'.Balanced (returned ++ answer.toOption.toList) := by
  obtain ⟨steps, delivered, bytes⟩ := balanced
  cases answer with
  | error e =>
      rw [Except.toOption, Option.toList_none, List.append_nil]
      cases undelivered with
      | false =>
          cases counts
          exact ⟨steps, delivered, bytes⟩
      | true => cases counts
  | ok event? =>
      obtain ⟨one, event, more⟩ := counts.grown
      have events : (returned ++ [event?]).reduceOption = returned.reduceOption ++ event?.toList :=
        by rw [List.reduceOption_append, List.reduceOption_singleton]
      rw [Except.toOption, Option.toList_some]
      constructor
      · rw [one, steps, List.length_append, List.length_singleton]
      · rw [events, List.length_append]
        omega
      · rw [more, bytes, events, List.flatMap_append, List.length_append]

end Tally

def Bridge.tally {κ : Type} (b : Bridge κ) : Tally :=
  ⟨b.packets, b.bytes, b.deliveryFailures, b.ignoredReports, b.idlePolls⟩

/-- A world with the events that callbacks have been told of, the first one first. -/
structure Watched (κ ω : Type) where
  world : ω
  told : List (κ × PacketEvent)

def Watched.part {κ ω : Type} : Focus (Watched κ ω) ω where
  get := world
  set world v := { v with world }

namespace Pipeline

open Act

variable {κ ω : Type}

/-- Callbacks with the events that they are told of on record. -/
def watching (notify : κ → PacketEvent → Act (List κ × ω) Unit) (callback : κ)
    (event : PacketEvent) : Act (List κ × Watched κ ω) Unit := fun v =>
  let o := Act.run (notify callback event) (v.1, v.2.world)
  ⟨o.answer, o.notes, (o.world.1, ⟨o.world.2, v.2.told ++ [(callback, event)]⟩)⟩

/-- What callbacks are told of goes on a record in their surroundings. -/
def Records {Ω : Type} (record : Ω → List (κ × PacketEvent))
    (notify : κ → PacketEvent → Act (List κ × Ω) Unit) : Prop :=
  ∀ callback event v, record (Act.run (notify callback event) v).world.2 =
    record v.2 ++ [(callback, event)]

theorem Records.told {Ω : Type} {record : Ω → List (κ × PacketEvent)}
    {notify : κ → PacketEvent → Act (List κ × Ω) Unit} (records : Records record notify)
    {event : PacketEvent} {callbacks : List κ} {w w' : Ω}
    (told : Told notify event callbacks w w') :
    record w' = record w ++ callbacks.map (·, event) := by
  induction callbacks generalizing w with
  | nil =>
      rw [Told] at told
      rw [told, List.map_nil, List.append_nil]
  | cons callback rest ih =>
      obtain ⟨callbacks, later⟩ := told
      rw [ih later, records callback event (callbacks, w), List.map_cons, ← List.append_cons]

theorem watching_records (notify : κ → PacketEvent → Act (List κ × ω) Unit) :
    Records Watched.told (watching notify) := fun _ _ _ => rfl

/-! ## One step -/

def tellsAll (callbacks : List κ) : Except Failure (Option PacketEvent) → List (κ × PacketEvent)
  | .ok (some event) => callbacks.map (·, event)
  | _ => []

section Step

variable (notify : κ → PacketEvent → Act (List κ × ω) Unit) (p : Pipeline κ ω)

/-- What a step answers. -/
def answered : Except Failure (Option PacketEvent) := (Act.run (step notify) p).answer

/-- Which callbacks a step tells of which event. -/
def tells : List (κ × PacketEvent) := tellsAll p.bridge.callbacks (answered notify p)

/-- Whether a step polls for a packet that cannot be delivered. -/
def undelivered : Bool :=
  match p.bridge.config?, p.turn.outcome.answer with
  | some _, .error e => e.isClass .deliveryFailed
  | _, _ => false

end Step

variable {notify : κ → PacketEvent → Act (List κ × ω) Unit} {p q : Pipeline κ ω}

/-- Whatever callbacks do, a step returns the event of a packet that is delivered. -/
theorem answered_delivered (notify : κ → PacketEvent → Act (List κ × ω) Unit) (p : Pipeline κ ω) :
    (answered notify p).toOption.join = p.turn.outcome.answer.toOption := by
  have stepped := step_stepped notify p
  rw [answered]
  generalize (Act.run (step notify) p).answer = answer at stepped ⊢
  generalize (Act.run (step notify) p).world = q at stepped
  cases stepped with
  | unpolled missing =>
      rw [turn, missing]
      rfl
  | failed _ _ polled => rw [polled]; rfl
  | survived _ _ polled => rw [polled]; rfl
  | delivered _ _ _ _ polled => rw [polled]; rfl

theorem undelivered_unpolled (missing : p.bridge.config? = none) : p.undelivered = false := by
  rw [undelivered, missing]

theorem undelivered_error {config : DeviceConfig} {e : Failure}
    (given : p.bridge.config? = some config) (polled : p.turn.outcome.answer = .error e) :
    p.undelivered = e.isClass .deliveryFailed := by
  rw [undelivered, given, polled]

theorem undelivered_ok {event : PacketEvent} (polled : p.turn.outcome.answer = .ok event) :
    p.undelivered = false := by
  rw [undelivered, polled]
  cases p.bridge.config? <;> rfl

theorem Stepped.counts {answer : Except Failure (Option PacketEvent)}
    (stepped : Stepped notify p answer q) :
    p.bridge.tally.Counts q.bridge.tally p.undelivered answer := by
  cases stepped with
  | unpolled missing =>
      rw [undelivered_unpolled missing]
      rfl
  | failed _ given polled fatal =>
      rw [undelivered_error given polled, Failure.deliveryFailed_mishap, fatal]
      rfl
  | @survived _ _ mishap _ given polled survivable =>
      rw [undelivered_error given polled, Failure.deliveryFailed_mishap, survivable]
      cases mishap with
      | idle => exact Or.inr rfl
      | ignored => exact Or.inl rfl
      | undelivered => rfl
  | delivered _ _ _ _ polled _ =>
      rw [undelivered_ok polled]
      rfl

/-! ## Everything else -/

theorem tally_quiet (t : Tally) : Quiet (fun p : Pipeline κ ω => p.bridge.tally = t) where
  bridge _ _ _ same := same
  session _ := ⟨fun _ _ same => same, fun _ _ _ _ same => same, fun _ _ _ _ same => same⟩

/-! ## Courses -/

/-- The counts and the callbacks agree with what the steps taken answered. -/
def Accounted (notify : κ → PacketEvent → Act (List κ × ω) Unit) (taken : List (Pipeline κ ω))
    (t : Tally) (told : List (κ × PacketEvent)) : Prop :=
  told = taken.flatMap (tells notify) ∧
    t.Balanced (taken.filterMap fun q => (answered notify q).toOption)

theorem Stepped.told {Ω : Type} {part : Focus Ω ω} {record : Ω → List (κ × PacketEvent)}
    {notify : κ → PacketEvent → Act (List κ × Ω) Unit} (records : Records record notify)
    (apart : ∀ x w, record (part.set x w) = record w) {p q : Pipeline κ Ω}
    {answer : Except Failure (Option PacketEvent)} (stepped : Stepped notify p answer q)
    (inside : ∃ s : Session ω, p.session = s.within part) :
    (∃ s : Session ω, q.session = s.within part) ∧
      record q.world = record p.world ++ tellsAll p.bridge.callbacks answer := by
  obtain ⟨inside', untold⟩ := Session.process_within p.bridge.config? p.bridge.readTimeoutMs
    (P := fun w => record w = record p.world) (fun x w same => (apart x w).trans same)
    (p.session, p.world) ⟨inside, rfl⟩
  cases stepped with
  | unpolled => exact ⟨inside, (List.append_nil _).symm⟩
  | failed => exact ⟨inside', untold.trans (List.append_nil _).symm⟩
  | survived => exact ⟨inside', untold.trans (List.append_nil _).symm⟩
  | delivered _ _ _ _ _ told =>
      refine ⟨inside', (records.told told).trans ?_⟩
      exact congrArg (· ++ _) untold

theorem accounted_kept : Kept Watched.part (watching notify) fun taken p =>
    (∃ s : Session ω, p.session = s.within Watched.part) ∧
      Accounted (watching notify) taken p.bridge.tally p.world.told where
  -- The session works on a part of the watched world and cannot touch what was told.
  quiet taken :=
    { bridge := fun _ _ _ accounted => accounted
      session := fun b => Session.within_kept
        (P := fun v : Watched κ ω => Accounted (watching notify) taken b.tally v.told)
        fun _ _ holds => holds }
  outside _ accounted := accounted
  step {taken p} accounted := by
    obtain ⟨inside, told, balanced⟩ := accounted
    have stepped := step_stepped (watching notify) p
    obtain ⟨inside', told'⟩ := stepped.told (watching_records notify) (fun _ _ => rfl) inside
    refine ⟨inside', ?_, ?_⟩
    · rw [told', told, List.flatMap_append, List.flatMap_singleton]
      rfl
    · rw [List.filterMap_append, List.filterMap_eq_flatMap_toList _ [p], List.flatMap_singleton]
      exact balanced.next stepped.counts

/-- A bridge that nobody has used, over a session whose surroundings are watched. -/
def unwatched (s : Session ω) (timeoutMs : Int) (w : ω) : Pipeline κ (Watched κ ω) :=
  ⟨.new timeoutMs, s.within Watched.part, ⟨w, []⟩⟩

/-- Each step that returns is counted once, as what it was, and nothing else is counted. So the
    counts tell what became of the steps, and the callbacks hear of the packets that were delivered
    and of no others. -/
theorem counts_partition (notify : κ → PacketEvent → Act (List κ × ω) Unit) :
    (∀ p : Pipeline κ ω, p.bridge.tally.Counts (Act.run (step notify) p).world.bridge.tally
      p.undelivered (Act.run (step notify) p).answer) ∧
    (∀ (p : Pipeline κ ω) (event : PacketEvent) (callbacks : List κ),
      (Act.run start p).world.bridge.tally = p.bridge.tally ∧
      (Act.run stop p).world.bridge.tally = p.bridge.tally ∧
      (Act.run leave p).world.bridge.tally = p.bridge.tally ∧
      (Act.run (dispatch notify event callbacks) p).answer = .ok () ∧
      (Act.run (dispatch notify event callbacks) p).world.bridge.tally = p.bridge.tally) ∧
    ∀ (s : Session ω) (timeoutMs : Int) (w : ω) (moves : List (Move κ ω)),
      let p : Pipeline κ (Watched κ ω) := unwatched s timeoutMs w
      let taken := steps Watched.part (watching notify) p moves
      let q := after Watched.part (watching notify) p moves
      let returned := taken.filterMap fun r => (Act.run (step (watching notify)) r).answer.toOption
      q.bridge.packets + q.bridge.ignoredReports + q.bridge.idlePolls = returned.length ∧
      q.bridge.packets = q.bridge.deliveryFailures + returned.reduceOption.length ∧
      q.bridge.bytes =
        (returned.reduceOption.flatMap fun event => event.packet.payload).length ∧
      q.world.told = taken.flatMap (tells (watching notify)) := by
  refine ⟨fun p => (step_stepped notify p).counts, ?_, ?_⟩
  · intro p event callbacks
    have quiet := tally_quiet (κ := κ) (ω := ω) p.bridge.tally
    obtain ⟨_, _, _, _, dispatched, _⟩ :=
      dispatch_run notify event callbacks p.bridge p.session p.world
    refine ⟨quiet.start rfl, quiet.stop p rfl, quiet.leave p rfl, ?_, ?_⟩
    · exact congrArg Outcome.answer dispatched
    · exact congrArg (·.world.bridge.tally) dispatched
  · intro s timeoutMs w moves p taken q returned
    have fresh : Accounted (watching notify) [] p.bridge.tally p.world.told :=
      ⟨rfl, rfl, rfl, rfl⟩
    obtain ⟨_, told, steps, delivered, bytes⟩ : _ ∧ Accounted _ taken q.bridge.tally q.world.told :=
      accounted_kept.course [] (fun _ _ _ _ _ accounted => accounted) ⟨⟨s, rfl⟩, fresh⟩
    exact ⟨steps, delivered, bytes, told⟩

end Pipeline

end ChunkRelay
