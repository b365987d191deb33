import ChunkRelay.Proofs.Bridge.Operations
import ChunkRelay.Proofs.Session.Turns

/-! # What a step comes to

A step polls the session once. It counts what became of the poll, or it fails with it and counts
nothing. The event of a delivered packet goes to the callbacks that were subscribed when the step
began; whatever they do, and whether or not they fail, the counts and the session stay as they are.
-/

namespace ChunkRelay

/-- What a bridge survives. -/
inductive Mishap where
  | idle
  | ignored
  | undelivered

def Failure.mishap? (e : Failure) : Option Mishap :=
  if e.isClass .transportTimeout then some .idle
  else if e.isClass .wrongReport || e.isClass .malformedReport then some .ignored
  else if e.isClass .deliveryFailed then some .undelivered
  else none

theorem Failure.deliveryFailed_mishap (e : Failure) :
    e.isClass .deliveryFailed =
      match e.mishap? with
      | some .undelivered => true
      | _ => false := by
  cases failed : e.isClass .deliveryFailed with
  | true =>
      obtain ⟨timeout, wrong, malformed⟩ := deliveryFailed_only failed
      simp [mishap?, timeout, wrong, malformed, failed]
  | false =>
      rw [mishap?, failed]
      cases e.isClass .transportTimeout with
      | true => rfl
      | false => cases e.isClass .wrongReport || e.isClass .malformedReport <;> rfl

theorem Failure.mishap_undelivered {e : Failure} (failed : e.isClass .deliveryFailed = true) :
    e.mishap? = some .undelivered := by
  rw [deliveryFailed_mishap] at failed
  split at failed
  · assumption
  · cases failed

namespace Bridge

variable {κ : Type}

def counting : Mishap → Bridge κ → Bridge κ
  | .idle, b => { b with idlePolls := b.idlePolls + 1 }
  | .ignored, b => { b with ignoredReports := b.ignoredReports + 1 }
  | .undelivered, b =>
    { b with deliveryFailures := b.deliveryFailures + 1, packets := b.packets + 1 }

end Bridge

namespace Pipeline

open Act

variable {κ ω : Type} {b : Bridge κ} {s : Session ω} {w w' : ω} {e : Failure}
  {notify : κ → PacketEvent → Act (List κ × ω) Unit} {event : PacketEvent}

/-- What a step makes of a failure of its poll. -/
theorem survive_run (e : Failure) : ∃ notes,
    Act.run (survive e) (⟨b, s, w⟩ : Pipeline κ ω) =
      match e.mishap? with
      | some mishap => ⟨.ok none, notes, ⟨b.counting mishap, s, w⟩⟩
      | none => ⟨.error e, notes, ⟨b, s, w⟩⟩ := by
  by_cases undelivered : e.isClass .deliveryFailed = true
  · obtain ⟨notes, survived⟩ := survive_undelivered undelivered (b := b) (s := s) (w := w)
    obtain ⟨timeout, wrong, malformed⟩ := Failure.deliveryFailed_only undelivered
    refine ⟨notes, ?_⟩
    simp only [survived, Failure.mishap?, timeout, wrong, malformed, undelivered]
    rfl
  rw [survive, Failure.mishap?]
  by_cases timeout : e.isClass .transportTimeout = true
  · rw [if_pos timeout, if_pos timeout]
    exact ⟨_, rfl⟩
  rw [if_neg timeout, if_neg timeout]
  by_cases unfit : (e.isClass .wrongReport || e.isClass .malformedReport) = true
  · rw [if_pos unfit, if_pos unfit]
    exact ⟨_, rfl⟩
  rw [if_neg unfit, if_neg unfit, if_neg undelivered, if_neg undelivered]
  exact ⟨_, rfl⟩

/-! ## Callbacks -/

/-- The world changes as the given callbacks are told of the event, each with some callbacks
    subscribed at the time. -/
def Told (notify : κ → PacketEvent → Act (List κ × ω) Unit) (event : PacketEvent) :
    List κ → ω → ω → Prop
  | [], w, w' => w' = w
  | callback :: rest, w, w' => ∃ callbacks,
    Told notify event rest (Act.run (notify callback event) (callbacks, w)).world.2 w'

theorem dispatch_run (notify : κ → PacketEvent → Act (List κ × ω) Unit) (event : PacketEvent)
    (callbacks : List κ) (b : Bridge κ) (s : Session ω) (w : ω) :
    ∃ notes stopping left w', Act.run (dispatch notify event callbacks) ⟨b, s, w⟩ =
        ⟨.ok (), notes, ⟨{ b with stopping, callbacks := left }, s, w'⟩⟩ ∧
      Told notify event callbacks w w' := by
  -- What a callback subscribes or cancels matters to later events only: the list stays as given.
  induction callbacks generalizing b w with
  | nil => exact ⟨[], b.stopping, b.callbacks, w, rfl, rfl⟩
  | cons callback rest ih =>
      let o := Act.run (notify callback event) (b.callbacks, w)
      obtain ⟨stopping, heeded⟩ := { b with callbacks := o.world.1 }.heed_stopping o.notes
      have survived : ∃ notes, Act.run (tryCatch (viaCallbacks (notify callback event)) fun _ =>
          Act.log .error .bridge "PACKET_CALLBACK_ERROR") (⟨b, s, w⟩ : Pipeline κ ω) =
          ⟨.ok (), notes, ⟨{ b with stopping, callbacks := o.world.1 }, s, o.world.2⟩⟩ := by
        have ran : Act.run (viaCallbacks (notify callback event)) (⟨b, s, w⟩ : Pipeline κ ω) =
            ⟨o.answer, o.notes, ⟨{ b with stopping, callbacks := o.world.1 }, s, o.world.2⟩⟩ := by
          rw [← heeded]
          rfl
        rw [run_tryCatch, ran]
        cases o.answer with
        | ok _ => exact ⟨_, rfl⟩
        | error _ => exact ⟨_, rfl⟩
      obtain ⟨notes, survived⟩ := survived
      obtain ⟨more, stopping', left, w', dispatched, told⟩ :=
        ih { b with stopping, callbacks := o.world.1 } o.world.2
      refine ⟨notes ++ more, stopping', left, w', ?_, b.callbacks, told⟩
      rw [dispatch, run_bind_ok survived, dispatched]
      rfl

/-! ## Steps -/

/-- The poll that a step makes if the bridge has a configuration. -/
def turn (p : Pipeline κ ω) : Session.Turn ω :=
  ⟨⟨p.bridge.config?, p.bridge.readTimeoutMs⟩, (p.session, p.world)⟩

theorem turn_polled {p : Pipeline κ ω} {config : DeviceConfig}
    (given : p.bridge.config? = some config) :
    ∃ notes stopping,
      Act.run (viaSession (Session.process (some config) p.bridge.readTimeoutMs)) p =
        ⟨p.turn.outcome.answer, notes, ⟨{ p.bridge with stopping }, p.turn.outcome.world.1,
          p.turn.outcome.world.2⟩⟩ := by
  obtain ⟨stopping, heeded⟩ := p.bridge.heed_stopping p.turn.outcome.notes
  refine ⟨p.turn.outcome.notes, stopping, ?_⟩
  rw [← heeded, ← given]
  rfl

/-- What a step answers and leaves behind. -/
inductive Stepped (notify : κ → PacketEvent → Act (List κ × ω) Unit) (p : Pipeline κ ω) :
    Except Failure (Option PacketEvent) → Pipeline κ ω → Prop where
  | unpolled (missing : p.bridge.config? = none) :
      Stepped notify p (.error (.caused .bridgeNotStarted)) p
  | failed {e : Failure} {config : DeviceConfig} (stopping : Bool)
      (given : p.bridge.config? = some config) (polled : p.turn.outcome.answer = .error e)
      (fatal : e.mishap? = none) :
      Stepped notify p (.error e)
        ⟨{ p.bridge with stopping }, p.turn.outcome.world.1, p.turn.outcome.world.2⟩
  | survived {e : Failure} {config : DeviceConfig} {mishap : Mishap} (stopping : Bool)
      (given : p.bridge.config? = some config) (polled : p.turn.outcome.answer = .error e)
      (survivable : e.mishap? = some mishap) :
      Stepped notify p (.ok none)
        ⟨{ p.bridge with stopping }.counting mishap, p.turn.outcome.world.1,
          p.turn.outcome.world.2⟩
  | delivered {event : PacketEvent} {config : DeviceConfig} (stopping : Bool) (callbacks : List κ)
      (w : ω) (given : p.bridge.config? = some config) (polled : p.turn.outcome.answer = .ok event)
      (told : Told notify event p.bridge.callbacks p.turn.outcome.world.2 w) :
      Stepped notify p (.ok (some event))
        ⟨{ p.bridge.delivering event with stopping, callbacks }, p.turn.outcome.world.1, w⟩

theorem step_stepped (notify : κ → PacketEvent → Act (List κ × ω) Unit) (p : Pipeline κ ω) :
    Stepped notify p (Act.run (step notify) p).answer (Act.run (step notify) p).world := by
  cases given : p.bridge.config? with
  | none =>
      rw [step_unpolled given]
      exact .unpolled given
  | some config =>
      obtain ⟨notes, stopping, ran⟩ := turn_polled given
      cases polled : p.turn.outcome.answer with
      | error e =>
          rw [polled] at ran
          obtain ⟨more, survived⟩ := survive_run (b := { p.bridge with stopping })
            (s := p.turn.outcome.world.1) (w := p.turn.outcome.world.2) e
          rw [step_error given ran, survived]
          cases survivable : e.mishap? with
          | none => exact .failed stopping given polled survivable
          | some mishap => exact .survived stopping given polled survivable
      | ok event =>
          rw [polled] at ran
          obtain ⟨more, asked, callbacks, w, dispatched, told⟩ := dispatch_run notify event
            p.bridge.callbacks ({ p.bridge with stopping }.delivering event)
            p.turn.outcome.world.1 p.turn.outcome.world.2
          rw [step_ok given ran, run_bind_ok dispatched]
          exact .delivered asked callbacks w given polled told

/-- From `p` to `q` the counts of polls have only grown, by one in all or not at all, and what is
    not a count is as it was. -/
structure Grown (p q : Pipeline κ ω) : Prop where
  packets : p.bridge.packets ≤ q.bridge.packets
  idlePolls : p.bridge.idlePolls ≤ q.bridge.idlePolls
  ignoredReports : p.bridge.ignoredReports ≤ q.bridge.ignoredReports
  total : q.bridge.packets + q.bridge.idlePolls + q.bridge.ignoredReports ≤
    p.bridge.packets + p.bridge.idlePolls + p.bridge.ignoredReports + 1
  config : q.bridge.config? = p.bridge.config?
  base : q.bridge.discontinuityBase = p.bridge.discontinuityBase

theorem Stepped.grown {p q : Pipeline κ ω} {answer : Except Failure (Option PacketEvent)}
    (stepped : Stepped notify p answer q) : Grown p q := by
  have same (stopping : Bool) (s : Session ω) (w : ω) :
      Grown p ⟨{ p.bridge with stopping }, s, w⟩ :=
    ⟨Nat.le_refl _, Nat.le_refl _, Nat.le_refl _, Nat.le_succ _, rfl, rfl⟩
  cases stepped with
  | unpolled => exact same p.bridge.stopping p.session p.world
  | failed stopping => exact same stopping _ _
  | @survived _ _ mishap =>
      cases mishap with
      | idle =>
          exact ⟨Nat.le_refl _, Nat.le_succ _, Nat.le_refl _,
            by simp only [Bridge.counting]; omega, rfl, rfl⟩
      | ignored =>
          exact ⟨Nat.le_refl _, Nat.le_refl _, Nat.le_succ _,
            by simp only [Bridge.counting]; omega, rfl, rfl⟩
      | undelivered =>
          exact ⟨Nat.le_succ _, Nat.le_refl _, Nat.le_refl _,
            by simp only [Bridge.counting]; omega, rfl, rfl⟩
  | delivered =>
      exact ⟨Nat.le_succ _, Nat.le_refl _, Nat.le_refl _,
        by simp only [Bridge.delivering]; omega, rfl, rfl⟩

end Pipeline

end ChunkRelay
