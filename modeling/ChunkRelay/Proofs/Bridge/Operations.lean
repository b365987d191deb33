import ChunkRelay.Bridge
import ChunkRelay.Proofs.Session.Operations

/-! # What a bridge does

Starting, one step, and the loop around it, in terms of what the session does. Stop requests come
from outside; notes that hold none leave the bridge as it is.
-/

namespace ChunkRelay

namespace Failure

/-- A failed delivery is nothing else that a bridge could survive. -/
theorem deliveryFailed_only {e : Failure} (failed : e.isClass .deliveryFailed = true) :
    e.isClass .transportTimeout = false ∧ e.isClass .wrongReport = false ∧
      e.isClass .malformedReport = false := by
  simp only [isClass] at failed ⊢
  cases own : e.errorClass? with
  | none =>
      rw [own] at failed
      cases failed
  | some c =>
      rw [own] at failed
      cases c with
      | deliveryFailed => exact ⟨rfl, rfl, rfl⟩
      | _ => cases failed

end Failure

namespace Bridge

variable {κ : Type} {b : Bridge κ}

/-- The bridge after a packet that was delivered. -/
def delivering (event : PacketEvent) (b : Bridge κ) : Bridge κ :=
  { b with packets := b.packets + 1, bytes := b.bytes + event.packet.payload.length }

theorem heed_unasked {notes : List Note} (unasked : Note.stopRequest ∉ notes) :
    b.heed notes = b := by
  rw [heed, if_neg (by simpa using unasked)]

theorem heed_stopping (b : Bridge κ) (notes : List Note) :
    ∃ stopping, b.heed notes = { b with stopping } := by
  rw [heed]
  split
  · exact ⟨true, rfl⟩
  · exact ⟨b.stopping, rfl⟩

theorem requireConfig_some {config : DeviceConfig} (given : b.config? = some config) :
    b.requireConfig = .ok config := by
  simp only [requireConfig, given]

end Bridge

namespace Pipeline

open Act

variable {κ ω α : Type} {b : Bridge κ} {s s' : Session ω} {w w' : ω} {notes : List Note}

@[simp] theorem run_update (f : Bridge κ → Bridge κ) :
    Act.run (update f) (⟨b, s, w⟩ : Pipeline κ ω) = ⟨.ok (), [], ⟨f b, s, w⟩⟩ := rfl

theorem run_viaSession (x : Act (Session ω × ω) α) :
    Act.run (viaSession x) (⟨b, s, w⟩ : Pipeline κ ω) =
      ⟨(Act.run x (s, w)).answer, (Act.run x (s, w)).notes,
        ⟨b.heed (Act.run x (s, w)).notes, (Act.run x (s, w)).world.1,
          (Act.run x (s, w)).world.2⟩⟩ := rfl

theorem viaSession_unasked {x : Act (Session ω × ω) α} {answer : Except Failure α}
    (ran : Act.run x (s, w) = ⟨answer, notes, (s', w')⟩) (unasked : Note.stopRequest ∉ notes) :
    Act.run (viaSession x) (⟨b, s, w⟩ : Pipeline κ ω) = ⟨answer, notes, ⟨b, s', w'⟩⟩ := by
  rw [run_viaSession, ran, Bridge.heed_unasked unasked]

/-- The bridge after a start that read the given configuration. -/
def started (config : DeviceConfig) (tracker : Tracker) (b : Bridge κ) : Bridge κ :=
  { b with
    stopping := false
    discontinuityBase := tracker.discontinuities
    config? := some config }

theorem start_ok {config : DeviceConfig} {more : List Note} {w'' : ω}
    (read : Act.run Session.readConfig (s, w) = ⟨.ok config, notes, (s, w')⟩)
    (enabled : Act.run Session.enable (s, w') = ⟨.ok (), more, (s', w'')⟩)
    (unasked : Note.stopRequest ∉ notes ∧ Note.stopRequest ∉ more) :
    ∃ record, Act.run start (⟨b, s, w⟩ : Pipeline κ ω) =
      ⟨.ok config, notes ++ (more ++ [.log record]), ⟨started config s.tracker b, s', w''⟩⟩ := by
  apply Exists.intro
  rw [start, run_bind_ok (run_modify _ _), run_bind_ok (viaSession_unasked read unasked.1),
    run_bind_ok (run_update _), run_bind_ok (viaSession_unasked enabled unasked.2)]
  rfl

/-! ## Steps -/

variable {notify : κ → PacketEvent → Act (List κ × ω) Unit} {config : DeviceConfig}
  {event : PacketEvent} {e : Failure} {p p' : Pipeline κ ω}

theorem step_unpolled (missing : p.bridge.config? = none) :
    Act.run (step notify) p = ⟨.error (.caused .bridgeNotStarted), [], p⟩ := by
  rw [step, run_bind_ok (run_get p)]
  dsimp only
  rw [Bridge.requireConfig, missing, run_bind_error (run_ofCause_error _)]
  rfl

theorem step_error (given : p.bridge.config? = some config)
    (polled : Act.run (viaSession (Session.process (some config) p.bridge.readTimeoutMs)) p =
      ⟨.error e, notes, p'⟩) :
    Act.run (step notify) p = (Act.run (survive e) p').after notes := by
  rw [step, run_bind_ok (run_get p)]
  dsimp only
  rw [Bridge.requireConfig_some given, run_bind_ok (run_ofCause_ok _),
    run_bind_ok (run_attempt _), polled]
  rfl

theorem step_ok (given : p.bridge.config? = some config)
    (polled : Act.run (viaSession (Session.process (some config) p.bridge.readTimeoutMs)) p =
      ⟨.ok event, notes, p'⟩) :
    Act.run (step notify) p =
      (Act.run (dispatch notify event p'.bridge.callbacks >>= fun _ => pure (some event))
        { p' with bridge := p'.bridge.delivering event }).after notes := by
  rw [step, run_bind_ok (run_get p)]
  dsimp only
  rw [Bridge.requireConfig_some given, run_bind_ok (run_ofCause_ok _),
    run_bind_ok (run_attempt _), polled]
  rfl

/-- A delivery that has failed is counted, whatever its status. -/
theorem survive_undelivered (failed : e.isClass .deliveryFailed = true) :
    ∃ notes, Act.run (survive e) (⟨b, s, w⟩ : Pipeline κ ω) = ⟨.ok none, notes,
      ⟨{ b with
          deliveryFailures := b.deliveryFailures + 1
          packets := b.packets + 1 }, s, w⟩⟩ := by
  obtain ⟨timeout, wrong, malformed⟩ := Failure.deliveryFailed_only failed
  have counted := run_update (s := s) (w := w) (b := b) fun b : Bridge κ =>
    { b with deliveryFailures := b.deliveryFailures + 1, packets := b.packets + 1 }
  simp only [survive, timeout, wrong, malformed, failed, Bool.false_eq_true, if_false, Bool.or_self,
    if_true]
  rw [run_bind_ok counted, run_bind_ok (run_logNumber _ _ _ _)]
  exact ⟨_, rfl⟩

variable (notify)

/-- A step whose packet is delivered while nobody has subscribed. -/
theorem step_delivered (given : b.config? = some config) (unwatched : b.callbacks = [])
    (processed : Act.run (Session.process (some config) b.readTimeoutMs) (s, w) =
      ⟨.ok event, notes, (s', w')⟩)
    (unasked : Note.stopRequest ∉ notes) :
    Act.run (step notify) ⟨b, s, w⟩ = ⟨.ok (some event), notes,
      ⟨{ b with
          packets := b.packets + 1
          bytes := b.bytes + event.packet.payload.length }, s', w'⟩⟩ := by
  rw [step_ok given (viaSession_unasked processed unasked)]
  simp [unwatched, dispatch, Bridge.delivering]

/-- A step whose packet is taken in but not delivered. -/
theorem step_undelivered (given : b.config? = some config)
    (processed : Act.run (Session.process (some config) b.readTimeoutMs) (s, w) =
      ⟨.error e, notes, (s', w')⟩)
    (failed : e.isClass .deliveryFailed = true) (unasked : Note.stopRequest ∉ notes) :
    ∃ notes, Act.run (step notify) ⟨b, s, w⟩ = ⟨.ok none, notes,
      ⟨{ b with
          deliveryFailures := b.deliveryFailures + 1
          packets := b.packets + 1 }, s', w'⟩⟩ := by
  obtain ⟨more, survived⟩ := survive_undelivered failed (b := b) (s := s') (w := w')
  rw [step_error given (viaSession_unasked processed unasked), survived]
  exact ⟨_, rfl⟩

/-! ## Runs -/

variable {notify} {clock : Act ω Rat} {limits : RunLimits} {began : Rat}

theorem pump_over (rounds : Nat)
    (reached : Act.run (isOver clock limits began) p = ⟨.ok true, [], p'⟩) :
    Act.run (pump clock notify limits began (rounds + 1)) p =
      ⟨.ok (.finished p'.stats), [], p'⟩ := by
  rw [pump, run_bind_ok reached]
  rfl

theorem pump_on (rounds : Nat) {event? : Option PacketEvent} {q : Pipeline κ ω}
    (goesOn : Act.run (isOver clock limits began) p = ⟨.ok false, [], q⟩)
    (stepped : Act.run (step notify) q = ⟨.ok event?, notes, p'⟩) :
    Act.run (pump clock notify limits began (rounds + 1)) p =
      (Act.run (pump clock notify limits began rounds) p').after notes := by
  rw [pump, run_bind_ok goesOn]
  exact run_bind_ok stepped

theorem pump_failed (rounds : Nat) {q : Pipeline κ ω}
    (goesOn : Act.run (isOver clock limits began) p = ⟨.ok false, [], q⟩)
    (failed : Act.run (step notify) q = ⟨.error e, notes, p'⟩) :
    Act.run (pump clock notify limits began (rounds + 1)) p = ⟨.error e, notes, p'⟩ := by
  rw [pump, run_bind_ok goesOn]
  exact run_bind_error failed

/-- A limit on packets is reached by as many packets. -/
theorem isOver_packets (n : Nat) (unasked : p.bridge.stopping = false) :
    Act.run (isOver clock ⟨some (Limit.ofData (.int n)), none⟩ began) p =
      ⟨.ok (decide (n ≤ p.bridge.packets)), [], p⟩ := by
  have reached : (Limit.ofData (.int n)).isReached p.bridge.packets =
      .ok (decide (n ≤ p.bridge.packets)) := by
    change Except.ok (decide (((n : Int) : Rat) ≤ (p.bridge.packets : Rat))) = _
    simp only [Rat.intCast_natCast, Rat.natCast_le_natCast]
  rw [isOver, run_bind_ok (run_get p)]
  dsimp only
  rw [unasked, if_neg Bool.false_ne_true, Option.map_some, reached, reaches, pure_bind]
  cases decide (n ≤ p.bridge.packets) <;> rfl

end Pipeline

end ChunkRelay
