import ChunkRelay.Proofs.Bridge.Ending
import ChunkRelay.Proofs.Upkeep

/-! # What starts a bridge

A bridge works with the configuration that a start has read last. It takes it from the start as soon
as it is read: a start that goes on to fail, because the stream cannot be switched on, has started
the bridge all the same. Nothing but a start changes the configuration.
-/

namespace ChunkRelay.Pipeline

open Act

variable {κ ω Ω α : Type}

/-- The configuration that a start reads, if it can read one. -/
def offered (p : Pipeline κ Ω) : Option DeviceConfig :=
  (Act.run Session.readConfig (p.session, p.world)).answer.toOption

section Course

variable (part : Focus Ω ω) (notify : κ → PacketEvent → Act (List κ × Ω) Unit)

/-- The configuration that a move reads. -/
def Move.read? : Move κ ω → Pipeline κ Ω → Option DeviceConfig
  | start, p => p.offered
  | _, _ => none

/-- The configurations that moves read, the first one first. -/
def reads : Pipeline κ Ω → List (Move κ ω) → List DeviceConfig
  | _, [] => []
  | p, move :: moves =>
    (move.read? p).toList ++ reads (Act.run (move.act part notify) p).world moves

end Course

/-! ## One move -/

/-- The bridge has this configuration. -/
def Configured (config? : Option DeviceConfig) (p : Pipeline κ Ω) : Prop :=
  p.bridge.config? = config?

variable {config? : Option DeviceConfig} {notify : κ → PacketEvent → Act (List κ × Ω) Unit}

theorem viaSession_configured (x : Act (Session Ω × Ω) α) :
    Preserves (Configured (κ := κ) config?) (viaSession x) := by
  intro p same
  obtain ⟨stopping, heeded⟩ := p.bridge.heed_stopping (Act.run x (p.session, p.world)).notes
  change (p.bridge.heed (Act.run x (p.session, p.world)).notes).config? = config?
  rw [heeded]
  exact same

theorem start_config (p : Pipeline κ Ω) :
    (Act.run start p).world.bridge.config? = p.offered.or p.bridge.config? := by
  let begun : Pipeline κ Ω :=
    { p with
      bridge := { p.bridge with
        stopping := false
        discontinuityBase := p.session.tracker.discontinuities } }
  have kept := viaSession_configured Session.readConfig begun (rfl : Configured p.bridge.config? _)
  have offer : p.offered = (Act.run (viaSession Session.readConfig) begun).answer.toOption := rfl
  rw [offer, start, run_bind_ok (run_modify _ _)]
  change (Act.run _ begun).world.bridge.config? = _
  rcases read : Act.run (viaSession Session.readConfig) begun with ⟨e | config, notes, q⟩ <;>
    rw [read] at kept
  · rw [run_bind_error read]
    exact kept
  · rw [run_bind_ok read, Outcome.after_world, run_bind_ok (run_update _), Outcome.after_world]
    -- What was read is kept from here on, also if the stream cannot be switched on.
    refine Preserves.bind (P := Configured (some config)) (viaSession_configured _) ?_ _ rfl
    exact fun _ => (Preserves.log _ _ _).bind fun _ => .pure _

theorem step_configured : Preserves (Configured config?) (step notify) :=
  fun p same => (step_stepped notify p).grown.config.trans same

theorem viaWorld_upholds (clock : Act Ω Rat) :
    Upholds (fun _ => Configured (κ := κ) config?) (viaWorld clock) :=
  fun _ p same => viaSession_configured _ p same

theorem run_configured (clock : Act Ω Rat) (limits : RunLimits) (rounds : Nat) :
    Preserves (Configured config?) (run clock notify limits rounds) := by
  have stepped : Upholds (fun _ => Configured config?) (step notify) :=
    fun _ p same => step_configured p same
  exact run_upholds (viaWorld_upholds clock) stepped limits rounds []

theorem stop_configured : Preserves (Configured (κ := κ) (Ω := Ω) config?) stop := by
  refine Preserves.bind (fun _ same => same) fun _ => Preserves.get.bind fun p => ?_
  split
  · refine (viaSession_configured _).bind fun _ => ?_
    exact Preserves.get.bind fun _ => .log _ _ _
  · exact Preserves.get.bind fun _ => .log _ _ _

variable {part : Focus Ω ω}

/-- A move leaves behind the configuration that it reads and otherwise the one that it finds. -/
theorem move_config (move : Move κ ω) (p : Pipeline κ Ω) :
    (Act.run (move.act part notify) p).world.bridge.config? =
      (move.read? p).or p.bridge.config? := by
  cases move with
  | start =>
      rw [Move.act, run_discard]
      exact start_config p
  | step => exact step_configured.discard p rfl
  | run clock limits rounds => exact (run_configured _ limits rounds).discard p rfl
  | stop => exact stop_configured p rfl
  | leave => exact (stop_configured.tryCatch fun _ => .log _ _ _) p rfl
  | requestStop => rfl
  | subscribe change => rfl
  | meanwhile x => exact viaSession_configured _ p rfl

/-! ## Courses -/

theorem after_config (moves : List (Move κ ω)) (p : Pipeline κ Ω) :
    (after part notify p moves).bridge.config? =
      (reads part notify p moves).getLast?.or p.bridge.config? := by
  induction moves generalizing p with
  | nil => rfl
  | cons move moves ih =>
      let q := (Act.run (move.act part notify) p).world
      calc (after part notify p (move :: moves)).bridge.config?
        _ = (reads part notify q moves).getLast?.or q.bridge.config? := ih q
        _ = (reads part notify q moves).getLast?.or ((move.read? p).or p.bridge.config?) := by
          rw [move_config]
        _ = (reads part notify p (move :: moves)).getLast?.or p.bridge.config? := by
          have last : (move.read? p).toList.getLast? = move.read? p := by
            cases move.read? p <;> rfl
          rw [reads, List.getLast?_append, last, Option.or_assoc]

/-! ## Work -/

/-- What a step answers to what its poll has come to. -/
def settled : Except Failure PacketEvent → Except Failure (Option PacketEvent)
  | .ok event => .ok (some event)
  | .error e => if e.mishap?.isSome then .ok none else .error e

/-- The bridge works with this configuration: it has it, and a step comes to what processing a
    packet with it comes to. -/
structure Working (notify : κ → PacketEvent → Act (List κ × Ω) Unit) (config : DeviceConfig)
    (p : Pipeline κ Ω) : Prop where
  configured : Configured (some config) p
  step :
    let poll := Act.run (Session.process (some config) p.bridge.readTimeoutMs) (p.session, p.world)
    let o := Act.run (step notify) p
    o.answer = settled poll.answer ∧ o.world.session = poll.world.1

theorem Configured.working {p : Pipeline κ Ω} {config : DeviceConfig}
    (configured : Configured (some config) p) : Working notify config p := by
  refine ⟨configured, ?_⟩
  have stepped := step_stepped notify p
  rw [← (configured : p.bridge.config? = some config)]
  change _ = settled p.turn.outcome.answer ∧ _ = p.turn.outcome.world.1
  generalize Act.run (Pipeline.step notify) p = o at stepped ⊢
  obtain ⟨answer, notes, q⟩ := o
  cases stepped with
  | unpolled missing => cases missing.symm.trans configured
  | failed stopping given polled fatal =>
      rw [polled, settled, fatal]
      exact ⟨rfl, rfl⟩
  | survived stopping given polled survivable =>
      rw [polled, settled, survivable]
      exact ⟨rfl, rfl⟩
  | delivered stopping callbacks w given polled =>
      rw [polled]
      exact ⟨rfl, rfl⟩

/-- A loop takes all its steps with the configuration that it finds. -/
theorem pumped_configured (clock : Act Ω Rat) (limits : RunLimits) (began : Rat) (rounds : Nat)
    {p : Pipeline κ Ω} (same : Configured config? p) :
    ∀ r ∈ pumped notify clock limits began rounds p, Configured config? r := by
  induction rounds generalizing p with
  | zero => exact List.forall_mem_nil _
  | succ rounds ih =>
      have checked : Configured config? (Act.run (isOver clock limits began) p).world :=
        isOver_upholds (viaWorld_upholds clock) limits began [] p same
      rw [pumped]
      rcases ended : Act.run (isOver clock limits began) p with ⟨_ | _ | _, notes, p₁⟩ <;>
        rw [ended] at checked
      · exact List.forall_mem_nil _
      · have stepped : Configured config? (Act.run (Pipeline.step notify) p₁).world :=
          step_configured p₁ checked
        dsimp only
        rcases ran : Act.run (Pipeline.step notify) p₁ with ⟨_ | _, more, p₂⟩ <;>
          rw [ran] at stepped
        · exact List.forall_mem_singleton.mpr checked
        · exact List.forall_mem_cons.mpr ⟨checked, ih stepped⟩
      · exact List.forall_mem_nil _

theorem run_steps_configured (clock : Act ω Rat) (limits : RunLimits) (rounds : Nat)
    {p : Pipeline κ Ω} (same : Configured config? p) :
    ∀ r ∈ (Move.run clock limits rounds).steps part notify p, Configured config? r := by
  rw [Move.steps]
  have timed : Configured config? (Act.run (viaWorld (clock.within part)) p).world :=
    viaWorld_upholds _ [] p same
  cases p.bridge.config? with
  | none => exact List.forall_mem_nil _
  | some config =>
      rcases read : Act.run (viaWorld (clock.within part)) p with ⟨_ | began, notes, p₁⟩ <;>
        rw [read] at timed
      · exact List.forall_mem_nil _
      · exact pumped_configured _ limits began rounds timed

/-- Until a start has read the configuration to its end, steps and runs are refused and leave
    everything as it is. From then on every step works with what was read last, those of runs among
    them, also when that start failed to switch the stream on. -/
theorem works_once_read (part : Focus Ω ω) (notify : κ → PacketEvent → Act (List κ × Ω) Unit)
    (s : Session Ω) (timeoutMs : Int) (w : Ω) (moves : List (Move κ ω)) :
    let p : Pipeline κ Ω := ⟨.new timeoutMs, s, w⟩
    let q := after part notify p moves
    match (reads part notify p moves).getLast? with
    | none =>
      Act.run (step notify) q = ⟨.error (.caused .bridgeNotStarted), [], q⟩ ∧
        ∀ (clock : Act Ω Rat) (limits : RunLimits) (rounds : Nat),
          Act.run (run clock notify limits rounds) q =
            ⟨.error (.caused .bridgeNotStarted), [], q⟩
    | some config =>
      Working notify config q ∧
        ∀ (clock : Act Ω Rat) (limits : RunLimits) (rounds : Nat),
          Act.run (run clock notify limits rounds) q =
              Act.run (viaWorld clock >>= fun began => pump clock notify limits began rounds) q ∧
            ∀ r ∈ (Move.run clock limits rounds).steps .whole notify q,
              Working notify config r := by
  intro p q
  have known : q.bridge.config? = (reads part notify p moves).getLast? :=
    (after_config moves p).trans (Option.or_none ..)
  cases last : (reads part notify p moves).getLast? with
  | none =>
      have missing := known.trans last
      exact ⟨step_unpolled missing, fun _ _ _ => run_unstarted missing _⟩
  | some config =>
      have given : Configured (some config) q := known.trans last
      refine ⟨given.working, fun clock limits rounds => ⟨?_, fun r taken => ?_⟩⟩
      · rw [run, run_bind_ok (run_get q), Bridge.requireConfig_some given,
          run_bind_ok (run_ofCause_ok _)]
        rfl
      · exact (run_steps_configured clock limits rounds given r taken).working

/-- A silent device whose stream cannot be switched on. -/
def unheeding : Transport Unit :=
  { mute with
    readFeature := fun _ _ _ => pure [0, 0, 0, 0]
    writeOutput := fun id _ _ => failWith (.writeFailed id "stall") }

/-- A start fails over that device, yet the bridge takes an idle poll afterwards. -/
theorem failed_start_starts :
    let p : Pipeline Empty Unit := ⟨.new 0, .new (some unheeding) none, ()⟩
    let nobody (callback : Empty) (_ : PacketEvent) : Act (List Empty × Unit) Unit := callback.elim
    let q := after .whole nobody p [.start]
    (Act.run start p).answer.toOption = none ∧
      (Act.run (step nobody) q).answer = .ok none ∧
      q.bridge.idlePolls = 0 ∧ (Act.run (step nobody) q).world.bridge.idlePolls = 1 := by
  intro p nobody q
  have idle : (Act.run (step nobody) q).answer.toOption = some none := by decide +kernel
  refine ⟨rfl, ?_, rfl, by decide +kernel⟩
  rcases answered : (Act.run (step nobody) q).answer with e | event? <;> rw [answered] at idle
  · cases idle
  · cases idle
    rfl

end ChunkRelay.Pipeline
