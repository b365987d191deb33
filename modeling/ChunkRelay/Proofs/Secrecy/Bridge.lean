import ChunkRelay.Bridge
import ChunkRelay.Proofs.Secrecy.Session

/-! # Bridges that hold different secrets

Bridges mirror each other over sessions and callbacks that do. Of the configuration they show the
device's name and its uri, and where the secrets differ they hand them on to the session only.
-/

namespace ChunkRelay

variable {κ ω ω' α α' : Type}

/-- Bridges that differ in the secret of their configuration only. -/
def Bridge.SameMask (b b' : Bridge κ) : Prop :=
  ∃ config?, Option.Rel DeviceConfig.SameMask b.config? config? ∧ b' = { b with config? }

/-- Changes that leave the configuration alone and do not look at it. -/
def Bridge.Steady (f : Bridge κ → Bridge κ) : Prop :=
  ∀ b config?, f { b with config? } = { f b with config? }

namespace Bridge.SameMask

variable {b b' : Bridge κ}

theorem refl (b : Bridge κ) : b.SameMask b := by
  refine ⟨b.config?, ?_, rfl⟩
  cases b.config? with
  | none => exact .none
  | some config => exact .some ⟨config.authorization, .refl _, rfl⟩

theorem changed {f : Bridge κ → Bridge κ} (steady : Steady f) (same : b.SameMask b') :
    (f b).SameMask (f b') := by
  obtain ⟨config?, masked, rfl⟩ := same
  refine ⟨config?, ?_, steady b config?⟩
  have kept : (f b).config? = b.config? := by
    simpa using congrArg Bridge.config? (steady b b.config?)
  rw [kept]
  exact masked

theorem heed (same : b.SameMask b') {notes notes' : List Note} (equal : notes = notes') :
    (b.heed notes).SameMask (b'.heed notes') := by
  subst equal
  have steady : Steady (κ := κ) (·.heed notes) := by
    intro b config?
    simp only [Bridge.heed]
    split <;> rfl
  exact same.changed steady

theorem callbacks (same : b.SameMask b') : b.callbacks = b'.callbacks := by
  obtain ⟨config?, -, rfl⟩ := same
  rfl

theorem stats (same : b.SameMask b') (tracker : Tracker) : b.stats tracker = b'.stats tracker := by
  obtain ⟨config?, -, rfl⟩ := same
  rfl

end Bridge.SameMask

namespace Pipeline

open Act

structure Alongside (R : ω → ω' → Prop) (p : Pipeline κ ω) (p' : Pipeline κ ω') : Prop where
  bridge : p.bridge.SameMask p'.bridge
  session : p.session.Mirrors R p'.session
  world : R p.world p'.world

variable {R : ω → ω' → Prop} {A : α → α' → Prop}

theorem Alongside.stats {p : Pipeline κ ω} {p' : Pipeline κ ω'} (beside : Alongside R p p') :
    p.stats = p'.stats := by
  rw [Pipeline.stats, Pipeline.stats, beside.session.tracker, beside.bridge.stats]

theorem update_mirrors {f : Bridge κ → Bridge κ} (steady : Bridge.Steady f) :
    Mirrors (Alongside R) Eq (update f) (update f) :=
  .modify fun beside => { beside with bridge := beside.bridge.changed steady }

theorem viaSession_mirrors {x : Act (Session ω × ω) α} {y : Act (Session ω' × ω') α'}
    (inner : Mirrors (Session.Alongside R) A x y) :
    Mirrors (Alongside (κ := κ) R) A (viaSession x) (viaSession y) := by
  intro p p' beside
  obtain ⟨answer, notes, session, world⟩ := inner (p.session, p.world) (p'.session, p'.world)
    ⟨beside.session, beside.world⟩
  refine ⟨answer, notes, ?_, session, world⟩
  exact beside.bridge.heed notes

theorem viaWorld_mirrors {x : Act ω α} {y : Act ω' α'} (inner : Mirrors R A x y) :
    Mirrors (Alongside (κ := κ) R) A (viaWorld x) (viaWorld y) :=
  viaSession_mirrors (Session.outside_mirrors inner)

theorem viaCallbacks_mirrors {x : Act (List κ × ω) α} {y : Act (List κ × ω') α'}
    (inner : Mirrors (ChunkRelay.Alongside R) A x y) :
    Mirrors (Alongside R) A (viaCallbacks x) (viaCallbacks y) := by
  intro p p' beside
  obtain ⟨answer, notes, callbacks, world⟩ := inner (p.bridge.callbacks, p.world)
    (p'.bridge.callbacks, p'.world) ⟨beside.bridge.callbacks, beside.world⟩
  refine ⟨answer, notes, ?_, beside.session, world⟩
  refine Bridge.SameMask.heed ?_ notes
  have subscribed (left : List κ) :
      Bridge.SameMask { p.bridge with callbacks := left } { p'.bridge with callbacks := left } := by
    obtain ⟨config?, masked, same⟩ := beside.bridge
    exact ⟨config?, masked, by rw [same]⟩
  exact callbacks ▸ subscribed _

theorem requireConfig_mirrors {b b' : Bridge κ} (same : b.SameMask b') :
    Mirrors (Alongside (κ := κ) R) DeviceConfig.SameMask (ofCause b.requireConfig)
      (ofCause b'.requireConfig) := by
  obtain ⟨config?, masked, rfl⟩ := same
  rw [Bridge.requireConfig, Bridge.requireConfig]
  revert masked
  generalize b.config? = given?
  rintro (masked | _)
  · exact .pure masked
  · exact .refuse _

theorem start_mirrors :
    Mirrors (Alongside (κ := κ) R) DeviceConfig.SameMask start start := by
  refine Mirrors.andThen (.modify fun {p p'} beside => ?_) fun _ => ?_
  · obtain ⟨⟨config?, masked, same⟩, session, world⟩ := beside
    exact ⟨⟨config?, masked, by rw [same, session.tracker]⟩, session, world⟩
  · refine (viaSession_mirrors Session.readConfig_mirrors).bind fun {config config'} masked => ?_
    have noted : Mirrors (Alongside (κ := κ) R) Eq (update ({ · with config? := some config }))
        (update ({ · with config? := some config' })) := by
      refine .modify fun beside => { beside with bridge := ?_ }
      obtain ⟨config?, -, same⟩ := beside.bridge
      exact ⟨some config', .some masked, by rw [same]⟩
    refine noted.andThen fun _ => (viaSession_mirrors Session.enable_mirrors).andThen fun _ => ?_
    have identifier : config.identifier = config'.identifier := by
      obtain ⟨authorization, -, same⟩ := masked
      rw [same]
    rw [identifier]
    exact (Mirrors.log _ _ _).andThen fun _ => .pure masked

theorem stop_mirrors : Mirrors (Alongside (κ := κ) R) Eq stop stop := by
  refine (update_mirrors fun _ _ => rfl).andThen fun _ => Mirrors.get.bind fun beside => ?_
  rw [beside.session.streaming]
  refine .ite ((viaSession_mirrors Session.disable_mirrors).andThen fun _ => ?_) ?_
  all_goals
    refine Mirrors.get.bind fun beside => ?_
    rw [beside.stats]
    exact .log _ _ _

theorem leave_mirrors : Mirrors (Alongside (κ := κ) R) Eq leave leave :=
  stop_mirrors.tryCatch fun _ => .log _ _ _

theorem survive_mirrors {e e' : Failure} (same : e.Same e') :
    Mirrors (Alongside (κ := κ) R) Eq (survive e) (survive e') := by
  simp only [survive, same.isClass, same.message, same.status]
  refine .ite ((update_mirrors fun _ _ => rfl).andThen fun _ => .pure rfl) ?_
  refine .ite ?_ (.ite ?_ (.fail same))
  · exact (update_mirrors fun _ _ => rfl).andThen fun _ => (Mirrors.log _ _ _).andThen fun _ =>
      .pure rfl
  · exact (update_mirrors fun _ _ => rfl).andThen fun _ =>
      (Mirrors.logNumber _ _ _ _).andThen fun _ => .pure rfl

theorem reaches_mirrors (isReached? : Option (Except Defect Bool)) :
    Mirrors (Alongside (κ := κ) R) Eq (reaches isReached?) (reaches isReached?) := by
  rcases isReached? with _ | defect | isReached
  · exact .pure rfl
  · exact .refuse _
  · exact .pure rfl

section Runs

variable {clock : Act ω Rat} {clock' : Act ω' Rat}
  {notify : κ → PacketEvent → Act (List κ × ω) Unit}
  {notify' : κ → PacketEvent → Act (List κ × ω') Unit}

theorem isOver_mirrors (clocks : Mirrors R Eq clock clock') (limits : RunLimits) (began : Rat) :
    Mirrors (Alongside (κ := κ) R) Eq (isOver clock limits began) (isOver clock' limits began) := by
  refine Mirrors.get.bind fun {p p'} beside => ?_
  obtain ⟨config?, -, same⟩ := beside.bridge
  rw [same]
  refine .ite (.pure rfl) ((reaches_mirrors _).andThen fun _ => .ite (.pure rfl) ?_)
  cases limits.seconds? with
  | none => exact .pure rfl
  | some limit => exact (viaWorld_mirrors clocks).andThen fun _ => reaches_mirrors _

variable (notified : ∀ callback event,
  Mirrors (ChunkRelay.Alongside R) Eq (notify callback event) (notify' callback event))
include notified

theorem dispatch_mirrors (event : PacketEvent) (callbacks : List κ) :
    Mirrors (Alongside R) Eq (dispatch notify event callbacks)
      (dispatch notify' event callbacks) := by
  induction callbacks with
  | nil => exact .pure rfl
  | cons callback rest ih =>
      have told := viaCallbacks_mirrors (notified callback event)
      exact (told.tryCatch fun _ => .log _ _ _).andThen fun _ => ih

theorem step_mirrors : Mirrors (Alongside R) Eq (step notify) (step notify') := by
  refine Mirrors.get.bind fun {p p'} beside => ?_
  refine (requireConfig_mirrors beside.bridge).bind fun masked => ?_
  obtain ⟨config?, -, same⟩ := beside.bridge
  rw [same]
  have polled := viaSession_mirrors (κ := κ) (Session.process_mirrors (R := R) masked
    p.bridge.readTimeoutMs)
  refine polled.attempt.bind fun answers => ?_
  -- A malformed authorization fails in both polls; the failures then count, or end the run, alike.
  cases answers with
  | error same => exact survive_mirrors same
  | ok agree =>
      subst agree
      refine (update_mirrors fun _ _ => rfl).andThen fun _ => Mirrors.get.bind fun beside => ?_
      obtain ⟨config?, -, same⟩ := beside.bridge
      rw [same]
      exact (dispatch_mirrors notified _ _).andThen fun _ => .pure rfl

theorem pump_mirrors (clocks : Mirrors R Eq clock clock') (limits : RunLimits) (began : Rat)
    (rounds : Nat) :
    Mirrors (Alongside R) Eq (pump clock notify limits began rounds)
      (pump clock' notify' limits began rounds) := by
  induction rounds with
  | zero => exact .pure rfl
  | succ rounds ih =>
      refine (isOver_mirrors clocks limits began).andThen fun _ => .ite ?_ ?_
      · refine Mirrors.get.bind fun beside => .pure ?_
        rw [beside.stats]
      · exact (step_mirrors notified).andThen fun _ => ih

theorem run_mirrors (clocks : Mirrors R Eq clock clock') (limits : RunLimits) (rounds : Nat) :
    Mirrors (Alongside R) Eq (run clock notify limits rounds)
      (run clock' notify' limits rounds) := by
  refine Mirrors.get.bind fun beside => (requireConfig_mirrors beside.bridge).bind fun _ => ?_
  exact (viaWorld_mirrors clocks).andThen fun began => pump_mirrors notified clocks limits began _

end Runs

theorem alone_mirrors {x : Act (Pipeline κ ω) α} {y : Act (Pipeline κ ω') α'} (bridge : Bridge κ)
    {s : Session ω} {s' : Session ω'} (session : s.Mirrors R s')
    (inner : Mirrors (Alongside R) A x y) :
    Mirrors R A (alone bridge s x) (alone bridge s' y) := by
  intro w w' holds
  obtain ⟨answer, notes, beside⟩ := inner ⟨bridge, s, w⟩ ⟨bridge, s', w'⟩
    ⟨.refl bridge, session, holds⟩
  exact ⟨answer, notes, beside.world⟩

end Pipeline

end ChunkRelay
