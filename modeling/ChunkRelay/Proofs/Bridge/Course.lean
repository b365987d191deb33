import ChunkRelay.Proofs.Bridge.Operations

/-! # The course of a bridge

A bridge is started, stepped, run and stopped in any order, while callbacks come and go, stops are
requested and others change the world. Of such a course, the states in which steps are taken are
told one by one, those inside runs among them. What every step and every other move keeps of these
states and the state reached is kept by any course.
-/

namespace ChunkRelay

/-- The whole world as a part of itself. -/
def Focus.whole {ω : Type} : Focus ω ω where
  get w := w
  set w _ := w

namespace Pipeline

open Act

variable {κ ω Ω : Type}

/-- What can happen to a bridge. -/
inductive Move (κ ω : Type) where
  | start
  | step
  | run (clock : Act ω Rat) (limits : RunLimits) (rounds : Nat)
  | stop
  /-- The end of a course in which a failure to stop is only logged. -/
  | leave
  | requestStop
  /-- Callbacks are subscribed or cancelled. -/
  | subscribe (change : List κ → List κ)
  /-- Something else is done with the world. -/
  | meanwhile (x : Act ω Unit)

section Course

variable (part : Focus Ω ω) (notify : κ → PacketEvent → Act (List κ × Ω) Unit)

/-- A move of a bridge whose clock and neighbours work on a part of its world. -/
def Move.act : Move κ ω → Act (Pipeline κ Ω) Unit
  | start => discard Pipeline.start
  | step => discard (Pipeline.step notify)
  | run clock limits rounds => discard (Pipeline.run (clock.within part) notify limits rounds)
  | stop => Pipeline.stop
  | leave => Pipeline.leave
  | requestStop => update Bridge.requestStop
  | subscribe change => update fun b => { b with callbacks := change b.callbacks }
  | meanwhile x => viaWorld (x.within part)

/-- The states in which a loop takes its steps. -/
def pumped (clock : Act Ω Rat) (limits : RunLimits) (began : Rat) :
    Nat → Pipeline κ Ω → List (Pipeline κ Ω)
  | 0, _ => []
  | rounds + 1, p =>
    match Act.run (isOver clock limits began) p with
    | ⟨.ok false, _, p⟩ =>
      match Act.run (Pipeline.step notify) p with
      | ⟨.ok _, _, p'⟩ => p :: pumped clock limits began rounds p'
      | ⟨.error _, _, _⟩ => [p]
    | _ => []

/-- The states in which a move takes its steps. -/
def Move.steps : Move κ ω → Pipeline κ Ω → List (Pipeline κ Ω)
  | step, p => [p]
  | run clock limits rounds, p =>
    match p.bridge.config?, Act.run (viaWorld (clock.within part)) p with
    | some _, ⟨.ok began, _, p⟩ => pumped notify (clock.within part) limits began rounds p
    | _, _ => []
  | _, _ => []

/-- Where moves lead to. -/
def after (p : Pipeline κ Ω) (moves : List (Move κ ω)) : Pipeline κ Ω :=
  moves.foldl (fun p move => (Act.run (move.act part notify) p).world) p

/-- The states in which moves take their steps, the first one first. -/
def steps : Pipeline κ Ω → List (Move κ ω) → List (Pipeline κ Ω)
  | _, [] => []
  | p, move :: moves =>
    move.steps part notify p ++ steps (Act.run (move.act part notify) p).world moves

end Course

/-- What holds of a bridge whatever is done with it but a poll. -/
structure Quiet (P : Pipeline κ Ω → Prop) : Prop where
  bridge : ∀ {b s w} (stopping : Bool) (config? : Option DeviceConfig) (callbacks : List κ),
    P ⟨b, s, w⟩ → P ⟨{ b with stopping, config?, callbacks }, s, w⟩
  session : ∀ b, Session.Kept fun v => P ⟨b, v.1, v.2⟩

namespace Quiet

variable {P : Pipeline κ Ω → Prop} {b : Bridge κ} {s : Session Ω} {w : Ω}

theorem stopping (quiet : Quiet P) (stopping : Bool) (holds : P ⟨b, s, w⟩) :
    P ⟨{ b with stopping }, s, w⟩ := quiet.bridge stopping b.config? b.callbacks holds

theorem viaSession (quiet : Quiet P) {α : Type} {x : Act (Session Ω × Ω) α}
    (kept : ∀ b, Preserves (fun v => P ⟨b, v.1, v.2⟩) x) : Preserves P (viaSession x) := by
  intro p holds
  obtain ⟨stopping, heeded⟩ :=
    p.bridge.heed_stopping (Act.run x (p.session, p.world)).notes
  change P ⟨p.bridge.heed (Act.run x (p.session, p.world)).notes, _, _⟩
  rw [heeded]
  exact quiet.stopping stopping (kept p.bridge (p.session, p.world) holds)

theorem start (quiet : Quiet P)
    (rebased : P ⟨{ b with discontinuityBase := s.tracker.discontinuities }, s, w⟩) :
    P (Act.run start ⟨b, s, w⟩).world := by
  have begun := quiet.stopping false rebased
  rw [Pipeline.start, run_bind_ok (run_modify _ _)]
  refine Preserves.bind (quiet.viaSession fun b => (quiet.session b).readConfig) ?_ _ begun
  intro config
  have configured : Preserves P (update ({ · with config? := some config })) :=
    .modify fun p holds => quiet.bridge p.bridge.stopping (some config) p.bridge.callbacks holds
  refine configured.bind fun _ => ?_
  refine (quiet.viaSession fun b => (quiet.session b).enable).bind fun _ => ?_
  exact (Preserves.log _ _ _).bind fun _ => .pure _

theorem stop (quiet : Quiet P) : Preserves P stop := by
  have asked : Preserves P (update Bridge.requestStop) :=
    .modify fun _ holds => quiet.stopping true holds
  refine asked.bind fun _ => Preserves.get.bind fun p => ?_
  split
  · refine (quiet.viaSession fun b => (quiet.session b).disable).bind fun _ => ?_
    exact Preserves.get.bind fun _ => .log _ _ _
  · exact Preserves.get.bind fun _ => .log _ _ _

theorem leave (quiet : Quiet P) : Preserves P leave :=
  quiet.stop.tryCatch fun _ => .log _ _ _

end Quiet

/-- What holds of the steps taken and the state reached, whatever comes next. -/
structure Kept (part : Focus Ω ω) (notify : κ → PacketEvent → Act (List κ × Ω) Unit)
    (P : List (Pipeline κ Ω) → Pipeline κ Ω → Prop) : Prop where
  quiet : ∀ taken, Quiet (P taken)
  outside : ∀ {taken b s w} (x : ω), P taken ⟨b, s, w⟩ → P taken ⟨b, s, part.set x w⟩
  step : ∀ {taken p}, P taken p → P (taken ++ [p]) (Act.run (Pipeline.step notify) p).world

namespace Kept

variable {part : Focus Ω ω} {notify : κ → PacketEvent → Act (List κ × Ω) Unit}
  {P : List (Pipeline κ Ω) → Pipeline κ Ω → Prop} {taken : List (Pipeline κ Ω)}

theorem viaWorld (kept : Kept part notify P) {α : Type} (x : Act ω α) :
    Preserves (P taken) (viaWorld (x.within part)) :=
  (kept.quiet taken).viaSession fun _ _ holds => kept.outside _ holds

/-! ## Runs -/

theorem isOver (kept : Kept part notify P) (clock : Act ω Rat) (limits : RunLimits) (began : Rat) :
    Preserves (P taken) (isOver (clock.within part) limits began) := by
  have compared (isReached? : Option (Except Defect Bool)) :
      Preserves (P taken) (reaches isReached?) := by
    rcases isReached? with _ | _ | _
    · exact .pure _
    · exact .fail _
    · exact .pure _
  refine Preserves.get.bind fun p => ?_
  dsimp only
  split
  · exact .pure _
  · refine (compared _).bind fun isReached => ?_
    cases isReached with
    | true => exact .pure _
    | false =>
        cases limits.seconds? with
        | none => exact .pure _
        | some limit => exact (kept.viaWorld clock).bind fun _ => compared _

theorem pump (kept : Kept part notify P) (clock : Act ω Rat) (limits : RunLimits) (began : Rat)
    (rounds : Nat) {p : Pipeline κ Ω} (holds : P taken p) :
    P (taken ++ pumped notify (clock.within part) limits began rounds p)
      (Act.run (pump (clock.within part) notify limits began rounds) p).world := by
  -- The loop is followed round by round; the steps taken grow at their end, so `taken` varies.
  induction rounds generalizing taken p with
  | zero => simpa [pumped, Pipeline.pump] using holds
  | succ rounds ih =>
      have checked := kept.isOver clock limits began p holds
      rw [pumped, Pipeline.pump, run_bind]
      rcases ended : Act.run (Pipeline.isOver (clock.within part) limits began) p with
        ⟨_ | _ | _, notes, p₁⟩ <;> rw [ended] at checked
      · simpa using checked
      · have stepped := kept.step checked
        dsimp only
        rw [if_neg Bool.false_ne_true, run_bind]
        rcases ran : Act.run (Pipeline.step notify) p₁ with ⟨_ | _, more, p₂⟩ <;>
          rw [ran] at stepped
        · exact stepped
        · have later := ih stepped
          rw [List.append_assoc] at later
          exact later
      · simpa using checked

theorem run (kept : Kept part notify P) (clock : Act ω Rat) (limits : RunLimits) (rounds : Nat)
    {p : Pipeline κ Ω} (holds : P taken p) :
    P (taken ++ (Move.run clock limits rounds).steps part notify p)
      (Act.run (run (clock.within part) notify limits rounds) p).world := by
  rw [Pipeline.run, run_bind_ok (run_get p), Move.steps]
  cases configured : p.bridge.config? with
  | none =>
      rw [Bridge.requireConfig, configured, run_bind_error (run_ofCause_error _), List.append_nil]
      exact holds
  | some config =>
      have timed := kept.viaWorld clock p holds
      rw [Bridge.requireConfig_some configured, run_bind_ok (run_ofCause_ok _), run_bind]
      rcases read : Act.run (Pipeline.viaWorld (clock.within part)) p with
        ⟨_ | began, notes, p₁⟩ <;> rw [read] at timed
      · rw [List.append_nil]
        exact timed
      · exact kept.pump clock limits began rounds timed

/-! ## Courses -/

/-- A start moves the base of the discontinuities, so it needs a word of its own. -/
theorem move (kept : Kept part notify P) (move : Move κ ω)
    (rebased : move = .start → ∀ taken b s w, P taken ⟨b, s, w⟩ →
      P taken ⟨{ b with discontinuityBase := s.tracker.discontinuities }, s, w⟩)
    {p : Pipeline κ Ω} (holds : P taken p) :
    P (taken ++ move.steps part notify p) (Act.run (move.act part notify) p).world := by
  have still {q : Pipeline κ Ω} (holds : P taken q) : P (taken ++ []) q := by
    rw [List.append_nil]
    exact holds
  cases move with
  | start =>
      rw [Move.act, run_discard]
      exact still ((kept.quiet taken).start (rebased rfl taken _ _ _ holds))
  | step =>
      rw [Move.act, run_discard]
      exact kept.step holds
  | run clock limits rounds =>
      rw [Move.act, run_discard]
      exact kept.run clock limits rounds holds
  | stop => exact still ((kept.quiet taken).stop p holds)
  | leave => exact still ((kept.quiet taken).leave p holds)
  | requestStop => exact still ((kept.quiet taken).stopping true holds)
  | subscribe change =>
      exact still ((kept.quiet taken).bridge p.bridge.stopping p.bridge.config?
        (change p.bridge.callbacks) holds)
  | meanwhile x => exact still (kept.viaWorld x p holds)

theorem course (kept : Kept part notify P) (taken : List (Pipeline κ Ω))
    {moves : List (Move κ ω)}
    (rebased : .start ∈ moves → ∀ taken b s w, P taken ⟨b, s, w⟩ →
      P taken ⟨{ b with discontinuityBase := s.tracker.discontinuities }, s, w⟩)
    {p : Pipeline κ Ω} (holds : P taken p) :
    P (taken ++ steps part notify p moves) (after part notify p moves) := by
  induction moves generalizing taken p with
  | nil =>
      rw [steps, List.append_nil]
      exact holds
  | cons move moves ih =>
      have moved := kept.move move (fun start => rebased (start ▸ List.mem_cons_self)) holds
      have later := ih _ (fun start => rebased (List.mem_cons_of_mem move start)) moved
      rw [steps, ← List.append_assoc]
      exact later

end Kept

end Pipeline

end ChunkRelay
