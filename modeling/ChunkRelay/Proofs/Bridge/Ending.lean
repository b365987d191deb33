import ChunkRelay.Proofs.Bridge.Course
import ChunkRelay.Proofs.Bridge.Steps
import Mathlib.Data.Rat.Floor
import Mathlib.Tactic.Linarith

/-! # When a run ends

Before each step a run checks whether it is over: because a stop was requested, because enough
packets are counted or because its time is up. Steps are never cut short, and nothing but a reading
of the clock lies between them. A clock that moves on at each reading bounds the steps of a run
whose time is limited, whatever becomes of them.
-/

namespace ChunkRelay

/-- The first two of three parts. -/
def Focus.front {ρ σ τ : Type} : Focus (ρ × σ × τ) (ρ × σ) where
  get w := (w.1, w.2.1)
  set v w := (v.1, v.2, w.2.2)

/-- A clock that is on by the same time at each reading. -/
def ticking (d : Rat) : Act Rat Rat := fun now => ⟨.ok (now + d), [], now + d⟩

/-- Limits that are numbers. -/
def RunLimits.exact (packets? : Option Int) (seconds? : Option Rat) : RunLimits where
  maxPackets? := packets?.map fun n => .ofData (.int n)
  seconds? := seconds?.map fun t => .amount (.finite t)

namespace Pipeline

open Act

variable {κ ω α β : Type}

/-! ## Stop requests -/

/-- After the action the bridge is stopping exactly if it was before or has been requested to. -/
def Heeds (x : Act (Pipeline κ ω) α) : Prop :=
  ∀ p, (Act.run x p).world.bridge.stopping =
    (p.bridge.stopping || (Act.run x p).notes.contains .stopRequest)

namespace Heeds

variable {x : Act (Pipeline κ ω) α}

theorem pure (a : α) : Heeds (Pure.pure a : Act (Pipeline κ ω) α) :=
  fun _ => (Bool.or_false _).symm

theorem fail (e : Failure) : Heeds (fail e : Act (Pipeline κ ω) α) :=
  fun _ => (Bool.or_false _).symm

theorem get : Heeds (MonadState.get : Act (Pipeline κ ω) (Pipeline κ ω)) :=
  fun _ => (Bool.or_false _).symm

theorem log (level : Level) (source : Source) (message : String) :
    Heeds (log level source message : Act (Pipeline κ ω) Unit) :=
  fun _ => (Bool.or_false _).symm

theorem logNumber (level : Level) (source : Source) (n : Int) (message : String) :
    Heeds (logNumber level source n message : Act (Pipeline κ ω) Unit) := by
  rw [Act.logNumber]
  split
  · exact .log _ _ _
  · exact .pure ()

theorem ofCause (result : Except Cause α) : Heeds (ofCause result : Act (Pipeline κ ω) α) := by
  cases result with
  | error cause => exact .fail _
  | ok a => exact .pure a

theorem update {f : Bridge κ → Bridge κ} (kept : ∀ b, (f b).stopping = b.stopping) :
    Heeds (update f : Act (Pipeline κ ω) Unit) :=
  fun p => (kept p.bridge).trans (Bool.or_false _).symm

theorem bind {f : α → Act (Pipeline κ ω) β} (first : Heeds x) (then_ : ∀ a, Heeds (f a)) :
    Heeds (x >>= f) := by
  intro p
  have before := first p
  rcases ran : Act.run x p with ⟨_ | a, notes, p'⟩ <;> rw [ran] at before
  · rw [run_bind_error ran]
    exact before
  · rw [run_bind_ok ran, Outcome.after_world, Outcome.after_notes, then_ a p', before,
      List.contains_eq_any_beq, List.contains_eq_any_beq, List.contains_eq_any_beq, List.any_append,
      Bool.or_assoc]

theorem tryCatch {f : Failure → Act (Pipeline κ ω) α} (first : Heeds x)
    (handled : ∀ e, Heeds (f e)) : Heeds (tryCatch x f) := by
  intro p
  have before := first p
  rcases ran : Act.run x p with ⟨e | a, notes, p'⟩ <;> rw [ran] at before
  · rw [run_tryCatch_error ran, Outcome.after_world, Outcome.after_notes, handled e p', before,
      List.contains_eq_any_beq, List.contains_eq_any_beq, List.contains_eq_any_beq, List.any_append,
      Bool.or_assoc]
  · rw [run_tryCatch_ok ran]
    exact before

theorem attempt (first : Heeds x) : Heeds (attempt x) := first

end Heeds

theorem heed_requested (b : Bridge κ) (notes : List Note) :
    (b.heed notes).stopping = (b.stopping || notes.contains .stopRequest) := by
  rw [Bridge.heed]
  split
  · rename_i requested
    rw [requested, Bool.or_true]
    rfl
  · rename_i unasked
    rw [Bool.eq_false_of_not_eq_true unasked, Bool.or_false]

theorem viaSession_heeds (x : Act (Session ω × ω) α) :
    Heeds (viaSession x : Act (Pipeline κ ω) α) := fun p => heed_requested p.bridge _

theorem viaCallbacks_heeds (x : Act (List κ × ω) α) : Heeds (viaCallbacks x) :=
  fun p => heed_requested { p.bridge with callbacks := _ } _

theorem survive_heeds (e : Failure) : Heeds (survive e : Act (Pipeline κ ω) _) := by
  rw [survive]
  split
  · exact .bind (.update fun _ => rfl) fun _ => .pure _
  · split
    · exact .bind (.update fun _ => rfl) fun _ => (Heeds.log _ _ _).bind fun _ => .pure _
    · split
      · exact .bind (.update fun _ => rfl) fun _ => (Heeds.logNumber _ _ _ _).bind fun _ => .pure _
      · exact .fail e

theorem dispatch_heeds (notify : κ → PacketEvent → Act (List κ × ω) Unit) (event : PacketEvent)
    (callbacks : List κ) : Heeds (dispatch notify event callbacks) := by
  induction callbacks with
  | nil => exact .pure _
  | cons callback rest ih =>
      exact ((viaCallbacks_heeds _).tryCatch fun _ => .log _ _ _).bind fun _ => ih

theorem step_heeds (notify : κ → PacketEvent → Act (List κ × ω) Unit) : Heeds (step notify) := by
  refine Heeds.get.bind fun p => (Heeds.ofCause _).bind fun config => ?_
  refine (viaSession_heeds _).attempt.bind fun result => ?_
  cases result with
  | error e => exact survive_heeds e
  | ok event =>
      refine .bind (.update fun _ => rfl) fun _ => Heeds.get.bind fun _ => ?_
      exact (dispatch_heeds notify event _).bind fun _ => .pure _

/-! ## The clock -/

/-- A bridge beside a clock. -/
abbrev Timed (κ ω : Type) : Type := Pipeline κ (ω × Rat)

/-- Callbacks that have nothing to do with the clock. -/
def untimed (notify : κ → PacketEvent → Act (List κ × ω) Unit) (callback : κ)
    (event : PacketEvent) : Act (List κ × ω × Rat) Unit :=
  (notify callback event).within .front

/-- The session has nothing to do with the clock. -/
def Apart (p : Timed κ ω) : Prop := ∃ s : Session ω, p.session = s.within .fst

/-- Nothing but a reading of the clock lies between the two. -/
def Later (p q : Timed κ ω) : Prop := ∃ now, q = { p with world := (p.world.1, now) }

namespace Later

variable {p q r : Timed κ ω}

theorem refl (p : Timed κ ω) : Later p p := ⟨p.world.2, rfl⟩

theorem trans (first : Later p q) (second : Later q r) : Later p r := by
  obtain ⟨_, rfl⟩ := first
  obtain ⟨now, rfl⟩ := second
  exact ⟨now, rfl⟩

theorem bridge (later : Later p q) : q.bridge = p.bridge := by
  obtain ⟨_, rfl⟩ := later
  rfl

theorem apart (later : Later p q) (apart : Apart p) : Apart q := by
  obtain ⟨_, rfl⟩ := later
  exact apart

end Later

variable {notify : κ → PacketEvent → Act (List κ × ω) Unit} {p q r : Timed κ ω}

theorem told_untimed {event : PacketEvent} {callbacks : List κ} {v v' : ω × Rat}
    (told : Told (untimed notify) event callbacks v v') : v'.2 = v.2 := by
  induction callbacks generalizing v with
  | nil => exact congrArg Prod.snd told
  | cons callback rest ih =>
      obtain ⟨_, later⟩ := told
      exact (ih later).trans rfl

theorem Stepped.untimed {answer : Except Failure (Option PacketEvent)}
    (stepped : Stepped (untimed notify) p answer q) (apart : Apart p) :
    Apart q ∧ q.world.2 = p.world.2 := by
  have polled : Apart ⟨p.bridge, p.turn.outcome.world.1, p.turn.outcome.world.2⟩ ∧
      p.turn.outcome.world.2.2 = p.world.2 :=
    Session.process_within p.bridge.config? p.bridge.readTimeoutMs
      (P := fun v : ω × Rat => v.2 = p.world.2) (fun _ _ same => same) (p.session, p.world)
      ⟨apart, rfl⟩
  cases stepped with
  | unpolled => exact ⟨apart, rfl⟩
  | failed => exact polled
  | survived => exact polled
  | delivered _ _ _ _ _ told => exact ⟨polled.1, (told_untimed told).trans polled.2⟩

/-! ## The check before a step -/

section Check

variable {clock : Act ω Rat} {limits : RunLimits} {began : Rat} {p : Pipeline κ ω}

theorem isOver_stopping (stopping : p.bridge.stopping = true) :
    Act.run (isOver clock limits began) p = ⟨.ok true, [], p⟩ := by
  rw [isOver, run_bind_ok (run_get p)]
  dsimp only
  rw [if_pos stopping]
  rfl

theorem isOver_unasked {full : Bool} (unasked : p.bridge.stopping = false)
    (reached : Act.run (reaches (limits.maxPackets?.map (·.isReached p.bridge.packets))) p =
      ⟨.ok full, [], p⟩) :
    Act.run (isOver clock limits began) p =
      if full then ⟨.ok true, [], p⟩
      else match limits.seconds? with
        | none => ⟨.ok false, [], p⟩
        | some limit => Act.run (viaWorld clock >>= fun now =>
            reaches (some (limit.isReached (now - began)))) p := by
  rw [isOver, run_bind_ok (run_get p)]
  dsimp only
  rw [unasked, if_neg Bool.false_ne_true, run_bind_ok reached]
  cases full with
  | true => rfl
  | false =>
      rw [if_neg Bool.false_ne_true, if_neg Bool.false_ne_true]
      cases limits.seconds? <;> rfl

end Check

section Exact

variable (packets? : Option Int) (seconds? : Option Rat) (began : Rat)

/-- Nothing stands against another step. -/
structure Due (q : Timed κ ω) : Prop where
  unasked : q.bridge.stopping = false
  room : ∀ n ∈ packets?, (q.bridge.packets : Int) < n
  time : ∀ t ∈ seconds?, q.world.2 - began < t

/-- A stop has been requested, there are enough packets or the time is up. -/
def Over (q : Timed κ ω) : Prop :=
  q.bridge.stopping = true ∨ (∃ n ∈ packets?, n ≤ (q.bridge.packets : Int)) ∨
    ∃ t ∈ seconds?, t ≤ q.world.2 - began

theorem reaches_packets (p : Timed κ ω) :
    Act.run (reaches ((RunLimits.exact packets? seconds?).maxPackets?.map
      (·.isReached p.bridge.packets))) p =
      ⟨.ok (packets?.any fun n => n ≤ (p.bridge.packets : Int)), [], p⟩ := by
  cases packets? with
  | none => rfl
  | some n =>
      have reached : (Limit.ofData (.int n)).isReached p.bridge.packets =
          .ok (decide (n ≤ (p.bridge.packets : Int))) := by
        change Except.ok (decide ((n : Rat) ≤ (p.bridge.packets : Rat))) = _
        simp only [← Rat.intCast_natCast, Rat.intCast_le_intCast]
      rw [RunLimits.exact, Option.map_some, Option.map_some, reached]
      rfl

theorem isOver_cases (d : Rat) (p : Timed κ ω) :
    let check := isOver ((ticking d).within .snd) (.exact packets? seconds?) began
    (∃ q, Act.run check p = ⟨.ok true, [], q⟩ ∧ Later p q ∧ Over packets? seconds? began q) ∨
    ∃ q, Act.run check p = ⟨.ok false, [], q⟩ ∧ Later p q ∧ Due packets? seconds? began q ∧
      ∀ t ∈ seconds?, q.world.2 = p.world.2 + d := by
  intro check
  cases stopping : p.bridge.stopping with
  | true => exact Or.inl ⟨p, isOver_stopping stopping, .refl p, Or.inl stopping⟩
  | false =>
      have checked : Act.run check p = _ :=
        isOver_unasked stopping (reaches_packets packets? seconds? p)
      cases full : packets?.any fun n => n ≤ (p.bridge.packets : Int) with
      | true =>
          rw [full] at checked
          obtain ⟨n, given, reached⟩ := (Option.any_eq_true _ _).mp full
          exact Or.inl ⟨p, checked, .refl p, Or.inr (Or.inl ⟨n, given, of_decide_eq_true reached⟩)⟩
      | false =>
          rw [full] at checked
          have room : ∀ n ∈ packets?, (p.bridge.packets : Int) < n := by
            intro n given
            rw [given] at full
            simpa using full
          cases seconds? with
          | none => exact Or.inr ⟨p, checked, .refl p, ⟨stopping, room, nofun⟩, nofun⟩
          | some t =>
              let q : Timed κ ω := { p with world := (p.world.1, p.world.2 + d) }
              have checked : Act.run check p = ⟨.ok (decide (t ≤ q.world.2 - began)), [], q⟩ := by
                rw [checked]
                rfl
              by_cases late : t ≤ q.world.2 - began
              · rw [decide_eq_true late] at checked
                exact Or.inl ⟨q, checked, ⟨_, rfl⟩, Or.inr (Or.inr ⟨t, rfl, late⟩)⟩
              · rw [decide_eq_false late] at checked
                refine Or.inr ⟨q, checked, ⟨_, rfl⟩, ⟨stopping, room, ?_⟩, fun _ _ => rfl⟩
                rintro _ ⟨⟩
                exact lt_of_not_ge late

end Exact

/-! ## Runs -/

/-- From `p` the given steps are taken one after another, each of them to its end, and lead to `r`.
    Between them the clock is read and nothing else is done. -/
def Legs (notify : κ → PacketEvent → Act (List κ × ω × Rat) Unit) :
    Timed κ ω → List (Timed κ ω) → Timed κ ω → Prop
  | p, [], r => Later p r
  | p, q :: taken, r => Later p q ∧ Legs notify (Act.run (step notify) q).world taken r

theorem Legs.after {notify : κ → PacketEvent → Act (List κ × ω × Rat) Unit} {p q r : Timed κ ω}
    {taken : List (Timed κ ω)} (legs : Legs notify q taken r) (later : Later p q) :
    Legs notify p taken r := by
  cases taken with
  | nil => exact later.trans legs
  | cons first rest => exact ⟨later.trans legs.1, legs.2⟩

/-- How a loop goes from `p` to `r`. -/
structure Ran (notify : κ → PacketEvent → Act (List κ × ω × Rat) Unit) (packets? : Option Int)
    (seconds? : Option Rat) (d began : Rat) (rounds : Nat) (p : Timed κ ω)
    (taken : List (Timed κ ω)) (answer : Except Failure RunResult) (r : Timed κ ω) : Prop where
  legs : Legs notify p taken r
  due : ∀ q ∈ taken, Due packets? seconds? began q
  /-- Each step takes its time. -/
  time : ∀ t ∈ seconds?, taken ≠ [] → p.world.2 - began + taken.length * d < t
  finished : ∀ stats, answer = .ok (.finished stats) →
    stats = r.stats ∧ Over packets? seconds? began r
  failed : ∀ e, answer = .error e →
    ∃ q, taken.getLast? = some q ∧ (Act.run (step notify) q).answer = .error e
  unfinished : answer = .ok .unfinished → taken.length = rounds

namespace Ran

variable {notify : κ → PacketEvent → Act (List κ × ω × Rat) Unit} {packets? : Option Int}
  {seconds? : Option Rat} {d began : Rat} {rounds : Nat} {p q q' r : Timed κ ω}
  {taken : List (Timed κ ω)} {answer : Except Failure RunResult} {notes : List Note}

theorem finish (later : Later p r) (ended : Over packets? seconds? began r) :
    Ran notify packets? seconds? d began rounds p [] (.ok (.finished r.stats)) r := by
  refine ⟨later, List.forall_mem_nil _, nofun, ?_, nofun, nofun⟩
  rintro _ ⟨⟩
  exact ⟨rfl, ended⟩

theorem failure {e : Failure} (later : Later p q) (due : Due packets? seconds? began q)
    (time : ∀ t ∈ seconds?, q.world.2 = p.world.2 + d)
    (failed : Act.run (step notify) q = ⟨.error e, notes, r⟩) :
    Ran notify packets? seconds? d began rounds p [q] (.error e) r := by
  refine ⟨⟨later, ?_⟩, List.forall_mem_singleton.mpr due, ?_, nofun, ?_, nofun⟩
  · rw [failed]
    exact Later.refl r
  · intro t given _
    have left := due.time t given
    rw [time t given] at left
    rw [List.length_singleton, Nat.cast_one]
    linarith only [left]
  · rintro _ ⟨⟩
    exact ⟨q, rfl, by rw [failed]⟩

theorem step {event? : Option PacketEvent} (later : Later p q)
    (due : Due packets? seconds? began q) (time : ∀ t ∈ seconds?, q.world.2 = p.world.2 + d)
    (stepped : Act.run (step notify) q = ⟨.ok event?, notes, q'⟩)
    (same : q'.world.2 = q.world.2)
    (rest : Ran notify packets? seconds? d began rounds q' taken answer r) :
    Ran notify packets? seconds? d began (rounds + 1) p (q :: taken) answer r where
  legs := by
    refine ⟨later, ?_⟩
    rw [stepped]
    exact rest.legs
  due := List.forall_mem_cons.mpr ⟨due, rest.due⟩
  time t given _ := by
    rw [List.length_cons, Nat.cast_add_one]
    cases taken with
    | nil =>
        have left := due.time t given
        rw [time t given] at left
        rw [List.length_nil, Nat.cast_zero]
        linarith only [left]
    | cons first taken =>
        have left := rest.time t given (List.cons_ne_nil _ _)
        rw [same, time t given] at left
        linarith only [left]
  finished := rest.finished
  failed e failed := by
    obtain ⟨last, isLast, did⟩ := rest.failed e failed
    exact ⟨last, by rw [List.getLast?_cons, isLast]; rfl, did⟩
  unfinished ongoing := congrArg (· + 1) (rest.unfinished ongoing)

end Ran

theorem pump_ran (notify : κ → PacketEvent → Act (List κ × ω) Unit) (packets? : Option Int)
    (seconds? : Option Rat) (d began : Rat) (rounds : Nat) {p : Timed κ ω} (apart : Apart p) :
    let clock : Act (ω × Rat) Rat := (ticking d).within .snd
    let limits := RunLimits.exact packets? seconds?
    let o := Act.run (pump clock (untimed notify) limits began rounds) p
    Ran (untimed notify) packets? seconds? d began rounds p
      (pumped (untimed notify) clock limits began rounds p) o.answer o.world := by
  intro clock limits o
  induction rounds generalizing p with
  | zero => exact ⟨.refl p, List.forall_mem_nil _, nofun, nofun, nofun, fun _ => rfl⟩
  | succ rounds ih =>
      rcases isOver_cases packets? seconds? began d p with
        ⟨q, checked, later, reached⟩ | ⟨q, checked, later, due, time⟩
      · have ended : o = _ := pump_over rounds checked
        rw [ended, pumped, checked]
        exact .finish later reached
      · have stepped := step_stepped (untimed notify) q
        rw [pumped, checked]
        rcases ran : Act.run (Pipeline.step (untimed notify)) q with ⟨e | event?, notes, q'⟩ <;>
          rw [ran] at stepped <;> simp only [ran]
        · have ended : o = _ := pump_failed rounds checked ran
          rw [ended]
          exact .failure later due time ran
        · have ended : o = _ := pump_on rounds checked ran
          rw [ended]
          obtain ⟨apart', same⟩ := stepped.untimed (later.apart apart)
          exact .step later due time ran same (ih apart')

/-- A loop that has come to its end is the same whatever number of rounds is granted beyond. -/
theorem pump_more {clock : Act ω Rat} {notify : κ → PacketEvent → Act (List κ × ω) Unit}
    {limits : RunLimits} {began : Rat} {rounds : Nat} {p : Pipeline κ ω}
    (ended : (Act.run (pump clock notify limits began rounds) p).answer ≠ .ok .unfinished)
    (more : Nat) :
    Act.run (pump clock notify limits began (rounds + more)) p =
      Act.run (pump clock notify limits began rounds) p := by
  induction rounds generalizing p with
  | zero => exact absurd rfl ended
  | succ rounds ih =>
      rw [Nat.add_right_comm]
      rcases checked : Act.run (isOver clock limits began) p with ⟨e | isOver, notes, q⟩
      · rw [pump, pump, run_bind_error checked, run_bind_error checked]
      · rw [pump, run_bind_ok checked] at ended
        rw [pump, pump, run_bind_ok checked, run_bind_ok checked]
        refine congrArg (Outcome.after · notes) ?_
        cases isOver with
        | true => rfl
        | false =>
            rcases stepped : Act.run (step notify) q with ⟨e | event?, notes', q'⟩
            · exact (run_bind_error stepped).trans (run_bind_error stepped).symm
            · have later : Act.run (step notify >>= fun _ =>
                  pump clock notify limits began rounds) q = _ := run_bind_ok stepped
              rw [if_neg Bool.false_ne_true, later] at ended
              rw [if_neg Bool.false_ne_true, if_neg Bool.false_ne_true, later]
              exact (run_bind_ok stepped).trans (congrArg (Outcome.after · notes') (ih ended))

namespace Legs

variable {notify : κ → PacketEvent → Act (List κ × ω × Rat) Unit} {p r : Timed κ ω}
  {taken : List (Timed κ ω)}

theorem packets (legs : Legs notify p taken r) {n : Int}
    (room : ∀ q ∈ taken, (q.bridge.packets : Int) < n) :
    (r.bridge.packets : Int) ≤ max (p.bridge.packets : Int) n := by
  induction taken generalizing p with
  | nil =>
      rw [Later.bridge legs]
      exact le_max_left _ _
  | cons q taken ih =>
      obtain ⟨_, legs⟩ := legs
      have fits := room q List.mem_cons_self
      obtain ⟨_, idle, ignored, total, _, _⟩ := (step_stepped notify q).grown
      have left := ih legs fun q' later => room q' (List.mem_cons_of_mem q later)
      omega

theorem unasked (legs : Legs notify p taken r) (free : ∀ q ∈ taken, q.bridge.stopping = false) :
    ∀ q ∈ taken.dropLast, .stopRequest ∉ (Act.run (step notify) q).notes := by
  induction taken generalizing p with
  | nil => exact List.forall_mem_nil _
  | cons q taken ih =>
      obtain ⟨_, legs⟩ := legs
      obtain ⟨free, later⟩ := List.forall_mem_cons.mp free
      cases taken with
      | nil => exact List.forall_mem_nil _
      | cons q' taken =>
          refine List.forall_mem_cons.mpr ⟨?_, ih legs later⟩
          -- The next step is taken, so the bridge was not stopping after this one.
          have running := later q' List.mem_cons_self
          rw [legs.1.bridge, step_heeds notify q, Bool.or_eq_false_iff] at running
          simpa using running.2

theorem stopped (legs : Legs notify p taken r) (free : ∀ q ∈ taken, q.bridge.stopping = false)
    (stopping : p.bridge.stopping = true) : taken = [] := by
  cases taken with
  | nil => rfl
  | cons q taken =>
      have running := free q List.mem_cons_self
      rw [legs.1.bridge, stopping] at running
      cases running

end Legs

theorem Ran.length_le {notify : κ → PacketEvent → Act (List κ × ω × Rat) Unit}
    {packets? : Option Int} {seconds? : Option Rat} {d : Rat} {rounds : Nat} {p r : Timed κ ω}
    {taken : List (Timed κ ω)} {answer : Except Failure RunResult}
    (ran : Ran notify packets? seconds? d p.world.2 rounds p taken answer r) (advances : 0 < d)
    {t : Rat} (given : t ∈ seconds?) : (taken.length : Int) ≤ max 0 (⌈t / d⌉ - 1) := by
  cases taken with
  | nil => exact le_max_left _ _
  | cons q taken =>
      have spent := ran.time t given (List.cons_ne_nil q taken)
      rw [sub_self, zero_add, ← lt_div_iff₀ advances] at spent
      have bound : ((q :: taken).length : Int) < ⌈t / d⌉ := Int.lt_ceil.mpr spent
      exact le_max_of_le_right (Int.le_sub_one_of_lt bound)

section Runs

variable {notify : κ → PacketEvent → Act (List κ × ω) Unit} {clock : Act ω Rat}
  {limits : RunLimits} {p q : Pipeline κ ω} {config : DeviceConfig} {began : Rat}

theorem run_unstarted (missing : p.bridge.config? = none) (rounds : Nat) :
    Act.run (run clock notify limits rounds) p = ⟨.error (.caused .bridgeNotStarted), [], p⟩ := by
  rw [run, run_bind_ok (run_get p), Bridge.requireConfig, missing,
    run_bind_error (run_ofCause_error _)]
  rfl

theorem run_started (configured : p.bridge.config? = some config)
    (read : Act.run (viaWorld clock) p = ⟨.ok began, [], q⟩) (rounds : Nat) :
    Act.run (run clock notify limits rounds) p =
      Act.run (pump clock notify limits began rounds) q := by
  rw [run, run_bind_ok (run_get p), Bridge.requireConfig_some configured,
    run_bind_ok (run_ofCause_ok _), run_bind_ok read]
  rfl

variable {Ω : Type} {part : Focus Ω ω} {notify : κ → PacketEvent → Act (List κ × Ω) Unit}
  {p q : Pipeline κ Ω}

theorem run_steps_unstarted (missing : p.bridge.config? = none) (rounds : Nat) :
    (Move.run clock limits rounds).steps part notify p = [] := by
  rw [Move.steps, missing]

theorem run_steps_started (configured : p.bridge.config? = some config)
    (read : Act.run (viaWorld (clock.within part)) p = ⟨.ok began, [], q⟩) (rounds : Nat) :
    (Move.run clock limits rounds).steps part notify p =
      pumped notify (clock.within part) limits began rounds q := by
  rw [Move.steps, configured, read]

end Runs

/-- A run takes no step after a stop was requested or when it has enough packets, and it comes back
    for these reasons or because its time is up. It fails only for want of a start or as its last
    step did. Within a time that is limited there is room for so many steps and no more. -/
theorem run_ends_when_due (notify : κ → PacketEvent → Act (List κ × ω) Unit) (d : Rat)
    (advances : 0 < d) (packets? : Option Int) (seconds? : Option Rat) (b : Bridge κ)
    (s : Session ω) (w : ω) (now : Rat) :
    let p : Timed κ ω := ⟨b, s.within .fst, w, now⟩
    let limits := RunLimits.exact packets? seconds?
    let taken (rounds : Nat) := (Move.run (ticking d) limits rounds).steps .snd (untimed notify) p
    let o (rounds : Nat) :=
      Act.run (run ((ticking d).within .snd) (untimed notify) limits rounds) p
    (∀ rounds,
      Legs (untimed notify) p (taken rounds) (o rounds).world ∧
      (∀ q ∈ taken rounds, q.bridge.stopping = false ∧
        ∀ n ∈ packets?, (q.bridge.packets : Int) < n) ∧
      (∀ q ∈ (taken rounds).dropLast,
        .stopRequest ∉ (Act.run (step (untimed notify)) q).notes) ∧
      (b.stopping = true → taken rounds = []) ∧
      (∀ n ∈ packets?, ((o rounds).world.bridge.packets : Int) ≤ max (b.packets : Int) n) ∧
      (∀ stats, (o rounds).answer = .ok (.finished stats) → stats = (o rounds).world.stats ∧
        Over packets? seconds? (now + d) (o rounds).world) ∧
      (∀ e, (o rounds).answer = .error e →
        (b.config? = none ∧ e = .caused .bridgeNotStarted) ∨
        ∃ q, (taken rounds).getLast? = some q ∧
          (Act.run (step (untimed notify)) q).answer = .error e) ∧
      ((o rounds).answer = .ok .unfinished → (taken rounds).length = rounds) ∧
      ((o rounds).answer ≠ .ok .unfinished → ∀ more, o (rounds + more) = o rounds)) ∧
    ∀ t ∈ seconds?, ∀ rounds : Nat,
      ((taken rounds).length : Int) ≤ max 0 (⌈t / d⌉ - 1) ∧
      (max 0 (⌈t / d⌉ - 1) < (rounds : Int) → (o rounds).answer ≠ .ok .unfinished) := by
  intro p limits taken o
  cases configured : b.config? with
  | none =>
      have refused (rounds : Nat) : o rounds = ⟨.error (.caused .bridgeNotStarted), [], p⟩ :=
        run_unstarted configured rounds
      have untaken (rounds : Nat) : taken rounds = [] := run_steps_unstarted configured rounds
      refine ⟨fun rounds => ?_, fun t _ rounds => ?_⟩
      · rw [untaken rounds, refused rounds]
        refine ⟨.refl p, List.forall_mem_nil _, List.forall_mem_nil _, fun _ => rfl,
          fun n _ => le_max_left _ _, nofun, ?_, nofun, fun _ more => refused (rounds + more)⟩
        rintro _ ⟨⟩
        exact Or.inl ⟨rfl, rfl⟩
      · rw [untaken rounds, refused rounds]
        exact ⟨le_max_left _ _, fun _ => nofun⟩
  | some config =>
      let q : Timed κ ω := ⟨b, s.within .fst, w, now + d⟩
      have read : Act.run (viaWorld ((ticking d).within .snd)) p = ⟨.ok (now + d), [], q⟩ := rfl
      have started (rounds : Nat) : o rounds = _ := run_started configured read rounds
      have ran (rounds : Nat) : Ran (untimed notify) packets? seconds? d q.world.2 rounds q
          (taken rounds) (o rounds).answer (o rounds).world := by
        have looped : taken rounds = _ := run_steps_started configured read rounds
        rw [started, looped]
        exact pump_ran notify packets? seconds? d (now + d) rounds ⟨s, rfl⟩
      refine ⟨fun rounds => ?_, fun t given rounds => ?_⟩
      · have legs := (ran rounds).legs
        have free : ∀ q ∈ taken rounds, q.bridge.stopping = false := fun q taken =>
          ((ran rounds).due q taken).unasked
        have room : ∀ q ∈ taken rounds, ∀ n ∈ packets?, (q.bridge.packets : Int) < n :=
          fun q taken => ((ran rounds).due q taken).room
        refine ⟨legs.after ⟨now + d, rfl⟩, fun q taken => ⟨free q taken, room q taken⟩,
          legs.unasked free, legs.stopped free,
          fun n given => legs.packets fun q taken => room q taken n given, (ran rounds).finished,
          fun e failed => Or.inr ((ran rounds).failed e failed), (ran rounds).unfinished, ?_⟩
        intro ended more
        rw [started] at ended
        rw [started, started]
        exact pump_more ended more
      · have bound := (ran rounds).length_le advances given
        refine ⟨bound, fun enough ongoing => ?_⟩
        have length := (ran rounds).unfinished ongoing
        omega

/-- A device that never sends anything. -/
def mute : Transport Unit where
  openDevice := pure ()
  closeDevice := pure ()
  isOpen _ := true
  readFeature _ _ _ := pure []
  writeOutput _ bytes _ := pure bytes.length
  readInput _ timeoutMs := failWith (.noReport timeoutMs)

/-- A run over that device, with time for three steps, is not caught in idle polls. -/
theorem run_ends_when_due_idle :
    let b : Bridge Empty := { Bridge.new 0 with config? := some ⟨0, "", "", ""⟩ }
    let p : Timed Empty Unit := ⟨b, (Session.new (some mute) none).within .fst, (), 0⟩
    let limits := RunLimits.exact (some 1) (some 2)
    let nobody (callback : Empty) (_ : PacketEvent) : Act (List Empty × Unit) Unit := callback.elim
    let taken := (Move.run (ticking (1 / 2)) limits 10).steps .snd (untimed nobody) p
    let o := Act.run (run ((ticking (1 / 2)).within .snd) (untimed nobody) limits 10) p
    (0 : Rat) < 1 / 2 ∧ (taken.length : Int) ≤ 3 ∧ o.answer ≠ .ok .unfinished ∧
      o.world.bridge.idlePolls = 3 ∧ o.world.bridge.packets = 0 := by
  intro b p limits nobody taken o
  have advances : (0 : Rat) < 1 / 2 := by norm_num
  have room : ⌈(2 : Rat) / (1 / 2)⌉ = 4 := by norm_num
  have timely := (run_ends_when_due nobody (1 / 2) advances (some 1) (some 2) b
    (.new (some mute) none) () 0).2 2 rfl 10
  rw [room] at timely
  refine ⟨advances, timely.1.trans (by decide), timely.2 (by decide), ?_, ?_⟩
  · decide +kernel
  · decide +kernel

end Pipeline

end ChunkRelay
