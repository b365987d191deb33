import ChunkRelay.Proofs.Bridge.Counting
import ChunkRelay.Proofs.Session.Reached

/-! # Discontinuities since the latest start

A bridge reports the discontinuities that its session has counted since the latest start. These are
the discontinuities among the packets that it has counted since then. The other counts go back to
the beginning, so the figures of a bridge that was started again are not about the same packets.
-/

namespace ChunkRelay

/-- The uploader fails only to deliver. -/
def Uploader.Refuses {ω : Type} (u : Uploader ω) : Prop :=
  ∀ uri authorization payload w e,
    (Act.run (u.deliver uri authorization payload) w).answer = .error e →
      e.isClass .deliveryFailed = true

/-! ## Verdicts -/

theorem Tracker.hear_discontinuities (t : Tracker) (answer? : Option Reception) :
    (t.hear answer?).2.discontinuities = t.discontinuities +
      if (t.hear answer?).1.any PacketEvent.isDiscontinuous then 1 else 0 := by
  cases answer? with
  | none => rfl
  | some answer =>
      cases understood : Session.heard answer with
      | error e =>
          rw [Session.hear_unheard t understood]
          rfl
      | ok packet =>
          rw [Session.hear_understood t understood]
          simp [PacketEvent.isDiscontinuous, t.see_discontinuities packet.sequence]

namespace Session

open Act

variable {ω : Type}

/-- Once a packet is taken in, nothing can fail but its delivery. -/
theorem Turn.taken_failed (turn : Turn ω) {event : PacketEvent} {e : Failure}
    (taken : turn.event? = some event) (failed : turn.outcome.answer = .error e) :
    ∃ config u w, turn.poll.config? = some config ∧ turn.before.1.uploader? = some u ∧
      (run (u.deliver config.dataUri config.authorization event.packet.payload) w).answer =
        .error e := by
  obtain ⟨⟨config?, timeoutMs⟩, s, w⟩ := turn
  cases config? with
  | none => cases taken
  | some config =>
      rcases readEvent_outcome s w timeoutMs with
        ⟨packet, notes, w', read⟩ | ⟨e', notes, w', unread⟩
      · obtain ⟨answer, more, w'', forwarded, fails⟩ :=
          forward_outcome (s.taken packet) w' config packet
        rw [Turn.event?, Option.bind_some, read] at taken
        cases taken
        rw [Turn.outcome, process_ok read forwarded] at failed
        cases answer with
        | ok status => cases failed
        | error e' =>
            cases failed
            obtain ⟨u, given, refused⟩ := fails e rfl
            exact ⟨config, u, w', rfl, given, refused⟩
      · rw [Turn.event?, Option.bind_some, unread] at taken
        cases taken

end Session

namespace Pipeline

open Act

variable {κ ω Ω : Type}

/-- Whether a step counts a packet that did not follow the one before it. -/
def lost (notify : κ → PacketEvent → Act (List κ × Ω) Unit) (p : Pipeline κ Ω) : Bool :=
  p.bridge.packets < (Act.run (step notify) p).world.bridge.packets &&
    p.turn.event?.any PacketEvent.isDiscontinuous

/-! ## One step -/

section Step

variable {notify : κ → PacketEvent → Act (List κ × Ω) Unit} {p q : Pipeline κ Ω}
  {answer : Except Failure (Option PacketEvent)}

theorem untaken (missing : p.bridge.config? = none) : p.turn.event? = none := by
  change p.bridge.config?.bind _ = none
  rw [missing, Option.bind_none]

theorem Stepped.session (stepped : Stepped notify p answer q) :
    q.session.uploader? = p.session.uploader? ∧
      q.session.tracker.discontinuities = p.session.tracker.discontinuities +
        if p.turn.event?.any PacketEvent.isDiscontinuous then 1 else 0 := by
  obtain ⟨session, event⟩ := Session.turn_session p.turn
  have polled : p.turn.outcome.world.1.uploader? = p.session.uploader? ∧
      p.turn.outcome.world.1.tracker.discontinuities = p.session.tracker.discontinuities +
        if p.turn.event?.any PacketEvent.isDiscontinuous then 1 else 0 := by
    rw [session, event]
    exact ⟨rfl, Tracker.hear_discontinuities _ _⟩
  cases stepped with
  | unpolled missing =>
      rw [untaken missing]
      exact ⟨rfl, rfl⟩
  | failed => exact polled
  | survived => exact polled
  | delivered => exact polled

/-- A packet that is taken in is counted, since from there on nothing but its delivery can fail. -/
theorem Stepped.packets (stepped : Stepped notify p answer q) {event : PacketEvent}
    (taken : p.turn.event? = some event)
    (refuses : ∀ u, p.session.uploader? = some u → u.Refuses) :
    q.bridge.packets = p.bridge.packets + 1 := by
  have undelivered {e : Failure} (polled : p.turn.outcome.answer = .error e) :
      e.mishap? = some .undelivered := by
    obtain ⟨_, u, w, _, given, refused⟩ := p.turn.taken_failed taken polled
    exact Failure.mishap_undelivered (refuses u given _ _ _ _ _ refused)
  cases stepped with
  | unpolled missing =>
      rw [untaken missing] at taken
      cases taken
  | failed _ _ polled fatal =>
      rw [undelivered polled] at fatal
      cases fatal
  | survived _ _ polled survivable =>
      rw [undelivered polled] at survivable
      cases survivable
      rfl
  | delivered => rfl

theorem lost_taken (notify : κ → PacketEvent → Act (List κ × Ω) Unit)
    (refuses : ∀ u, p.session.uploader? = some u → u.Refuses) :
    lost notify p = p.turn.event?.any PacketEvent.isDiscontinuous := by
  have stepped := step_stepped notify p
  rw [lost]
  cases taken : p.turn.event? with
  | none => rw [Option.any_none, Bool.and_false]
  | some event =>
      rw [stepped.packets taken refuses, decide_eq_true (Nat.lt_succ_self _), Bool.true_and]

theorem lost_packets (notify : κ → PacketEvent → Act (List κ × Ω) Unit) (p : Pipeline κ Ω) :
    p.bridge.packets + (if lost notify p then 1 else 0) ≤
      (Act.run (step notify) p).world.bridge.packets := by
  cases isLost : lost notify p with
  | false => exact (step_stepped notify p).grown.packets
  | true =>
      rw [lost, Bool.and_eq_true, decide_eq_true_iff] at isLost
      exact isLost.1

end Step

/-! ## Courses -/

variable {notify : κ → PacketEvent → Act (List κ × Ω) Unit}

/-- What is lost in the steps taken since `p` is counted by the session, and the bridge counts it
    among its packets. -/
def Followed (notify : κ → PacketEvent → Act (List κ × Ω) Unit) (p : Pipeline κ Ω)
    (taken : List (Pipeline κ Ω)) (q : Pipeline κ Ω) : Prop :=
  (∀ u, q.session.uploader? = some u → u.Refuses) ∧
    q.session.tracker.discontinuities =
      p.session.tracker.discontinuities + taken.countP (lost notify) ∧
    p.bridge.packets + taken.countP (lost notify) ≤ q.bridge.packets

theorem followed_kept (part : Focus Ω ω) (p : Pipeline κ Ω) :
    Kept part notify (Followed notify p) where
  quiet _ := ⟨fun _ _ _ same => same,
    fun _ => ⟨fun _ _ same => same, fun _ _ _ _ same => same, fun _ _ _ _ same => same⟩⟩
  outside _ same := same
  step {taken q} followed := by
    obtain ⟨refuses, counted, packets⟩ := followed
    obtain ⟨uploader, discontinuities⟩ := (step_stepped notify q).session
    rw [← lost_taken notify refuses] at discontinuities
    have more : (taken ++ [q]).countP (lost notify) =
        taken.countP (lost notify) + if lost notify q then 1 else 0 := by
      rw [List.countP_append, List.countP_singleton]
    refine ⟨?_, ?_, ?_⟩
    · rw [uploader]
      exact refuses
    · rw [discontinuities, counted, more, Nat.add_assoc]
    · calc p.bridge.packets + (taken ++ [q]).countP (lost notify)
        _ = p.bridge.packets + taken.countP (lost notify) + if lost notify q then 1 else 0 := by
          rw [more, Nat.add_assoc]
        _ ≤ q.bridge.packets + if lost notify q then 1 else 0 := Nat.add_le_add_right packets _
        _ ≤ (Act.run (Pipeline.step notify) q).world.bridge.packets := lost_packets notify q

/-- Nothing but a start moves the base. -/
theorem base_quiet (n : Nat) : Quiet fun q : Pipeline κ Ω => q.bridge.discontinuityBase = n where
  bridge _ _ _ same := same
  session _ := ⟨fun _ _ same => same, fun _ _ _ _ same => same, fun _ _ _ _ same => same⟩

theorem base_kept (part : Focus Ω ω) (n : Nat) :
    Kept part notify fun _ q => q.bridge.discontinuityBase = n where
  quiet _ := base_quiet n
  outside _ same := same
  step {_ q} same := (step_stepped notify q).grown.base.trans same

theorem start_base (p : Pipeline κ Ω) :
    (Act.run start p).world.bridge.discontinuityBase = p.session.tracker.discontinuities :=
  (base_quiet _).start rfl

theorem base_unstarted (part : Focus Ω ω) (notify : κ → PacketEvent → Act (List κ × Ω) Unit)
    (p : Pipeline κ Ω) {moves : List (Move κ ω)} (unstarted : .start ∉ moves) :
    (after part notify p moves).bridge.discontinuityBase = p.bridge.discontinuityBase :=
  (base_kept part _).course [] (fun start => absurd start unstarted) rfl

theorem Followed.stats {p q : Pipeline κ Ω} {taken : List (Pipeline κ Ω)}
    (followed : Followed notify p taken q)
    (base : q.bridge.discontinuityBase = p.session.tracker.discontinuities) :
    q.stats.discontinuities = taken.countP (lost notify) := by
  obtain ⟨_, counted, _⟩ := followed
  change (q.session.tracker.discontinuities : Int) - q.bridge.discontinuityBase = _
  rw [counted, base]
  omega

/-- The discontinuities that a bridge reports are those among the packets that it has counted since
    its latest start, whether or not that start succeeded. The session counts the others, too. -/
theorem discontinuities_since_start (part : Focus Ω ω)
    (notify : κ → PacketEvent → Act (List κ × Ω) Unit) (p : Pipeline κ Ω)
    (refuses : ∀ u, p.session.uploader? = some u → u.Refuses) (earlier later : List (Move κ ω))
    (unstarted : .start ∉ later) :
    let before := after part notify p earlier
    let started := (Act.run start before).world
    let q := after part notify started later
    let count := (steps part notify started later).countP (lost notify)
    q.stats.discontinuities = count ∧
      before.stats.packets + count ≤ q.stats.packets ∧
      q.session.tracker.discontinuities = p.session.tracker.discontinuities +
        (steps part notify p earlier).countP (lost notify) + count ∧
      ∀ more : List (Move κ ω), .start ∉ more →
        q.stats.discontinuities ≤ (after part notify q more).stats.discontinuities := by
  intro before started q count
  have fresh : Followed notify p [] p := ⟨refuses, rfl, Nat.le_refl _⟩
  obtain ⟨refuses', counted, _⟩ : Followed notify p (steps part notify p earlier) before :=
    (followed_kept part p).course [] (fun _ _ _ _ _ same => same) fresh
  -- Counted from `before` on, since a start leaves the tracker and the packets as they are.
  have begun : Followed notify before [] started :=
    ((followed_kept part before).quiet []).start ⟨refuses', rfl, Nat.le_refl _⟩
  have followed : Followed notify before (steps part notify started later) q :=
    (followed_kept part before).course [] (fun start => absurd start unstarted) begun
  have ⟨_, counted', packets⟩ := followed
  have based : q.bridge.discontinuityBase = before.session.tracker.discontinuities :=
    (base_unstarted part notify started unstarted).trans (start_base before)
  refine ⟨followed.stats based, packets, by rw [counted', counted], ?_⟩
  intro more unstarted'
  have followed' := (followed_kept part before).course _
    (fun start => absurd start unstarted') followed
  have based' := (base_unstarted part notify q unstarted').trans based
  rw [followed.stats based, followed'.stats based', List.countP_append]
  exact Int.ofNat_le.mpr (Nat.le_add_right _ _)

/-- A device whose packets all have the same number. -/
def stuck : Transport Unit :=
  { Session.beacon with readFeature := fun _ _ _ => pure [0, 0, 0, 0] }

/-- A bridge over that device, with an uploader that delivers nothing. -/
def stalling : Pipeline Empty Unit := ⟨.new 0, .new (some stuck) (some Session.refusing), ()⟩

theorem refusing_refuses : Session.refusing.Refuses := by
  intro uri authorization payload w e refused
  cases refused
  have writable : (Cause.httpStatus 503 uri payload.length).isWritable = true :=
    Numeral.isWritable_small (by decide)
  rw [Failure.ofCause_writable writable]
  rfl

theorem discontinuities_since_start_again :
    let earlier : List (Move Empty Unit) := [.start, .step, .step, .stop]
    let later : List (Move Empty Unit) := [.step, .step]
    let started := (Act.run start (after .whole nofun stalling earlier)).world
    let q := after .whole nofun started later
    (∀ u, stalling.session.uploader? = some u → u.Refuses) ∧ .start ∉ later ∧
      q.stats.discontinuities = 1 ∧ q.session.tracker.discontinuities = 2 ∧
      q.stats.packets = 4 := by
  intro earlier later started q
  have refuses : ∀ u, stalling.session.uploader? = some u → u.Refuses := by
    intro u given
    obtain rfl : Session.refusing = u := Option.some.inj given
    exact refusing_refuses
  have unstarted : Move.start ∉ later := by simp [later]
  obtain ⟨reported, _, counted, _⟩ :=
    discontinuities_since_start .whole nofun stalling refuses earlier later unstarted
  have first : (steps .whole nofun stalling earlier).countP (lost nofun) = 1 := by decide +kernel
  have second : (steps .whole nofun started later).countP (lost nofun) = 1 := by decide +kernel
  refine ⟨refuses, unstarted, ?_, ?_, by decide +kernel⟩
  · rw [reported, second]
    rfl
  · rw [counted, first, second]
    rfl

/-- A second start takes away what was reported before, though the packets are still counted. -/
theorem restart_forgets :
    let moves : List (Move Empty Unit) := [.start, .step, .step, .stop, .start]
    let q := after .whole nofun stalling moves
    (after .whole nofun stalling (moves.take 4)).stats.discontinuities = 1 ∧
      (steps .whole nofun stalling moves).countP (lost nofun) = 1 ∧
      q.stats.packets = 2 ∧ q.stats.discontinuities = 0 := by
  decide +kernel

end Pipeline

end ChunkRelay
