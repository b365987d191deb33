import ChunkRelay.Proofs.Bench.Account
import ChunkRelay.Proofs.Bridge.Window

/-! # What becomes of an accepted packet

A packet is accepted when the tracker of the session takes it in. Its delivery can still fail, and a
step knows that failure from one of the poll by its class alone. An accepted packet is counted as
one unless the uploader fails in the way of a device that has sent nothing of use. Then the step
counts an idle poll or an ignored report, and the packet is lost to the counts. The uploader over
HTTP never fails in that way; one of another make may.
-/

namespace ChunkRelay

/-- The failures by which a bridge tells that a poll has brought no packet. -/
def Failure.isUnheard (e : Failure) : Bool :=
  e.isClass .transportTimeout || e.isClass .wrongReport || e.isClass .malformedReport

theorem Failure.unheard_mishap (e : Failure) :
    e.isUnheard =
      match e.mishap? with
      | some .idle | some .ignored => true
      | _ => false := by
  rw [isUnheard, mishap?, Bool.or_assoc]
  cases e.isClass .transportTimeout with
  | true => rfl
  | false =>
      cases e.isClass .wrongReport || e.isClass .malformedReport with
      | true => rfl
      | false => cases e.isClass .deliveryFailed <;> rfl

/-- The uploader does not fail in the way of a poll that brings no packet. -/
def Uploader.Distinct {ω : Type} (u : Uploader ω) : Prop :=
  ∀ uri authorization payload,
    Act.FailsAs (fun e => e.isUnheard = false) (u.deliver uri authorization payload)

theorem Uploader.Refuses.distinct {ω : Type} {u : Uploader ω} (refuses : u.Refuses) :
    u.Distinct := by
  intro uri authorization payload w e failed
  rw [Failure.unheard_mishap, Failure.mishap_undelivered (refuses _ _ _ _ _ failed)]

namespace HttpUploader

open Act

/-- Requests over HTTP do not fail in that way as long as the platform's failures are its own. -/
theorem distinct {σ ω : Type} {client : HttpClient σ}
    (foreign : ∀ request s e, (client.post request s).answer = .error e → e.isOperational = false)
    (part : Focus ω (HttpUploader × σ)) : ((uploader client).within part).Distinct := by
  intro uri authorization payload
  refine FailsAs.within ?_
  change FailsAs _ (deliver client uri authorization payload)
  rw [deliver]
  split
  · exact .fail rfl
  · refine FailsAs.bind (.ofCause fun cause refused => ?_) fun auth => ?_
    · rw [parse_refused refused]
      rfl
    refine FailsAs.get.bind fun v => FailsAs.bind ?_ fun timeout => ?_
    · cases timed : timeoutSeconds v.1.timeoutMs with
      | ok timeout => exact .pure _
      | error e =>
          rw [timeoutSeconds_refused timed]
          exact .fail rfl
    refine FailsAs.bind (FailsAs.tryCatch (.within ?_) fun e heard => ?_) fun status => ?_
    · intro w e failed
      have other : e.isOperational = false := foreign _ w e failed
      simp only [Failure.isUnheard, Failure.isClass_foreign other, Bool.or_self]
    · split
      · exact (FailsAs.modify _).bind fun _ => (FailsAs.log _ _ _).bind fun _ => .fail rfl
      · exact .fail heard
    · split
      · refine (FailsAs.modify _).bind fun _ => FailsAs.get.bind fun v => ?_
        exact (FailsAs.log _ _ _).bind fun _ => .pure _
      · refine (FailsAs.modify _).bind fun _ => (FailsAs.logNumber _ _ _ _).bind fun _ => .fail ?_
        rw [Failure.isUnheard, Failure.ofCause_isClass rfl, Failure.ofCause_isClass rfl,
          Failure.ofCause_isClass rfl]
        rfl

end HttpUploader

/-- What has been heard is told from what has not by the tracker. -/
theorem Tracker.hear_changed (t : Tracker) (answer? : Option Reception) :
    (t.hear answer?).2 ≠ t ↔ (t.hear answer?).1.isSome := by
  cases answer? with
  | none => simp [hear]
  | some answer =>
      cases understood : Session.heard answer with
      | error e => simp [Session.hear_unheard t understood]
      | ok packet => simp [Session.hear_understood t understood, t.see_ne packet.sequence]

namespace Pipeline

open Act

variable {κ ω Ω : Type}

/-- The uploader fails to deliver the packet that a step accepts. -/
def Refused (p : Pipeline κ Ω) (e : Failure) : Prop :=
  ∃ config u event w, p.bridge.config? = some config ∧ p.session.uploader? = some u ∧
    p.turn.event? = some event ∧
    (Act.run (u.deliver config.dataUri config.authorization event.packet.payload) w).answer =
      .error e

/-- One packet more is counted, and no poll without a packet. -/
structure Counted (p q : Pipeline κ Ω) : Prop where
  packets : q.bridge.packets = p.bridge.packets + 1
  idlePolls : q.bridge.idlePolls = p.bridge.idlePolls
  ignoredReports : q.bridge.ignoredReports = p.bridge.ignoredReports

/-- For a failure of the uploader a poll without a packet is counted, and no packet. -/
structure Missed (p q : Pipeline κ Ω) : Prop where
  packets : q.bridge.packets = p.bridge.packets
  polls : q.bridge.idlePolls + q.bridge.ignoredReports =
    p.bridge.idlePolls + p.bridge.ignoredReports + 1
  mistaken : ∃ e, Refused p e ∧ e.isUnheard = true

section Step

variable (notify : κ → PacketEvent → Act (List κ × Ω) Unit) (p : Pipeline κ Ω)

/-- Whether a step accepts a packet. -/
def accepts : Bool := (Act.run (step notify) p).world.session.tracker ≠ p.session.tracker

/-- Whether a step returns and has accepted a packet. -/
def gains : Bool := (answered notify p).isOk && accepts notify p

/-- Whether a step returns and has accepted nothing. -/
def passes : Bool := (answered notify p).isOk && !accepts notify p

end Step

variable {notify : κ → PacketEvent → Act (List κ × Ω) Unit} {p q : Pipeline κ Ω}
  {answer : Except Failure (Option PacketEvent)}

theorem Stepped.tracker (stepped : Stepped notify p answer q) :
    q.session.tracker = (p.session.tracker.hear p.turn.answer?).2 := by
  have polled : p.turn.outcome.world.1.tracker = (p.session.tracker.hear p.turn.answer?).2 :=
    congrArg Session.tracker (Session.turn_session p.turn).1
  cases stepped with
  | unpolled missing =>
      have unasked : p.turn.answer? = none := by
        rw [turn, missing]
        rfl
      rw [unasked]
      rfl
  | failed => exact polled
  | survived => exact polled
  | delivered => exact polled

theorem accepts_event (notify : κ → PacketEvent → Act (List κ × Ω) Unit) (p : Pipeline κ Ω) :
    accepts notify p = p.turn.event?.isSome := by
  rw [accepts, (step_stepped notify p).tracker, (Session.turn_session p.turn).2,
    ← Bool.coe_iff_coe, decide_eq_true_iff]
  exact Tracker.hear_changed _ _

theorem Stepped.accepted {event? : Option PacketEvent} {event : PacketEvent}
    (stepped : Stepped notify p (.ok event?) q) (taken : p.turn.event? = some event) :
    Counted p q ∨ Missed p q := by
  cases stepped with
  | delivered => exact Or.inl ⟨rfl, rfl, rfl⟩
  | @survived e _ mishap _ _ polled survivable =>
      obtain ⟨config, u, w, given, uploader, refused⟩ := p.turn.taken_failed taken polled
      have failed : Refused p e := ⟨config, u, event, w, given, uploader, taken, refused⟩
      have unheard := e.unheard_mishap
      rw [survivable] at unheard
      cases mishap with
      | undelivered => exact Or.inl ⟨rfl, rfl, rfl⟩
      | idle => exact Or.inr ⟨rfl, Nat.add_right_comm .., e, failed, unheard⟩
      | ignored => exact Or.inr ⟨rfl, rfl, e, failed, unheard⟩

theorem Stepped.unreturned {e : Failure} (stepped : Stepped notify p (.error e) q) :
    q.bridge.tally = p.bridge.tally := by
  cases stepped with
  | unpolled => rfl
  | failed => rfl

theorem gains_cases (gained : gains notify p = true) :
    Counted p (Act.run (step notify) p).world ∨ Missed p (Act.run (step notify) p).world := by
  have stepped := step_stepped notify p
  rw [gains, answered, accepts_event, Bool.and_eq_true] at gained
  obtain ⟨returned, accepted⟩ := gained
  obtain ⟨event, taken⟩ := Option.isSome_iff_exists.mp accepted
  cases answer : (Act.run (step notify) p).answer with
  | error e =>
      rw [answer] at returned
      cases returned
  | ok event? =>
      rw [answer] at stepped
      exact stepped.accepted taken

/-- The uploader of the session, if it has one, does not fail in the way of an empty poll. -/
def Clear (p : Pipeline κ Ω) : Prop := ∀ u, p.session.uploader? = some u → u.Distinct

theorem Clear.counted (clear : Clear p) (gained : gains notify p = true) :
    Counted p (Act.run (step notify) p).world := by
  rcases gains_cases gained with counted | ⟨_, _, e, refused, unheard⟩
  · exact counted
  · obtain ⟨config, u, event, w, _, uploader, _, failed⟩ := refused
    have heard : e.isUnheard = false := clear u uploader _ _ _ w e failed
    rw [unheard] at heard
    cases heard

/-! ## Courses -/

/-- Every packet that was gained since `p` has been counted, and nothing but a step that passed has
    been counted as a poll without a packet. -/
def Credited (notify : κ → PacketEvent → Act (List κ × Ω) Unit) (p : Pipeline κ Ω)
    (taken : List (Pipeline κ Ω)) (q : Pipeline κ Ω) : Prop :=
  Clear q ∧
    (∀ r ∈ taken, gains notify r = true → Counted r (Act.run (step notify) r).world) ∧
    p.bridge.packets + taken.countP (gains notify) ≤ q.bridge.packets ∧
    q.bridge.idlePolls + q.bridge.ignoredReports ≤
      p.bridge.idlePolls + p.bridge.ignoredReports + taken.countP (passes notify)

theorem Clear.packets (clear : Clear q) :
    q.bridge.packets + (if gains notify q then 1 else 0) ≤
      (Act.run (step notify) q).world.bridge.packets := by
  cases gained : gains notify q with
  | true => exact Nat.le_of_eq (clear.counted gained).packets.symm
  | false => exact (step_stepped notify q).grown.packets

theorem Clear.polls (clear : Clear q) :
    (Act.run (step notify) q).world.bridge.idlePolls +
        (Act.run (step notify) q).world.bridge.ignoredReports ≤
      q.bridge.idlePolls + q.bridge.ignoredReports + if passes notify q then 1 else 0 := by
  have stepped := step_stepped notify q
  -- A step that fails counts nothing; one that returns has either gained a packet or passed.
  cases answer : (Act.run (step notify) q).answer with
  | error e =>
      rw [answer] at stepped
      have idle := congrArg Tally.idlePolls stepped.unreturned
      have ignored := congrArg Tally.ignoredReports stepped.unreturned
      exact Nat.le_add_right_of_le (Nat.le_of_eq (congrArg₂ (· + ·) idle ignored))
  | ok event? =>
      have returned : (answered notify q).isOk = true := by rw [answered, answer]; rfl
      cases accepted : accepts notify q with
      | true =>
          have gained : gains notify q = true := by rw [gains, returned, accepted]; rfl
          have counted := clear.counted gained
          exact Nat.le_add_right_of_le
            (Nat.le_of_eq (congrArg₂ (· + ·) counted.idlePolls counted.ignoredReports))
      | false =>
          have passed : passes notify q = true := by rw [passes, returned, accepted]; rfl
          obtain ⟨packets, _, _, total, _, _⟩ := stepped.grown
          rw [passed, if_pos rfl]
          omega

theorem Clear.kept (clear : Clear q) : Clear (Act.run (step notify) q).world := by
  intro u given
  rw [(step_stepped notify q).session.1] at given
  exact clear u given

theorem credited_kept (part : Focus Ω ω) (p : Pipeline κ Ω) :
    Kept part notify (Credited notify p) where
  quiet _ := ⟨fun _ _ _ same => same,
    fun _ => ⟨fun _ _ same => same, fun _ _ _ _ same => same, fun _ _ _ _ same => same⟩⟩
  outside _ same := same
  step {taken q} credited := by
    obtain ⟨clear, counted, packets, polls⟩ := credited
    refine ⟨clear.kept, ?_, ?_, ?_⟩
    · exact List.forall_mem_append.mpr
        ⟨counted, List.forall_mem_singleton.mpr fun gained => clear.counted gained⟩
    · rw [List.countP_append, List.countP_singleton, ← Nat.add_assoc]
      exact (Nat.add_le_add_right packets _).trans clear.packets
    · rw [List.countP_append, List.countP_singleton, ← Nat.add_assoc]
      exact clear.polls.trans (Nat.add_le_add_right polls _)

/-- A step that returns counts a packet that it has accepted as one, and as nothing else, unless
    the uploader fails in the way of a poll without a packet. With an uploader that never does that
    no accepted packet goes uncounted in any course, and all that is counted as idle or ignored are
    steps in which nothing was accepted. -/
theorem accepted_counted (notify : κ → PacketEvent → Act (List κ × Ω) Unit) :
    (∀ p : Pipeline κ Ω, gains notify p = true →
      Counted p (Act.run (step notify) p).world ∨ Missed p (Act.run (step notify) p).world) ∧
    ∀ (part : Focus Ω ω) (p : Pipeline κ Ω),
      (∀ u, p.session.uploader? = some u → u.Distinct) →
      ∀ moves : List (Move κ ω),
        let taken := steps part notify p moves
        let q := after part notify p moves
        (∀ r ∈ taken, gains notify r = true → Counted r (Act.run (step notify) r).world) ∧
        p.bridge.packets + taken.countP (gains notify) ≤ q.bridge.packets ∧
        q.bridge.idlePolls + q.bridge.ignoredReports ≤
          p.bridge.idlePolls + p.bridge.ignoredReports + taken.countP (passes notify) := by
  refine ⟨fun p gained => gains_cases gained, fun part p clear moves => ?_⟩
  have fresh : Credited notify p [] p :=
    ⟨clear, List.forall_mem_nil _, Nat.le_refl _, Nat.le_refl _⟩
  exact ((credited_kept part p).course [] (fun _ _ _ _ _ same => same) fresh).2

/-- An accepted packet that is refused is counted as one. -/
theorem accepted_counted_refused :
    let moves : List (Move Empty Unit) := [.start, .step, .step]
    let q := after .whole nofun stalling moves
    (∀ u, stalling.session.uploader? = some u → u.Distinct) ∧
      (steps .whole nofun stalling moves).countP (gains nofun) = 2 ∧
      2 ≤ q.bridge.packets ∧ q.bridge.idlePolls + q.bridge.ignoredReports = 0 := by
  intro moves q
  have distinct : ∀ u, stalling.session.uploader? = some u → u.Distinct := by
    intro u given
    obtain rfl : Session.refusing = u := Option.some.inj given
    exact refusing_refuses.distinct
  obtain ⟨_, packets, polls⟩ := (accepted_counted nofun).2 .whole stalling distinct moves
  have gained : (steps .whole nofun stalling moves).countP (gains nofun) = 2 := by decide +kernel
  have passed : (steps .whole nofun stalling moves).countP (passes nofun) = 0 := by decide +kernel
  rw [gained] at packets
  rw [passed] at polls
  exact ⟨distinct, gained, packets, Nat.le_zero.mp polls⟩

/-- An uploader that gives up as a device does that has sent nothing. -/
def expiring : Uploader Unit := ⟨fun _ _ _ => failWith (.noReport 0)⟩

/-- Over that uploader an accepted packet is counted as an idle poll. -/
theorem accepted_idle :
    let unused : Pipeline Empty Unit := ⟨.new 0, .new (some stuck) (some expiring), ()⟩
    let p := (Act.run start unused).world
    let q := (Act.run (step nofun) p).world
    (answered nofun p).isOk = true ∧ q.session.tracker ≠ p.session.tracker ∧
      q.bridge.packets = 0 ∧ q.bridge.idlePolls = 1 := by
  decide +kernel

end Pipeline

end ChunkRelay
