import ChunkRelay.Proofs.Session.Operations
import ChunkRelay.Proofs.Tracker

/-! # Streams over a lossy link

A sender numbers its packets one after another, and a link loses some of them without changing the
order of the others. A session that is handed what arrives tells how often packets were lost: each
time but for those in which a multiple of 32 packets were lost in a row, since a packet carries only
five bits of its number.
-/

namespace ChunkRelay

/-- A packet on its way, which has a number only by its place among the others. -/
structure Shipment where
  arrives : Bool
  /-- The upper bits of the first byte, which mean nothing. -/
  reserved : Fin 8
  payload : List UInt8

namespace Shipment

variable {x : Shipment} {number : Int} {later : List Shipment}

def report (number : Int) (x : Shipment) : List UInt8 :=
  UInt8.ofNat (32 * x.reserved.val + (Sequence.wrap number).val) :: x.payload

def packet (number : Int) (x : Shipment) : StreamPacket :=
  ⟨Sequence.wrap number, x.payload.take maxChunkLength, List.length_take_le _ _⟩

theorem report_decoded (number : Int) (x : Shipment) :
    Codec.decodePacket (x.report number) = .ok (x.packet number) := by
  have upper := x.reserved.isLt
  have lower := (Sequence.wrap number).isLt
  have masked : Sequence.wrap (UInt8.ofNat
      (32 * x.reserved.val + (Sequence.wrap number).val)).toNat = Sequence.wrap number := by
    rw [UInt8.toNat_ofNat_of_lt' (by simp only [UInt8.size]; omega)]
    apply Fin.ext
    simp only [Sequence.wrap] at lower ⊢
    omega
  rw [report, Codec.decodePacket, masked]
  rfl

/-- The reports that arrive of packets that are numbered from `number` on. -/
def arriving : Int → List Shipment → List (List UInt8)
  | _, [] => []
  | number, x :: later =>
    if x.arrives then x.report number :: arriving (number + 1) later
    else arriving (number + 1) later

/-- How many packets are lost right before each one that arrives, given how many have just been
    lost. -/
def lossesFrom : Nat → List Shipment → List Nat
  | _, [] => []
  | lost, x :: later =>
    if x.arrives then lost :: lossesFrom 0 later else lossesFrom (lost + 1) later

/-- How many packets are lost right before each one that arrives, apart from the first of these. -/
def losses (shipments : List Shipment) : List Nat := (lossesFrom 0 shipments).tail

theorem arriving_append (number : Int) (first later : List Shipment) :
    arriving number (first ++ later) =
      arriving number first ++ arriving (number + first.length) later := by
  induction first generalizing number with
  | nil => simp [arriving]
  | cons x first ih =>
      have shifted : number + 1 + first.length = number + (x :: first).length := by
        simp only [List.length_cons]
        omega
      cases arrives : x.arrives <;> simp [arriving, arrives, ih, shifted]

theorem arriving_none (number : Int) (lost : ∀ x ∈ later, x.arrives = false) :
    arriving number later = [] := by
  induction later generalizing number with
  | nil => rfl
  | cons x later ih =>
      have gone := lost x List.mem_cons_self
      have rest := ih (number + 1) fun y member => lost y (List.mem_cons_of_mem x member)
      simp [arriving, gone, rest]

/-- What was lost before the first packet that arrives is left out, so it may be any number. -/
theorem losses_cons_lost (lost : x.arrives = false) : losses (x :: later) = losses later := by
  have regardless (n m : Nat) : (lossesFrom n later).tail = (lossesFrom m later).tail := by
    induction later generalizing n m with
    | nil => rfl
    | cons y later ih =>
        cases arrives : y.arrives
        · simpa [lossesFrom, arrives] using ih (n + 1) (m + 1)
        · simp [lossesFrom, arrives]
  simp [losses, lossesFrom, lost, regardless 1 0]

theorem losses_cons_arrived (arrives : x.arrives = true) :
    losses (x :: later) = lossesFrom 0 later := by
  simp [losses, lossesFrom, arrives]

end Shipment

namespace Session

open Act Shipment

variable {ω : Type} {s : Session ω} {w : ω} {number : Int} {x : Shipment} {later : List Shipment}

/-- Take in what arrives of packets that are numbered from `number` on. -/
def takeIn (number : Int) (shipments : List Shipment) :
    Act (Session ω × ω) (List PacketEvent) :=
  (arriving number shipments).mapM (handleInput ReportId.streamData.code)

theorem takeIn_lost (lost : x.arrives = false) :
    takeIn (ω := ω) number (x :: later) = takeIn (number + 1) later := by
  simp [takeIn, arriving, lost]

theorem takeIn_arrived (arrives : x.arrives = true) {events : List PacketEvent}
    {notes : List Note} {v : Session ω × ω}
    (rest : run (takeIn (number + 1) later) (s.taken (x.packet number), w) =
      ⟨.ok events, notes, v⟩) :
    ∃ more, run (takeIn number (x :: later)) (s, w) =
      ⟨.ok (s.event (x.packet number) :: events), more, v⟩ := by
  obtain ⟨record, handled⟩ := handleInput_ok (s := s) (w := w) (x.report_decoded number)
  rw [takeIn] at rest ⊢
  rw [arriving, if_pos arrives, List.mapM_cons, run_bind_ok handled, run_bind_ok rest]
  exact ⟨_, rfl⟩

/-- The verdict that so many lost packets lead to. -/
def verdictAfter (lost : Nat) : Verdict := if 32 ∣ lost then .inOrder else .discontinuous

/-- What a session says after it has taken in packets with so many others lost before them. -/
structure Noticed (losses : List Nat) (verdicts : List (Option Verdict)) (before after : Tracker) :
    Prop where
  verdicts : verdicts = losses.map fun lost => some (verdictAfter lost)
  inOrder : after.inOrder = before.inOrder + losses.countP fun lost => 32 ∣ lost
  discontinuities :
    after.discontinuities = before.discontinuities + losses.countP fun lost => ¬ 32 ∣ lost

/-- The verdict on a packet, given that `lost` others were lost since the last one. -/
theorem event_verdict {lost : Nat}
    (tracked : s.tracker.last? = some (Sequence.wrap (number - 1 - lost))) :
    (s.event (x.packet number)).verdict? = some (verdictAfter lost) := by
  have numbered : Sequence.wrap number =
      Sequence.wrap ((Sequence.wrap (number - 1 - lost)).val + 1 + lost) := by
    rw [Int.add_assoc, Sequence.wrap_shift]
    congr 1
    omega
  have multiple : (32 : Int) ∣ lost ↔ 32 ∣ lost := by omega
  simp only [event, packet, numbered, s.tracker.see_skipped tracked, verdictAfter, multiple]

theorem Noticed.cons {lost : Nat} {losses : List Nat} {verdicts : List (Option Verdict)}
    {after : Tracker}
    (tracked : s.tracker.last? = some (Sequence.wrap (number - 1 - lost)))
    (rest : Noticed losses verdicts (s.taken (x.packet number)).tracker after) :
    Noticed (lost :: losses) ((s.event (x.packet number)).verdict? :: verdicts) s.tracker
      after := by
  have verdict := event_verdict (x := x) tracked
  have counted := s.tracker.see_tracker (x.packet number).sequence
  rw [show (s.tracker.see (x.packet number).sequence).1 = _ from verdict] at counted
  obtain ⟨verdicts_eq, inOrder, discontinuities⟩ := rest
  simp only [taken, counted] at inOrder discontinuities
  constructor
  · rw [verdict, verdicts_eq]
    rfl
  all_goals
    by_cases multiple : 32 ∣ lost <;>
      simp [verdictAfter, multiple] at inOrder discontinuities ⊢ <;> omega

/-- Once a packet has been taken in, what is lost between it and the next ones shows. -/
theorem takeIn_tracked (shipments : List Shipment) {lost : Nat}
    (tracked : s.tracker.last? = some (Sequence.wrap (number - 1 - lost))) :
    ∃ events notes tracker, run (takeIn number shipments) (s, w) =
        ⟨.ok events, notes, ({ s with tracker }, w)⟩ ∧
      Noticed (lossesFrom lost shipments) (events.map PacketEvent.verdict?) s.tracker tracker := by
  induction shipments generalizing s number lost with
  | nil => exact ⟨[], [], s.tracker, rfl, rfl, rfl, rfl⟩
  | cons x later ih =>
      cases arrives : x.arrives with
      | false =>
          have still : s.tracker.last? =
              some (Sequence.wrap (number + 1 - 1 - (lost + 1 : Nat))) := by
            rw [tracked]
            congr 2
            omega
          rw [takeIn_lost arrives]
          simpa [lossesFrom, arrives] using ih still
      | true =>
          have last : (s.taken (x.packet number)).tracker.last? =
              some (Sequence.wrap (number + 1 - 1 - (0 : Nat))) := by
            simp [taken, Tracker.see_last, packet]
          obtain ⟨events, notes, tracker, ran, noticed⟩ := ih last
          obtain ⟨more, took⟩ := takeIn_arrived arrives ran
          refine ⟨_, more, tracker, took, ?_⟩
          simpa [lossesFrom, arrives] using noticed.cons tracked

/-- The first packet that arrives gets no verdict, whatever was lost before it. -/
theorem takeIn_untracked (number : Int) (shipments : List Shipment)
    (untracked : s.tracker.last? = none) (some_arrives : ∃ x ∈ shipments, x.arrives = true) :
    ∃ first events notes tracker, run (takeIn number shipments) (s, w) =
        ⟨.ok (first :: events), notes, ({ s with tracker }, w)⟩ ∧ first.verdict? = none ∧
      Noticed (losses shipments) (events.map PacketEvent.verdict?) s.tracker tracker := by
  induction shipments generalizing number with
  | nil => simp at some_arrives
  | cons x later ih =>
      cases arrives : x.arrives with
      | false =>
          rw [takeIn_lost arrives, losses_cons_lost arrives]
          apply ih
          simpa [arrives] using some_arrives
      | true =>
          have last : (s.taken (x.packet number)).tracker.last? =
              some (Sequence.wrap (number + 1 - 1 - (0 : Nat))) := by
            simp [taken, Tracker.see_last, packet]
          obtain ⟨events, notes, tracker, ran, noticed⟩ := takeIn_tracked (w := w) later last
          obtain ⟨more, took⟩ := takeIn_arrived arrives ran
          have unjudged := s.tracker.see_first (x.packet number).sequence untracked
          have counted := s.tracker.see_tracker (x.packet number).sequence
          rw [unjudged] at counted
          refine ⟨_, events, more, tracker, took, unjudged, ?_⟩
          rw [losses_cons_arrived arrives]
          refine ⟨noticed.verdicts, ?_, ?_⟩
          · simpa [taken, counted] using noticed.inOrder
          · simpa [taken, counted] using noticed.discontinuities

/-- The last packet that arrives is the last one that is known of. -/
theorem takeIn_last {before lost : List Shipment} (arrives : x.arrives = true)
    (gone : ∀ y ∈ lost, y.arrives = false) {events : List PacketEvent} {notes : List Note}
    {v : Session ω × ω}
    (ran : run (takeIn number (before ++ x :: lost)) (s, w) = ⟨.ok events, notes, v⟩) :
    v.1.tracker.last? = some (Sequence.wrap (number + before.length)) := by
  rw [takeIn, arriving_append, arriving, if_pos arrives, arriving_none _ gone,
    List.mapM_append] at ran
  obtain ⟨_, _, ⟨s', w'⟩, _, _, latest, _⟩ := bind_returned ran
  obtain ⟨record, handled⟩ := handleInput_ok (s := s') (w := w')
    (x.report_decoded (number + before.length))
  rw [List.mapM_cons, List.mapM_nil, bind_assoc, run_bind_ok handled] at latest
  cases latest
  exact Tracker.see_last _ _

/-- A new session that is handed what arrives of a stream judges every packet but the first one, and
    each verdict tells whether packets were lost right before it, up to multiples of 32. -/
theorem takeIn_notices (t? : Option (Transport ω)) (u? : Option (Uploader ω)) (w : ω) (start : Int)
    (shipments : List Shipment) (some_arrives : ∃ x ∈ shipments, x.arrives = true) :
    ∃ first events notes tracker, run (takeIn start shipments) (Session.new t? u?, w) =
        ⟨.ok (first :: events), notes, ({ Session.new t? u? with tracker }, w)⟩ ∧
      first.verdict? = none ∧
      events.map PacketEvent.verdict? = (losses shipments).map (fun lost =>
        some (if 32 ∣ lost then .inOrder else .discontinuous)) ∧
      tracker.inOrder = (losses shipments).countP (fun lost => 32 ∣ lost) ∧
      tracker.discontinuities = (losses shipments).countP (fun lost => ¬ 32 ∣ lost) ∧
      ∀ before x lost, shipments = before ++ x :: lost → x.arrives = true →
        (∀ y ∈ lost, y.arrives = false) →
        tracker.last? = some (Sequence.wrap (start + before.length)) := by
  obtain ⟨first, events, notes, tracker, ran, unjudged, noticed⟩ :=
    takeIn_untracked (s := Session.new t? u?) (w := w) start shipments rfl some_arrives
  refine ⟨first, events, notes, tracker, ran, unjudged, noticed.verdicts, ?_, ?_, ?_⟩
  · simpa [Session.new, Tracker.new] using noticed.inOrder
  · simpa [Session.new, Tracker.new] using noticed.discontinuities
  · rintro before x lost rfl arrives gone
    exact takeIn_last arrives gone ran

/-- The first packet is lost, then all 32 after the second one, then one more. -/
def roughRide : List Shipment :=
  [⟨false, 0, [0]⟩, ⟨true, 7, [1]⟩] ++ List.replicate 32 ⟨false, 0, []⟩ ++
    [⟨true, 0, [2]⟩, ⟨false, 0, []⟩, ⟨true, 5, []⟩]

/-- The 32 packets that were lost in a row go unnoticed, but not the single one. -/
theorem takeIn_notices_roughRide :
    (∃ x ∈ roughRide, x.arrives = true) ∧
      let o := run (takeIn 30 roughRide) (Session.new none none, ())
      o.answer.toOption.map (·.map PacketEvent.verdict?) =
        some [none, some .inOrder, some .discontinuous] ∧
      o.world.1.tracker = ⟨some 2, 1, 1⟩ := by
  have some_arrives : ∃ x ∈ roughRide, x.arrives = true :=
    ⟨⟨true, 7, [1]⟩, by simp [roughRide], rfl⟩
  obtain ⟨first, events, notes, tracker, ran, unjudged, verdicts, inOrder, discontinuities, last⟩ :=
    takeIn_notices none none () 30 roughRide some_arrives
  have known : tracker.last? = some 2 := last roughRide.dropLast ⟨true, 5, []⟩ [] rfl rfl nofun
  have lost : losses roughRide = [32, 1] := rfl
  rw [lost] at verdicts inOrder discontinuities
  refine ⟨some_arrives, ?_, ?_⟩
  · simp [ran, Except.toOption, unjudged, verdicts]
  · rw [ran]
    rcases tracker with ⟨last?, inOrder', discontinuities'⟩
    simp_all

end Session

end ChunkRelay
