import ChunkRelay.Proofs.Session.Reached

/-! # Closing a session

Closing never fails. The first time it tries to switch a running stream off, whatever comes of that,
and forgets the last sequence number. A session can be used on after that, but it cannot be closed
again: later calls return at once and leave it as it is, even if its stream is on.
-/

namespace ChunkRelay.Session

open Act

variable {ω : Type} {closed : Bool}

/-! ## Closed sessions stay closed -/

theorem kept_closed : Kept fun v : Session ω × ω => v.1.closed = closed where
  switched _ _ same := same
  feature _ _ _ _ same := same
  output _ _ _ _ same := same

theorem readFeature_closed (id : ReportId) :
    Preserves (fun v : Session ω × ω => v.1.closed = closed) (readFeature id) :=
  requireTransport_preserves fun _ _ _ same _ => same

theorem Operation.keeps_closed (op : Operation) :
    Preserves (fun v : Session ω × ω => v.1.closed = closed) op.act := by
  cases op with
  | readConfig => exact kept_closed.readConfig.discard
  | readFeatures => exact (readFeatures_preserves readFeature_closed).discard
  | readText report => exact (readText_preserves readFeature_closed report).discard
  | enable => exact kept_closed.enable
  | disable => exact kept_closed.disable
  | readPacket timeoutMs =>
      refine Preserves.discard ((readEvent_preserves ?_ ?_).bind fun _ => .pure _)
      · exact fun _ same => same
      · exact fun _ same => same
  | handleInput id bytes =>
      refine Preserves.discard fun ⟨s, w⟩ same => ?_
      rcases handleInput_outcome s w id bytes with ⟨packet, record, taken⟩ | ⟨e, refused⟩
      · rw [taken]
        exact same
      · rw [refused]
        exact same
  | forward config? packet? =>
      exact (forwardIfGiven_preserves (fun _ _ _ _ same => same) config? packet?).discard
  | process config? timeoutMs =>
      refine Preserves.discard (process_preserves ?_ ?_ ?_ config?)
      · exact fun _ same => same
      · exact fun _ same => same
      · exact fun _ _ _ _ same => same

theorem Move.keeps_closed {move : Move ω} (other : move ≠ .close) :
    Preserves (fun v => v.1.closed = closed) move.act := by
  cases move with
  | operation op => exact op.keeps_closed
  | close => exact absurd rfl other
  | updateLastSequence n => exact fun _ same => same
  | setUploader uploader? => exact fun _ same => same
  | meanwhile x => exact fun _ same => same

/-- A session is closed by closing it and by nothing else, and for good. -/
theorem after_closed (start : Session (Recorded ω) × Recorded ω) (moves : List (Move ω)) :
    (after start moves).1.closed = true ↔ start.1.closed = true ∨ .close ∈ moves := by
  induction moves generalizing start with
  | nil => simp [after]
  | cons move moves ih =>
      refine (ih (run move.act start).world).trans ?_
      by_cases closes : move = .close
      · subst closes
        have closed : (run Move.close.act start).world.1.closed = true := close_closes start
        simp [closed]
      · rw [move.keeps_closed closes start rfl, List.mem_cons]
        simp [Ne.symm closes]

/-! ## What closing comes to -/

/-- What the first call does. A stream that cannot be switched off stays on. -/
structure Quieted (t? : Option (Transport ω)) (w w' : Session (Recorded ω) × Recorded ω) :
    Prop where
  forgotten : w'.1.tracker.last? = none
  switched : ∀ t, t? = some t → w.1.streaming = true →
    let answer := (run (t.writeOutput 5 [0] requestTimeoutMs) w.2.world).answer
    w'.2.exchanges = w.2.exchanges ++ [.output 5 [0] requestTimeoutMs answer] ∧
      w'.1.streaming = !answer.isOk
  spared : w.1.streaming = false → w'.2 = w.2 ∧ w'.1.streaming = false

theorem Sound.quieted {t? : Option (Transport ω)} {w : Session (Recorded ω) × Recorded ω}
    (sound : Sound t? w) (unclosed : w.1.closed = false) :
    Quieted t? w (run Session.close w).world := by
  obtain ⟨s, r⟩ := w
  cases streaming : s.streaming with
  | false =>
      rw [close_idle unclosed (by simp [streaming])]
      refine ⟨rfl, ?_, fun _ => ⟨rfl, streaming⟩⟩
      intro t _ on
      rw [streaming] at on
      cases on
  | true =>
      cases given : t? with
      | none =>
          rw [sound.without given] at streaming
          cases streaming
      | some t =>
          have has : s.transport? = some t.recorded := by
            rw [sound.transport, given]
            rfl
          have written := run_recorded (.output 5 [0] requestTimeoutMs)
            (t.writeOutput 5 [0] requestTimeoutMs) r
          obtain ⟨record, ran⟩ := close_streaming unclosed streaming has written
          rw [ran]
          refine ⟨rfl, ?_, ?_⟩
          · rintro _ ⟨⟩ _
            exact ⟨rfl, rfl⟩
          · intro off
            rw [streaming] at off
            cases off

/-- Whatever was done before, closing returns. The first time it quiets the session, any other time
    it does nothing at all. -/
theorem reached_close (t? : Option (Transport ω)) (u? : Option (Uploader ω)) (world : ω)
    (moves : List (Move ω)) :
    let w := after (unused t? u? world) moves
    let o := run close w
    o.answer = .ok () ∧ (.close ∉ moves → Quieted t? w o.world) ∧
      (.close ∈ moves → o.notes = [] ∧ o.world = w) := by
  intro w o
  have sound : Sound t? w := (Sound.of_unused t? u? world).after moves
  have closed : w.1.closed = true ↔ .close ∈ moves :=
    (after_closed (unused t? u? world) moves).trans (or_iff_right Bool.false_ne_true)
  refine ⟨close_answer w, ?_, ?_⟩
  · intro unasked
    apply sound.quieted
    cases asked : w.1.closed with
    | false => rfl
    | true => exact absurd (closed.mp asked) unasked
  · intro asked
    have ran : o = ⟨.ok (), [], w⟩ := close_closed (closed.mpr asked)
    rw [ran]
    exact ⟨rfl, rfl⟩

/-- A session that is used on after it was closed keeps its stream and its last sequence number when
    it is closed once more, and nothing is written. -/
theorem close_again_keeps :
    let w := after (unused (some beacon) none ())
      [.close, .operation .enable, .operation (.readPacket 0)]
    let o := run close w
    w.1.streaming = true ∧ o.world.2.exchanges = w.2.exchanges ∧
      o.world.1.streaming = true ∧ o.world.1.tracker.last? = some 3 :=
  ⟨rfl, rfl, rfl, rfl⟩

end ChunkRelay.Session
