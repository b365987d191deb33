import ChunkRelay.Proofs.Bridge.Operations

/-! # What is upheld together with what is printed

Lines of output are the notes that a user of the program sees. A condition on the lines printed so
far and on the world is upheld by an action if it holds again, of all lines, after the action,
whatever became of it. Sessions and bridges print nothing of their own, so they uphold what their
collaborators uphold.
-/

namespace ChunkRelay

def Note.line? : Note → Option String
  | line text => some text
  | _ => none

/-- The lines of output among notes. -/
def printed (notes : List Note) : List String := notes.filterMap Note.line?

@[simp] theorem printed_nil : printed [] = [] := rfl

@[simp] theorem printed_log (record : LogRecord) (notes : List Note) :
    printed (.log record :: notes) = printed notes := rfl

@[simp] theorem printed_line (text : String) (notes : List Note) :
    printed (.line text :: notes) = text :: printed notes := rfl

@[simp] theorem printed_stops (stops : Bool) :
    printed (if stops then [.stopRequest] else []) = [] := by
  cases stops <;> rfl

@[simp] theorem printed_append (notes more : List Note) :
    printed (notes ++ more) = printed notes ++ printed more := List.filterMap_append

namespace Act

variable {ω τ α β : Type}

/-! ## Actions that have succeeded -/

theorem followedBy_returned {x : Act ω α} {cleanup : Act ω Unit} {a : α} {w w' : ω}
    {notes : List Note} (ran : run (x.followedBy cleanup) w = ⟨.ok a, notes, w'⟩) :
    ∃ before v after, run x w = ⟨.ok a, before, v⟩ ∧ run cleanup v = ⟨.ok (), after, w'⟩ ∧
      notes = before ++ after := by
  obtain ⟨answer, before, v, more, attempted, rest, rfl⟩ := bind_returned ran
  obtain ⟨_, after, v', last, cleaned, answered, rfl⟩ := bind_returned rest
  cases answer with
  | error e => cases answered
  | ok b =>
      rcases tried : run x w with ⟨answer, notes, world⟩
      rw [run_attempt, tried] at attempted
      cases attempted
      cases answered
      exact ⟨notes, world, after, rfl, cleaned, by rw [List.append_nil]⟩

/-- The answer is that of the action before the clean-up, unless the clean-up has a failure of its
    own. -/
theorem followedBy_answer {x : Act ω α} {cleanup : Act ω Unit} {w : ω}
    (same : ∀ e, (run cleanup (run x w).world).answer = .error e → (run x w).answer = .error e) :
    (run (x.followedBy cleanup) w).answer = (run x w).answer := by
  rw [followedBy, run_bind_ok (run_attempt x)]
  rcases cleaned : run cleanup (run x w).world with ⟨e | _, notes, w'⟩ <;> rw [cleaned] at same
  · rw [run_bind_error cleaned, same e rfl]
    rfl
  · rw [run_bind_ok cleaned]
    cases (run x w).answer <;> rfl

/-- What goes on the same way in any world lets the answers through. -/
theorem answer_bind_of {x y : Act ω α} {f g : α → Act ω β} (answer : α → Except Failure β) {w : ω}
    (same : (run x w).answer = (run y w).answer) (first : ∀ a v, (run (f a) v).answer = answer a)
    (second : ∀ a v, (run (g a) v).answer = answer a) :
    (run (x >>= f) w).answer = (run (y >>= g) w).answer := by
  rcases left : run x w with ⟨_ | a, notes, v⟩ <;>
    rcases right : run y w with ⟨_ | a', more, v'⟩ <;> rw [left, right] at same <;> cases same
  · rw [run_bind_error left, run_bind_error right]
  · rw [run_bind_ok left, run_bind_ok right, Outcome.after_answer, Outcome.after_answer, first,
      second]

theorem answer_bind_congr {x : Act ω α} {f g : α → Act ω β} {w : ω}
    (same : ∀ a w', (run (f a) w').answer = (run (g a) w').answer) :
    (run (x >>= f) w).answer = (run (x >>= g) w).answer := by
  rcases ran : run x w with ⟨e | a, notes, w'⟩
  · rw [run_bind_error ran, run_bind_error ran]
  · rw [run_bind_ok ran, run_bind_ok ran]
    exact same a w'

/-- A failure that is logged is over. -/
theorem tryCatch_log (x : Act ω Unit) (w : ω) (level : Level) (source : Source)
    (message : Failure → String) : ∃ more, printed more = [] ∧
      run (tryCatch x fun e => log level source (message e)) w =
        ⟨.ok (), (run x w).notes ++ more, (run x w).world⟩ := by
  rw [run_tryCatch]
  rcases run x w with ⟨e | _, notes, w'⟩
  · exact ⟨_, rfl, rfl⟩
  · exact ⟨[], rfl, by rw [List.append_nil]⟩

/-! ## Upholding -/

/-- Whatever becomes of the action, it leads from lines and a world of one kind to those of
    another. -/
def Leads (P : List String → ω → Prop) (x : Act ω α) (Q : List String → ω → Prop) : Prop :=
  ∀ lines w, P lines w → Q (lines ++ printed (run x w).notes) (run x w).world

/-- What held of the lines and the world before the action holds after it. -/
def Upholds (P : List String → ω → Prop) (x : Act ω α) : Prop := Leads P x P

theorem Leads.followedBy {P Q R : List String → ω → Prop} {x : Act ω α} {cleanup : Act ω Unit}
    (first : Leads P x Q) (cleaned : Leads Q cleanup R) : Leads P (x.followedBy cleanup) R := by
  intro lines w holds
  have reached := cleaned _ _ (first lines w holds)
  rw [Act.followedBy, run_bind_ok (run_attempt x)]
  rcases ran : run cleanup (run x w).world with ⟨e | _, notes, w'⟩ <;> rw [ran] at reached
  · rw [run_bind_error ran]
    simpa using reached
  · rw [run_bind_ok ran]
    cases (run x w).answer with
    | ok a => simpa [Act.ofExcept, Act.answer, run] using reached
    | error e => simpa [Act.ofExcept, Act.fail, run] using reached

namespace Upholds

variable {P : List String → ω → Prop} {x : Act ω α}

theorem of_silent (silent : ∀ w, printed (run x w).notes = [])
    (kept : ∀ lines, Preserves (P lines) x) : Upholds P x := by
  intro lines w holds
  rw [silent, List.append_nil]
  exact kept lines w holds

theorem pure (a : α) : Upholds P (Pure.pure a) := .of_silent (fun _ => rfl) fun _ => .pure a

theorem fail (e : Failure) : Upholds P (fail e : Act ω α) :=
  .of_silent (fun _ => rfl) fun _ => .fail e

theorem log (level : Level) (source : Source) (message : String) :
    Upholds P (log level source message) :=
  .of_silent (fun _ => rfl) fun _ => .log level source message

theorem ofCause (result : Except Cause α) : Upholds P (ofCause result) := by
  cases result with
  | ok a => exact .pure a
  | error cause => exact .fail _

theorem ofExcept (result : Except Failure α) : Upholds P (ofExcept result) := by
  cases result with
  | ok a => exact .pure a
  | error e => exact .fail e

theorem logNumber (level : Level) (source : Source) (n : Int) (message : String) :
    Upholds P (logNumber level source n message) := by
  rw [Act.logNumber]
  split
  · exact .log _ _ _
  · exact .pure _

theorem get : Upholds P MonadState.get := .of_silent (fun _ => rfl) fun _ => .get

theorem modify {f : ω → ω} (kept : ∀ lines w, P lines w → P lines (f w)) :
    Upholds P (modify f) := .of_silent (fun _ => rfl) fun lines => .modify (kept lines)

theorem bind {f : α → Act ω β} (first : Upholds P x) (then_ : ∀ a, Upholds P (f a)) :
    Upholds P (x >>= f) := by
  intro lines w holds
  have kept := first lines w holds
  rw [run_bind]
  rcases ran : run x w with ⟨e | a, notes, w'⟩ <;> rw [ran] at kept
  · exact kept
  · simpa using then_ a _ w' kept

theorem tryCatch {f : Failure → Act ω α} (first : Upholds P x) (handled : ∀ e, Upholds P (f e)) :
    Upholds P (tryCatch x f) := by
  intro lines w holds
  have kept := first lines w holds
  rw [run_tryCatch]
  rcases ran : run x w with ⟨e | a, notes, w'⟩ <;> rw [ran] at kept
  · simpa using handled e _ w' kept
  · exact kept

theorem attempt (first : Upholds P x) : Upholds P (attempt x) := first

end Upholds

/-! ## Yielding -/

/-- An action that succeeds leads from lines and a world of one kind to those of another, which its
    answer may be about. What it leaves behind otherwise does not matter. -/
def Yields (P : List String → ω → Prop) (x : Act ω α) (Q : α → List String → ω → Prop) : Prop :=
  ∀ lines w a notes w', P lines w → run x w = ⟨.ok a, notes, w'⟩ → Q a (lines ++ printed notes) w'

theorem Upholds.yields {P : List String → ω → Prop} {x : Act ω α} (kept : Upholds P x) :
    Yields P x fun _ => P := by
  intro lines w a notes w' holds ran
  have after := kept lines w holds
  rw [ran] at after
  exact after

namespace Yields

variable {P : List String → ω → Prop} {Q : α → List String → ω → Prop} {x : Act ω α}

theorem bind {f : α → Act ω β} {R : β → List String → ω → Prop} (first : Yields P x Q)
    (then_ : ∀ a, Yields (Q a) (f a) R) : Yields P (x >>= f) R := by
  intro lines w b notes w' holds ran
  obtain ⟨a, before, v, after, ran₁, ran₂, rfl⟩ := bind_returned ran
  rw [printed_append, ← List.append_assoc]
  exact then_ a _ v b after w' (first lines w a before v holds ran₁) ran₂

theorem followedBy {R : α → List String → ω → Prop} {cleanup : Act ω Unit} (first : Yields P x Q)
    (cleaned : ∀ a, Leads (Q a) cleanup (R a)) : Yields P (x.followedBy cleanup) R := by
  intro lines w a notes w' holds ran
  obtain ⟨before, v, after, ran₁, ran₂, rfl⟩ := followedBy_returned ran
  have left := cleaned a _ v (first lines w a before v holds ran₁)
  rw [ran₂] at left
  rw [printed_append, ← List.append_assoc]
  exact left

theorem starting (part : τ) {x : Act (τ × ω) α}
    (inside : Yields (fun lines v => P lines v.2) x fun a lines v => Q a lines v.2) :
    Yields P (starting part x) Q := by
  intro lines w a notes w' holds ran
  rcases did : run x (part, w) with ⟨answer, more, v⟩
  rw [run_starting, did] at ran
  cases ran
  exact inside lines (part, w) a _ v holds did

end Yields

end Act

open Act

variable {ω : Type}

/-! ## Sessions -/

namespace Session

/-- What the surroundings of a session uphold, given whether the session takes the stream to be on.
    After a try to switch it off it does not matter any more what the session takes it to be. -/
structure Upkeep (t : Transport ω) (R : List String → Bool → ω → Prop) : Prop where
  regardless : ∀ {lines w} (streaming : Bool), R lines false w → R lines streaming w
  feature : ∀ streaming id limit timeoutMs,
    Upholds (R · streaming) (t.readFeature id limit timeoutMs)
  input : ∀ streaming limit timeoutMs, Upholds (R · streaming) (t.readInput limit timeoutMs)
  control : ∀ {lines streaming w} (enable : Bool), R lines streaming w →
    let o := run (t.writeOutput ReportId.streamControl.code (Codec.encodeControl enable)
      requestTimeoutMs) w
    R (lines ++ printed o.notes) (enable && (streaming || o.answer.isOk)) o.world

/-- A session between its transport and its uploader. -/
structure Between (t : Transport ω) (u? : Option (Uploader ω)) (closed : Bool)
    (R : List String → Bool → ω → Prop) (lines : List String) (v : Session ω × ω) : Prop where
  transport : v.1.transport? = some t
  uploader : v.1.uploader? = u?
  closed : v.1.closed = closed
  around : R lines v.1.streaming v.2

variable {t : Transport ω} {u? : Option (Uploader ω)} {closed : Bool}
  {R : List String → Bool → ω → Prop}

theorem outside_upholds {α : Type} {x : Act ω α} (kept : ∀ streaming, Upholds (R · streaming) x) :
    Upholds (Between t u? closed R) (outside x) := by
  intro lines ⟨s, w⟩ between
  exact ⟨between.transport, between.uploader, between.closed,
    kept s.streaming lines w between.around⟩

namespace Upkeep

theorem readFeature (upkeep : Upkeep t R) (id : ReportId) :
    Upholds (Between t u? closed R) (readFeature id) := by
  intro lines ⟨s, w⟩ between
  rw [readFeature_run between.transport, run_outside]
  exact ⟨between.transport, between.uploader, between.closed,
    upkeep.feature _ _ _ _ _ _ between.around⟩

theorem readConfig (upkeep : Upkeep t R) : Upholds (Between t u? closed R) readConfig := by
  have text (id : ReportId) : Upholds (Between t u? closed R) (readText id) :=
    (upkeep.readFeature id).bind fun _ => .ofExcept _
  refine ((upkeep.readFeature _).bind fun _ => .ofExcept _).bind fun _ => (text _).bind fun _ => ?_
  exact (text _).bind fun _ => (text _).bind fun _ => (Upholds.log _ _ _).bind fun _ => .pure _

theorem readEvent (upkeep : Upkeep t R) (timeoutMs : Int) :
    Upholds (Between t u? closed R) (readEvent timeoutMs) := by
  intro lines ⟨s, w⟩ between
  have heard_ := upkeep.input s.streaming ReportId.streamData.limit timeoutMs lines w between.around
  rcases read : run (t.readInput ReportId.streamData.limit timeoutMs) w with ⟨answer, notes, w'⟩
  rw [read] at heard_
  cases understood : heard answer with
  | error e =>
      rw [readEvent_error between.transport read understood]
      exact ⟨between.transport, between.uploader, between.closed, heard_⟩
  | ok packet =>
      obtain ⟨record, taken⟩ := readEvent_ok between.transport read understood
      rw [taken]
      refine ⟨between.transport, between.uploader, between.closed, ?_⟩
      simpa [Session.taken] using heard_

theorem forward {config : DeviceConfig} (delivery : ∀ u ∈ u?, ∀ streaming payload,
      Upholds (R · streaming) (u.deliver config.dataUri config.authorization payload))
    (packet : StreamPacket) : Upholds (Between t u? closed R) (forward config packet) := by
  intro lines ⟨s, w⟩ between
  cases given : u? with
  | none =>
      rw [forward_none (between.uploader.trans given)]
      simpa [given] using between
  | some u =>
      rw [forward_some (between.uploader.trans given) rfl]
      exact ⟨between.transport, between.uploader.trans given, between.closed,
        delivery u given s.streaming packet.payload lines w between.around⟩

theorem process (upkeep : Upkeep t R) {config : DeviceConfig}
    (delivery : ∀ u ∈ u?, ∀ streaming payload,
      Upholds (R · streaming) (u.deliver config.dataUri config.authorization payload))
    (timeoutMs : Int) : Upholds (Between t u? closed R) (process (some config) timeoutMs) :=
  (upkeep.readEvent timeoutMs).bind fun event =>
    (forward delivery event.packet).bind fun _ => .pure _

theorem enable (upkeep : Upkeep t R) : Upholds (Between t u? closed R) enable := by
  intro lines ⟨s, w⟩ between
  have controlled := upkeep.control true between.around
  rcases written : run (t.writeOutput ReportId.streamControl.code (Codec.encodeControl true)
    requestTimeoutMs) w with ⟨e | count, notes, w'⟩ <;> rw [written] at controlled
  · rw [enable_error (writeControl_error between.transport written)]
    refine ⟨between.transport, between.uploader, between.closed, ?_⟩
    simpa [Except.isOk, Except.toBool] using controlled
  · rw [enable_ok (writeControl_ok between.transport written)]
    refine ⟨between.transport, between.uploader, between.closed, ?_⟩
    simpa [Except.isOk, Except.toBool] using controlled

/-- After a try to switch the stream off it is taken to be off around the session. -/
theorem disabled (upkeep : Upkeep t R) : Leads (Between t u? closed R) disable
    fun lines v => Between t u? closed R lines v ∧ R lines false v.2 := by
  intro lines ⟨s, w⟩ between
  have controlled := upkeep.control false between.around
  rcases written : run (t.writeOutput ReportId.streamControl.code (Codec.encodeControl false)
    requestTimeoutMs) w with ⟨e | count, notes, w'⟩ <;> rw [written] at controlled
  · rw [disable_error (writeControl_error between.transport written)]
    exact ⟨⟨between.transport, between.uploader, between.closed,
      upkeep.regardless _ controlled⟩, controlled⟩
  · rw [disable_ok (writeControl_ok between.transport written)]
    have off : R (lines ++ printed (notes ++
        [.log ⟨.info, Source.session.name, "STREAM_DISABLED"⟩])) false w' := by
      simpa using controlled
    exact ⟨⟨between.transport, between.uploader, between.closed, off⟩, off⟩

theorem close (upkeep : Upkeep t R) :
    Leads (Between t u? false R) close fun lines v => R lines false v.2 := by
  intro lines ⟨s, w⟩ between
  cases streaming : s.streaming with
  | false =>
      have off := between.around
      rw [streaming] at off
      rw [close_idle between.closed (by simp [streaming])]
      simpa using off
  | true =>
      have controlled := upkeep.control false between.around
      rcases written : run (t.writeOutput ReportId.streamControl.code (Codec.encodeControl false)
        requestTimeoutMs) w with ⟨answer, notes, w'⟩
      rw [written] at controlled
      obtain ⟨record, ran⟩ := close_streaming between.closed streaming between.transport written
      rw [ran]
      simpa using controlled

end Upkeep

end Session

/-! ## Bridges -/

namespace Pipeline

open Session

variable {κ : Type}

/-- A condition on a session and what is around it, whatever the bridge that drives it. -/
def Beside (P : List String → Session ω × ω → Prop) (lines : List String) (p : Pipeline κ ω) :
    Prop := P lines (p.session, p.world)

section Loop

variable {P : List String → Pipeline κ ω → Prop} {clock : Act ω Rat}

theorem isOver_upholds (timed : Upholds P (viaWorld clock)) (limits : RunLimits) (began : Rat) :
    Upholds P (isOver clock limits began) := by
  have compared (isReached? : Option (Except Defect Bool)) : Upholds P (reaches isReached?) := by
    rcases isReached? with _ | _ | _
    · exact .pure _
    · exact .fail _
    · exact .pure _
  refine Upholds.get.bind fun p => ?_
  dsimp only
  split
  · exact .pure _
  · refine (compared _).bind fun isReached => ?_
    cases isReached with
    | true => exact .pure _
    | false =>
        cases limits.seconds? with
        | none => exact .pure _
        | some limit => exact timed.bind fun _ => compared _

theorem pump_upholds {notify : κ → PacketEvent → Act (List κ × ω) Unit}
    (timed : Upholds P (viaWorld clock)) (stepped : Upholds P (step notify)) (limits : RunLimits)
    (began : Rat) (rounds : Nat) : Upholds P (pump clock notify limits began rounds) := by
  induction rounds with
  | zero => exact .pure _
  | succ rounds ih =>
      refine (isOver_upholds timed limits began).bind fun isOver => ?_
      cases isOver with
      | true => exact Upholds.get.bind fun _ => .pure _
      | false => exact stepped.bind fun _ => ih

theorem run_upholds {notify : κ → PacketEvent → Act (List κ × ω) Unit}
    (timed : Upholds P (viaWorld clock)) (stepped : Upholds P (step notify)) (limits : RunLimits)
    (rounds : Nat) : Upholds P (run clock notify limits rounds) :=
  Upholds.get.bind fun _ => (Upholds.ofCause _).bind fun _ => timed.bind fun _ =>
    pump_upholds timed stepped limits _ rounds

end Loop

section Beside

variable {α : Type} {P : List String → Session ω × ω → Prop}

theorem update_upholds (f : Bridge κ → Bridge κ) : Upholds (Beside P) (update f) :=
  .modify fun _ _ holds => holds

theorem viaSession_leads {Q : List String → Session ω × ω → Prop} {x : Act (Session ω × ω) α}
    (leads : Leads P x Q) : Leads (Beside (κ := κ) P) (viaSession x) (Beside Q) :=
  fun lines p holds => leads lines (p.session, p.world) holds

theorem viaSession_upholds {x : Act (Session ω × ω) α} (kept : Upholds P x) :
    Upholds (Beside (κ := κ) P) (viaSession x) := viaSession_leads kept

theorem survive_upholds (e : Failure) : Upholds (Beside (κ := κ) P) (survive e) := by
  rw [survive]
  split
  · exact (update_upholds _).bind fun _ => .pure _
  · split
    · exact (update_upholds _).bind fun _ => (Upholds.log _ _ _).bind fun _ => .pure _
    · split
      · exact (update_upholds _).bind fun _ => (Upholds.logNumber _ _ _ _).bind fun _ => .pure _
      · exact .fail e

theorem dispatch_upholds {notify : κ → PacketEvent → Act (List κ × ω) Unit}
    (told : ∀ callback event s, Upholds (fun lines v => P lines (s, v.2)) (notify callback event))
    (event : PacketEvent) (callbacks : List κ) :
    Upholds (Beside P) (dispatch notify event callbacks) := by
  induction callbacks with
  | nil => exact .pure _
  | cons callback rest ih =>
      have called : Upholds (Beside P) (viaCallbacks (notify callback event)) :=
        fun lines p holds => told callback event p.session lines (p.bridge.callbacks, p.world) holds
      exact (called.tryCatch fun _ => .log _ _ _).bind fun _ => ih

theorem step_upholds {notify : κ → PacketEvent → Act (List κ × ω) Unit}
    (told : ∀ callback event s, Upholds (fun lines v => P lines (s, v.2)) (notify callback event))
    (processed : ∀ config timeoutMs, Upholds P (process (some config) timeoutMs)) :
    Upholds (Beside P) (step notify) := by
  refine Upholds.get.bind fun p => (Upholds.ofCause _).bind fun config => ?_
  refine (viaSession_upholds (processed config _)).attempt.bind fun result => ?_
  cases result with
  | error e => exact survive_upholds e
  | ok event =>
      refine (update_upholds _).bind fun _ => Upholds.get.bind fun _ => ?_
      exact (dispatch_upholds told event _).bind fun _ => .pure _

variable {t : Transport ω} {u? : Option (Uploader ω)} {closed : Bool}
  {R : List String → Bool → ω → Prop}

theorem start_upholds (upkeep : Upkeep t R) :
    Upholds (Beside (κ := κ) (Between t u? closed R)) start := by
  have rebased : Upholds (Beside (κ := κ) (Between t u? closed R)) (modify fun p =>
      { p with
        bridge := { p.bridge with
          stopping := false
          discontinuityBase := p.session.tracker.discontinuities } }) :=
    .modify fun _ _ holds => holds
  refine rebased.bind fun _ => (viaSession_upholds upkeep.readConfig).bind fun _ => ?_
  refine (update_upholds _).bind fun _ => (viaSession_upholds upkeep.enable).bind fun _ => ?_
  exact (Upholds.log _ _ _).bind fun _ => .pure _

theorem leave_upholds (upkeep : Upkeep t R) :
    Upholds (Beside (κ := κ) (Between t u? closed R)) leave := by
  have disabled : Upholds (Between t u? closed R) disable := fun lines v between =>
    (upkeep.disabled lines v between).1
  refine Upholds.tryCatch ?_ fun _ => .log _ _ _
  refine (update_upholds _).bind fun _ => Upholds.get.bind fun p => ?_
  split
  · refine (viaSession_upholds disabled).bind fun _ => ?_
    exact Upholds.get.bind fun _ => .log _ _ _
  · exact Upholds.get.bind fun _ => .log _ _ _

theorem leave_answer (p : Pipeline κ ω) : (Act.run leave p).answer = .ok () := by
  obtain ⟨more, _, caught⟩ := tryCatch_log stop p .error .bridge fun _ => "BRIDGE_STOP_FAILED"
  rw [leave, caught]

end Beside

end Pipeline

end ChunkRelay
