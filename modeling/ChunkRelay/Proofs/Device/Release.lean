import ChunkRelay.Proofs.Device.Handle

/-! # Handles that are given up

A native call of report traffic that fails as the device library is known to fail means that the
device is gone. The handle is then closed, once and whatever comes of that, and nothing is done
natively until the device is opened again. The change of mode before an input report is the
exception: its failure has become one of the connection's own by the time it is looked at, so the
operation fails and the handle stays.
-/

namespace ChunkRelay.Connection

open Act

variable {σ α β : Type} {lib : NativeLibrary σ} {c c' : Connection} {t t' : Traced σ}
  {calls : List NativeCall} {e : Failure}

def Move.isTraffic : Move → Bool
  | readFeature .. | writeOutput .. | readInput .. => true
  | _ => false

def FailsToSwitch (calls : List NativeCall) : Prop :=
  ∃ wanted e, .setNonblocking wanted (.error e) ∈ calls

/-- A handle that has been given up in some calls. Only if closing it has failed in a way that
    nobody expects is that the failure that shows. -/
structure GivenUp (calls : List NativeCall) (e : Failure) (c : Connection) : Prop where
  once : calls.countP NativeCall.closes = 1
  isClosed : c.isOpen = false
  told : e.isClass .transportFailed = true ∨ .close (.error e) ∈ calls ∧ e.isDeviceFault = false

theorem givenUp_closing {told : Failure} (blamed : told.errorClass? = some .transportFailed)
    (used : ∀ call ∈ calls, call.closes = false) (closing : Except Failure Unit)
    (isClosed : c.isOpen = false) :
    GivenUp (calls ++ [.close closing]) (surfacing closing told) c where
  once := by
    have none : calls.countP NativeCall.closes = 0 := by simpa [List.countP_eq_zero] using used
    simp [none, NativeCall.closes]
  isClosed := isClosed
  told := by
    have own : told.isClass .transportFailed = true := by
      simp [Failure.isClass, blamed, ErrorClass.lineage]
    cases closing with
    | ok => exact Or.inl own
    | error e =>
        cases fault : e.isDeviceFault with
        | true =>
            left
            simpa [surfacing, fault] using own
        | false =>
            right
            simp [surfacing, fault]

/-- How report traffic ends on an open connection. -/
inductive Trafficked (c : Connection) :
    List NativeCall → Except Failure Unit → Connection → Prop where
  | unharmed {calls : List NativeCall} {answer : Except Failure Unit} {c' : Connection}
      (unstricken : ∀ call ∈ calls, call.isStricken = false)
      (switches : ¬FailsToSwitch calls) : Trafficked c calls answer c'
  | unswitched (wanted : Bool) (e : Failure) :
      Trafficked c [.setNonblocking wanted (.error e)] (.error (e.toldAs .modeChangeFailed)) c
  | givenUp {calls : List NativeCall} {e : Failure} {c' : Connection}
      (switches : ¬FailsToSwitch calls) (givenUp : GivenUp calls e c') :
      Trafficked c calls (.error e) c'

theorem Trafficked.released {answer : Except Failure Unit} {call : NativeCall}
    (trafficked : Trafficked c calls answer c') (switches : ¬FailsToSwitch calls)
    (member : call ∈ calls) (stricken : call.isStricken = true) :
    ∃ e, answer = .error e ∧ GivenUp calls e c' := by
  cases trafficked with
  | unharmed unstricken =>
      rw [unstricken call member] at stricken
      cases stricken
  | unswitched wanted e => exact absurd ⟨wanted, e, List.mem_singleton_self _⟩ switches
  | givenUp _ givenUp => exact ⟨_, rfl, givenUp⟩

theorem Trafficked.kept {answer : Except Failure Unit} {wanted : Bool}
    (trafficked : Trafficked c calls answer c')
    (member : .setNonblocking wanted (.error e) ∈ calls) :
    calls = [.setNonblocking wanted (.error e)] ∧
      answer = .error (e.toldAs .modeChangeFailed) ∧ c' = c := by
  cases trafficked with
  | unharmed _ switches | givenUp switches => exact absurd ⟨wanted, e, member⟩ switches
  | unswitched wanted' e' =>
      cases List.mem_singleton.mp member
      exact ⟨rfl, rfl, rfl⟩

/-- What was done natively, with what it came to. -/
def Ended (c : Connection) (t : Traced σ) (o : Outcome (Connection × Traced σ) α) : Prop :=
  ∃ calls, o.world.2.native = t.native ++ calls ∧
    Trafficked c calls (o.answer.map fun _ => ()) o.world.1

theorem Ended.discard {x : Act (Connection × Traced σ) α} (ended : Ended c t (run x (c, t))) :
    Ended c t (run (discard x) (c, t)) := by
  obtain ⟨calls, native, trafficked⟩ := ended
  refine ⟨calls, ?_, ?_⟩
  · simpa using native
  · rw [run_discard]
    cases answer : (run x (c, t)).answer <;> rw [answer] at trafficked <;> exact trafficked

/-- Calls of a guarded action end with closing the handle if they have failed with its device. -/
theorem guarded_ended (lib : NativeLibrary σ) {cause : String → Cause}
    (blames : ∀ reason, (Failure.ofCause (cause reason)).errorClass? = some .transportFailed)
    {x : Act (Connection × Traced σ) α} {f : α → Act (Connection × Traced σ) β}
    (looks : ∀ a w, (run (f a) w).world = w) {answer : Except Failure α} {notes : List Note}
    (ran : run x (c, t) = ⟨answer, notes, (c', t')⟩) (isOpen : c'.isOpen = true)
    (native : t'.native = t.native ++ calls) (used : ∀ call ∈ calls, call.closes = false)
    (switches : ¬FailsToSwitch calls)
    (told : ∀ call ∈ calls, call.isStricken = true →
      ∃ e, answer = .error e ∧ e.isDeviceFault = true) :
    Ended c t (run (onDeviceFault x (fun reason => do
      dropHandle lib.traced
      Act.failWith (cause reason)) >>= f) (c, t)) := by
  rcases guarded_cases lib.traced cause ran isOpen with
    ⟨harmless, kept⟩ | ⟨e, more, _, _, dropped⟩
  · refine ⟨calls, by rw [run_bind_world looks, kept, native], .unharmed ?_ switches⟩
    intro call member
    cases stricken : call.isStricken with
    | false => rfl
    | true =>
        obtain ⟨e, failed, fault⟩ := told call member stricken
        simp [harmless e failed] at fault
  · rw [run_bind_error dropped]
    refine ⟨calls ++ [.close (lib.close t'.world).answer], ?_, .givenUp ?_ ?_⟩
    · change t'.native ++ _ = _
      rw [native, List.append_assoc]
    · simpa [FailsToSwitch] using switches
    · exact givenUp_closing (blames e.message) used _ rfl

/-- A fault shows in the answer of the only call. -/
theorem stricken_told {enter : Except Failure α → NativeCall}
    (enters : ∀ answer, (enter answer).failure? = match answer with
      | .ok _ => none
      | .error e => some e) (answer : Except Failure α) :
    ∀ call ∈ [enter answer], call.isStricken = true →
      ∃ e, answer = .error e ∧ e.isDeviceFault = true := by
  intro call member stricken
  cases List.mem_singleton.mp member
  rw [NativeCall.isStricken, enters] at stricken
  cases answer with
  | ok a => cases stricken
  | error e => exact ⟨e, rfl, stricken⟩

theorem refused_ended {x : Act (Connection × Traced σ) α} {cause : Cause}
    (refused : run x (c, t) = ⟨.error (.caused cause), [], (c, t)⟩) : Ended c t (run x (c, t)) := by
  rw [refused]
  exact ⟨[], by simp, .unharmed (by simp) (by simp [FailsToSwitch])⟩

theorem readFeature_ended (lib : NativeLibrary σ) (isOpen : c.isOpen = true) (id limit : Int)
    (t : Traced σ) : Ended c t (run (readFeature lib.traced id limit) (c, t)) := by
  rcases gated_cases c t "read_feature" id with ⟨cause, refused⟩ | ⟨_, asked⟩
  · exact refused_ended (refused _)
  · rw [readFeature, asked]
    apply guarded_ended lib (fun _ => rfl) (fun _ _ => rfl) (run_native _) isOpen rfl
    · simp [NativeCall.closes]
    · simp [FailsToSwitch]
    · apply stricken_told
      rintro (_ | _) <;> rfl

theorem writeOutput_ended (lib : NativeLibrary σ) (isOpen : c.isOpen = true) (id : Int)
    (bytes : List UInt8) (t : Traced σ) :
    Ended c t (run (writeOutput lib.traced id bytes) (c, t)) := by
  have looks (count : Int) (v : Connection × Traced σ) :
      (run (if count < 0 then Act.failWith (.writeRejected id count) else pure (max (count - 1) 0))
        v).world = v := by split <;> rfl
  rcases gated_cases c t "write_output" id with ⟨cause, refused⟩ | ⟨_, asked⟩
  · exact refused_ended (refused _)
  · rw [writeOutput, asked]
    by_cases isByte : 0 ≤ id ∧ id < 256
    · rw [writeNative, if_pos isByte]
      apply guarded_ended lib (fun _ => rfl) looks (run_native _) isOpen rfl
      · simp [NativeCall.closes]
      · simp [FailsToSwitch]
      · apply stricken_told
        rintro (_ | _) <;> rfl
    · rw [writeNative, if_neg isByte]
      have silent : t.native = t.native ++ [] := (List.append_nil _).symm
      apply guarded_ended lib (fun _ => rfl) looks (run_throw _ _) isOpen silent
      · simp
      · simp [FailsToSwitch]
      · simp

theorem readInput_ended (lib : NativeLibrary σ) (isOpen : c.isOpen = true) (limit timeoutMs : Int)
    (t : Traced σ) : Ended c t (run (readInput lib.traced limit timeoutMs) (c, t)) := by
  obtain ⟨calls, answer, notes, t', ran, native, _, listening⟩ :=
    readNative_listening lib t isOpen limit timeoutMs
  rw [readInput, run_bind_ok (requireOpen_open isOpen _), Outcome.after_nil]
  cases listening with
  | waited | steady | switched =>
      refine guarded_ended lib (fun _ => rfl) ?looks ran isOpen native ?used ?switches ?told
      case looks =>
        intro bytes v
        cases bytes with
        | nil => rfl
        | cons id rest => exact (run_bind_world fun _ _ => rfl).trans (checkFilter_world _ v)
      case used => simp [NativeCall.closes]
      case switches => simp [FailsToSwitch]
      case told =>
        cases answer <;> simp [NativeCall.isStricken, NativeCall.failure?]
  | unswitched unbounded e =>
      rw [run_bind_error (onDeviceFault_other ran (e.toldAs_harmless _))]
      exact ⟨_, native, .unswitched _ e⟩

theorem Move.ended (lib : NativeLibrary σ) {move : Move} (traffic : move.isTraffic = true)
    (isOpen : c.isOpen = true) (t : Traced σ) :
    Ended c t (run (move.act lib.traced) (c, t)) := by
  cases move with
  | readFeature id limit timeoutMs => exact (readFeature_ended lib isOpen id limit t).discard
  | writeOutput id bytes timeoutMs => exact (writeOutput_ended lib isOpen id bytes t).discard
  | readInput limit timeoutMs => exact (readInput_ended lib isOpen limit timeoutMs t).discard
  | _ => cases traffic

/-! ## Closed connections -/

theorem Handled.idle {uses : NativeCall → Prop} {v v' : Connection × Traced σ}
    (handled : Handled uses v v') (isClosed : v.1.isOpen = false) :
    v'.1.isOpen = false ∧ v'.2.native = v.2.native := by
  obtain ⟨calls, native, handling⟩ := handled.calls
  rw [isClosed] at handling
  generalize v'.1.isOpen = held at handling ⊢
  cases handling
  exact ⟨rfl, by simpa using native⟩

theorem Move.idle (lib : NativeLibrary σ) {move : Move} (stays : move ≠ .openDevice)
    {v : Connection × Traced σ} (isClosed : v.1.isOpen = false) :
    let v' := (run (move.act lib.traced) v).world
    v'.1.isOpen = false ∧ v'.2.native = v.2.native := by
  obtain ⟨c, t⟩ := v
  cases move with
  | openDevice => exact absurd rfl stays
  | closeDevice => simpa [Move.act, transport, closeDevice_closed isClosed] using isClosed
  | setNonblocking nonblocking => exact (setNonblocking_handled nonblocking (c, t)).idle isClosed
  | setFilter ids? => exact ⟨isClosed, rfl⟩
  | readFeature id limit timeoutMs =>
      simp only [Move.act, transport, run_discard]
      exact (readFeature_handled id limit (c, t)).idle isClosed
  | writeOutput id bytes timeoutMs =>
      simp only [Move.act, transport, run_discard]
      rw [Connection.writeOutput, run_bind_error (requireOpen_closed isClosed _)]
      exact ⟨isClosed, rfl⟩
  | readInput limit timeoutMs =>
      simp only [Move.act, transport, run_discard]
      exact (readInput_handled limit timeoutMs (c, t)).idle isClosed

theorem after_idle (lib : NativeLibrary σ) {v : Connection × Traced σ}
    (isClosed : v.1.isOpen = false) (moves : List Move) (stays : .openDevice ∉ moves) :
    (after lib.traced v moves).1.isOpen = false ∧
      (after lib.traced v moves).2.native = v.2.native := by
  induction moves generalizing v with
  | nil => exact ⟨isClosed, rfl⟩
  | cons move moves ih =>
      rw [List.mem_cons, not_or] at stays
      have ⟨still, same⟩ := move.idle lib (Ne.symm stays.1) isClosed
      have ⟨end_, native⟩ := ih still stays.2
      exact ⟨end_, native.trans same⟩

/-- A closed connection does nothing natively until it is opened, and then it has a handle of its
    own. -/
structure Idle (lib : NativeLibrary σ) (v : Connection × Traced σ) : Prop where
  until_opened : ∀ moves, .openDevice ∉ moves → (after lib.traced v moves).2.native = v.2.native
  opened : ∀ moves, .openDevice ∉ moves →
    let o := run (openDevice lib.traced) (after lib.traced v moves)
    o.answer = .ok () → o.world.1.isOpen = true ∧
      o.world.2.native = v.2.native ++ [.opening (.ok ())]

theorem idle_closed {v : Connection × Traced σ} (isClosed : v.1.isOpen = false) : Idle lib v where
  until_opened moves stays := (after_idle lib isClosed moves stays).2
  opened := by
    intro moves stays o opened
    have ⟨still, native⟩ := after_idle lib isClosed moves stays
    obtain ⟨t', _, ⟨notes, ran, called⟩ | ⟨e, notes, ran, _⟩⟩ :=
      openDevice_closed lib still (after lib.traced v moves).2
    · have reached : o = _ := ran
      rw [reached]
      exact ⟨rfl, by rw [called, native]⟩
    · have reached : o = _ := ran
      rw [reached] at opened
      cases opened

/-! ## Traffic -/

/-- A native failure in report traffic fails the operation and costs the handle. Only a change of
    mode that has failed leaves the connection as it was. -/
theorem traffic_released (lib : NativeLibrary σ) {move : Move} (traffic : move.isTraffic = true)
    {c : Connection} (isOpen : c.isOpen = true) (t : Traced σ) :
    let o := run (move.act lib.traced) (c, t)
    ∃ calls, o.world.2.native = t.native ++ calls ∧
      (¬FailsToSwitch calls → (∃ call ∈ calls, call.isStricken = true) →
        (∃ e, o.answer = .error e ∧ GivenUp calls e o.world.1) ∧ Idle lib o.world) ∧
      ∀ wanted e, .setNonblocking wanted (.error e) ∈ calls →
        calls = [.setNonblocking wanted (.error e)] ∧
          o.answer = .error (e.toldAs .modeChangeFailed) ∧ o.world.1 = c := by
  intro o
  obtain ⟨calls, native, trafficked⟩ := move.ended lib traffic isOpen t
  have answered : o.answer.map (fun _ => ()) = o.answer := by cases o.answer <;> rfl
  change Trafficked c calls (o.answer.map fun _ => ()) o.world.1 at trafficked
  rw [answered] at trafficked
  refine ⟨calls, native, ?_, fun wanted e => trafficked.kept⟩
  rintro switches ⟨call, member, stricken⟩
  obtain ⟨e, failed, givenUp⟩ := trafficked.released switches member stricken
  exact ⟨⟨e, failed, givenUp⟩, idle_closed givenUp.isClosed⟩

/-- A library whose device is gone once it has been opened. -/
def unplugged : NativeLibrary Unit :=
  let gone := fun {α : Type} (_ : Unit) =>
    (⟨.error (.fault .system "gone"), false, ()⟩ : Reply Unit α)
  let done : Call Unit Unit := fun _ => ⟨.ok (), false, ()⟩
  { openIds := fun _ _ _ => done
    openPath := fun _ => done
    close := gone
    setNonblocking := fun _ => gone
    read := fun _ _ => gone
    write := fun _ => gone
    getFeature := fun _ _ => gone
    enumerate := fun _ _ => gone }

def plugged : Connection := ⟨⟨.null, 1, 2, .null⟩, true, false, none⟩

theorem traffic_released_unplugged :
    let move : Move := .readFeature 1 4 1000
    let o := run (move.act unplugged.traced) (plugged, Traced.new ())
    move.isTraffic = true ∧ plugged.isOpen = true ∧
      (∃ e, o.answer = .error e ∧ GivenUp o.world.2.native e o.world.1) ∧
      Idle unplugged o.world := by
  intro move o
  have traffic : move.isTraffic = true := rfl
  obtain ⟨calls, native, released, _⟩ :=
    traffic_released unplugged traffic (c := plugged) rfl (Traced.new ())
  obtain rfl : o.world.2.native = calls := native
  refine ⟨traffic, rfl, released ?_ ⟨_, List.mem_cons_self, rfl⟩⟩
  rintro ⟨wanted, e, member⟩
  cases member with
  | tail _ member => cases member with | tail _ member => cases member

/-- A poll for which the mode of the handle cannot be set leaves the handle of a device that is gone
    open. -/
theorem unswitched_keeps :
    let o := run (Move.act unplugged.traced (.readInput 64 0)) (plugged, Traced.new ())
    o.world.2.native = [.setNonblocking true (.error (.fault .system "gone"))] ∧
      o.answer = .error (.caused (.modeChangeFailed "gone")) ∧ o.world.1.isOpen = true :=
  ⟨rfl, rfl, rfl⟩

end ChunkRelay.Connection
