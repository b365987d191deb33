import ChunkRelay.Proofs.Act
import ChunkRelay.Proofs.Device.Calls

/-! # What connections do with their handles

An operation on a connection makes calls that use the handle, and it makes them only while there is
one. If such a call fails because the device is gone, the handle is closed right after it. Nothing
else happens to a handle between the call that opens it and the one that closes it.
-/

namespace ChunkRelay

/-- What a connection makes of a native failure: one that the device library is known to raise is
    told by a cause, any other is left as it is. -/
def Failure.toldAs (cause : String → Cause) (e : Failure) : Failure :=
  if e.isDeviceFault then .ofCause (cause e.message) else e

theorem Failure.toldAs_fault (cause : String → Cause) {e : Failure}
    (fault : e.isDeviceFault = true) : e.toldAs cause = .ofCause (cause e.message) := if_pos fault

theorem Failure.toldAs_other (cause : String → Cause) {e : Failure}
    (other : e.isDeviceFault = false) : e.toldAs cause = e := if_neg (by simp [other])

theorem Failure.toldAs_harmless (cause : String → Cause) (e : Failure) :
    (e.toldAs cause).isDeviceFault = false := by
  cases fault : e.isDeviceFault with
  | true =>
      rw [toldAs_fault cause fault]
      exact ofCause_harmless _
  | false => rwa [toldAs_other cause fault]

namespace Connection

open Act

section Parts

variable {σ α : Type} {lib : NativeLibrary σ} {c c' : Connection} {s s' : σ} {notes : List Note}

@[simp] theorem run_state : run state (c, s) = ⟨.ok c, [], (c, s)⟩ := rfl

@[simp] theorem run_update (f : Connection → Connection) :
    run (update f) (c, s) = ⟨.ok (), [], (f c, s)⟩ := rfl

@[simp] theorem run_native (call : Call σ α) :
    run (native call) (c, s) = ⟨(call s).answer, if (call s).stops then [.stopRequest] else [],
      (c, (call s).world)⟩ := rfl

theorem requireOpen_open (isOpen : c.isOpen = true) (operation : String) :
    run (requireOpen operation) (c, s) = ⟨.ok (), [], (c, s)⟩ := by
  simp [requireOpen, run_bind, isOpen]

theorem requireOpen_closed (isClosed : c.isOpen = false) (operation : String) :
    run (requireOpen operation) (c, s) = ⟨.error (.caused (.notOpen operation)), [], (c, s)⟩ := by
  simp [requireOpen, run_bind, isClosed]

theorem checkFilter_unset (unset : c.filter? = none) (id : Int) :
    run (checkFilter id) (c, s) = ⟨.ok (), [], (c, s)⟩ := by
  simp [checkFilter, run_bind, unset]

theorem checkFilter_inside {allowed : List Int} {id : Int} (filter : c.filter? = some allowed)
    (inside : id ∈ allowed) : run (checkFilter id) (c, s) = ⟨.ok (), [], (c, s)⟩ := by
  simp [checkFilter, run_bind, filter, inside]

theorem checkFilter_outside {allowed : List Int} {id : Int} (filter : c.filter? = some allowed)
    (outside : id ∉ allowed) :
    run (checkFilter id) (c, s) =
      ⟨.error (.caused (.filteredOut id (allowed.mergeSort (· ≤ ·)))), [], (c, s)⟩ := by
  simp [checkFilter, run_bind, filter, outside]

theorem checkFilter_cases (c : Connection) (s : σ) (id : Int) :
    run (checkFilter id) (c, s) = ⟨.ok (), [], (c, s)⟩ ∨
      ∃ allowed, run (checkFilter id) (c, s) =
        ⟨.error (.caused (.filteredOut id allowed)), [], (c, s)⟩ := by
  cases filter : c.filter? with
  | none => exact Or.inl (checkFilter_unset filter id)
  | some allowed =>
      by_cases inside : id ∈ allowed
      · exact Or.inl (checkFilter_inside filter inside)
      · exact Or.inr ⟨_, checkFilter_outside filter inside⟩

/-- What needs a handle and a filter that lets an id pass comes to nothing without them. -/
theorem gated_cases (c : Connection) (s : σ) (operation : String) (id : Int) :
    (∃ cause, ∀ {α : Type} (x : Act (Connection × σ) α),
      run (do requireOpen operation; checkFilter id; x) (c, s) =
        ⟨.error (.caused cause), [], (c, s)⟩) ∨
    c.isOpen = true ∧ ∀ {α : Type} (x : Act (Connection × σ) α),
      run (do requireOpen operation; checkFilter id; x) (c, s) = run x (c, s) := by
  cases isOpen : c.isOpen with
  | false =>
      left
      exact ⟨_, fun x => run_bind_error (requireOpen_closed isOpen operation)⟩
  | true =>
      rcases checkFilter_cases c s id with passes | ⟨allowed, refused⟩
      · right
        refine ⟨rfl, fun x => ?_⟩
        rw [run_bind_ok (requireOpen_open isOpen operation), run_bind_ok passes]
        rfl
      · left
        refine ⟨.filteredOut id allowed, fun x => ?_⟩
        rw [run_bind_ok (requireOpen_open isOpen operation), run_bind_error refused]
        rfl

/-- A filter looks at an id and at nothing else. -/
theorem checkFilter_world (id : Int) (v : Connection × σ) : (run (checkFilter id) v).world = v := by
  obtain ⟨c, s⟩ := v
  rcases checkFilter_cases c s id with passes | ⟨allowed, refused⟩
  · rw [passes]
  · rw [refused]

variable {x : Act (Connection × σ) α} {handle : String → Act (Connection × σ) α}

theorem onDeviceFault_ok {a : α} (ran : run x (c, s) = ⟨.ok a, notes, (c', s')⟩) :
    run (onDeviceFault x handle) (c, s) = ⟨.ok a, notes, (c', s')⟩ := by
  rw [onDeviceFault, run_tryCatch, ran]

theorem onDeviceFault_fault {e : Failure} (ran : run x (c, s) = ⟨.error e, notes, (c', s')⟩)
    (fault : e.isDeviceFault = true) :
    run (onDeviceFault x handle) (c, s) = (run (handle e.message) (c', s')).after notes := by
  rw [onDeviceFault, run_tryCatch, ran]
  simp [fault]

theorem onDeviceFault_other {e : Failure} (ran : run x (c, s) = ⟨.error e, notes, (c', s')⟩)
    (other : e.isDeviceFault = false) :
    run (onDeviceFault x handle) (c, s) = ⟨.error e, notes, (c', s')⟩ := by
  rw [onDeviceFault, run_tryCatch, ran]
  simp [other]

theorem onDeviceFault_told (x : Act (Connection × σ) α) (cause : String → Cause)
    (v : Connection × σ) :
    run (onDeviceFault x fun reason => Act.failWith (cause reason)) v =
      ⟨(run x v).answer.mapError (Failure.toldAs cause), (run x v).notes, (run x v).world⟩ := by
  obtain ⟨c, s⟩ := v
  rcases ran : run x (c, s) with ⟨e | a, notes, c', s'⟩
  · have answered : (Except.error e : Except Failure α).mapError (Failure.toldAs cause) =
        .error (e.toldAs cause) := rfl
    cases fault : e.isDeviceFault with
    | true =>
        rw [onDeviceFault_fault ran fault, answered, Failure.toldAs_fault cause fault]
        simp
    | false => rw [onDeviceFault_other ran fault, answered, Failure.toldAs_other cause fault]
  · rw [onDeviceFault_ok ran]
    rfl

section Preserved

variable {P : Connection × σ → Prop}

theorem requireOpen_preserves (operation : String) : Preserves P (requireOpen operation) := by
  intro ⟨c, s⟩ holds
  cases isOpen : c.isOpen with
  | true => rwa [requireOpen_open isOpen]
  | false => rwa [requireOpen_closed isOpen]

theorem checkFilter_preserves (id : Int) : Preserves P (checkFilter id) := by
  intro v holds
  rwa [checkFilter_world]

theorem onDeviceFault_preserves (first : Preserves P x)
    (handled : ∀ reason, Preserves P (handle reason)) : Preserves P (onDeviceFault x handle) := by
  apply first.tryCatch
  intro e
  split
  · exact handled _
  · exact .fail e

end Preserved

theorem setNonblocking_run (lib : NativeLibrary σ) (isOpen : c.isOpen = true) (nonblocking : Bool)
    (s : σ) :
    let reply := lib.setNonblocking nonblocking s
    run (setNonblocking lib nonblocking) (c, s) =
      ⟨reply.answer.mapError (Failure.toldAs .modeChangeFailed),
        if reply.stops then [.stopRequest] else [],
        ({ c with nonblocking := if reply.answer.isOk then nonblocking else c.nonblocking },
          reply.world)⟩ := by
  have told := onDeviceFault_told (native (lib.setNonblocking nonblocking)) .modeChangeFailed (c, s)
  rw [run_native] at told
  dsimp only
  rw [setNonblocking, run_bind_ok (requireOpen_open isOpen _), Outcome.after_nil]
  cases changed : (lib.setNonblocking nonblocking s).answer with
  | ok =>
      rw [changed] at told
      rw [run_bind_ok told, run_update, Outcome.after_mk, List.append_nil]
      rfl
  | error e =>
      rw [changed] at told
      rw [run_bind_error told]
      rfl

/-- The failure that shows once a handle has been given up: the given one, unless closing the handle
    has failed in a way that nobody expects. -/
def surfacing (closing : Except Failure Unit) (given : Failure) : Failure :=
  match closing with
  | .ok _ => given
  | .error e => if e.isDeviceFault then given else e

theorem dropHandle_fail (lib : NativeLibrary σ) (isOpen : c.isOpen = true) (cause : Cause) :
    ∃ notes, run (do dropHandle lib; (Act.failWith cause : Act (Connection × σ) α)) (c, s) =
      ⟨.error (surfacing (lib.close s).answer (.ofCause cause)), notes,
        ({ c with isOpen := false }, (lib.close s).world)⟩ := by
  have closing : run (native lib.close) ({ c with isOpen := false }, s) =
      ⟨(lib.close s).answer, if (lib.close s).stops then [.stopRequest] else [],
        ({ c with isOpen := false }, (lib.close s).world)⟩ := run_native _
  have opened : run (dropHandle lib) (c, s) = run (onDeviceFault (native lib.close) fun reason =>
      Act.log .debug .device ("HID_CLOSE_AFTER_ERROR_FAILED err=" ++ reason))
        ({ c with isOpen := false }, s) := by
    rw [dropHandle, run_bind_ok run_state, if_pos isOpen, run_bind_ok (run_update _)]
    rfl
  cases closed : (lib.close s).answer with
  | ok =>
      rw [closed] at closing
      rw [run_bind_ok (opened.trans (onDeviceFault_ok closing))]
      exact ⟨_, rfl⟩
  | error e =>
      rw [closed] at closing
      cases fault : e.isDeviceFault with
      | true =>
          rw [run_bind_ok (opened.trans (onDeviceFault_fault closing fault))]
          exact ⟨_, by simp [surfacing, fault]; rfl⟩
      | false =>
          rw [run_bind_error (opened.trans (onDeviceFault_other closing fault))]
          exact ⟨_, by simp [surfacing, fault]; rfl⟩

/-- A fault of the device costs the handle. -/
theorem guarded_fault (lib : NativeLibrary σ) (cause : String → Cause) {e : Failure}
    (ran : run x (c, s) = ⟨.error e, notes, (c', s')⟩) (isOpen : c'.isOpen = true)
    (fault : e.isDeviceFault = true) : ∃ more,
    run (onDeviceFault x fun reason => do dropHandle lib; Act.failWith (cause reason)) (c, s) =
      ⟨.error (surfacing (lib.close s').answer (.ofCause (cause e.message))), more,
        ({ c' with isOpen := false }, (lib.close s').world)⟩ := by
  obtain ⟨more, dropped⟩ := dropHandle_fail (α := α) lib (s := s') isOpen (cause e.message)
  rw [onDeviceFault_fault ran fault, dropped]
  exact ⟨_, rfl⟩

/-- A fault of the device costs the handle; all else leaves it alone. -/
theorem guarded_cases (lib : NativeLibrary σ) (cause : String → Cause)
    {answer : Except Failure α} (ran : run x (c, s) = ⟨answer, notes, (c', s')⟩)
    (isOpen : c'.isOpen = true) :
    ((∀ e, answer = .error e → e.isDeviceFault = false) ∧
      run (onDeviceFault x fun reason => do dropHandle lib; Act.failWith (cause reason)) (c, s) =
        ⟨answer, notes, (c', s')⟩) ∨
    ∃ e more, answer = .error e ∧ e.isDeviceFault = true ∧
      run (onDeviceFault x fun reason => do dropHandle lib; Act.failWith (cause reason)) (c, s) =
        ⟨.error (surfacing (lib.close s').answer (.ofCause (cause e.message))), more,
          ({ c' with isOpen := false }, (lib.close s').world)⟩ := by
  cases answer with
  | ok a => exact Or.inl ⟨nofun, onDeviceFault_ok ran⟩
  | error e =>
      cases fault : e.isDeviceFault with
      | false =>
          left
          refine ⟨?_, onDeviceFault_other ran fault⟩
          rintro _ ⟨⟩
          exact fault
      | true =>
          right
          obtain ⟨more, dropped⟩ := guarded_fault lib cause ran isOpen fault
          exact ⟨e, more, rfl, fault, dropped⟩

theorem openDevice_open (isOpen : c.isOpen = true) :
    run (openDevice lib) (c, s) = ⟨.ok (), [], (c, s)⟩ := by
  rw [openDevice, run_bind_ok run_state, if_pos isOpen]
  rfl

theorem closeDevice_closed (isClosed : c.isOpen = false) :
    run (closeDevice lib) (c, s) = ⟨.ok (), [], (c, s)⟩ := by
  rw [closeDevice, run_bind_ok run_state, if_neg (by simp [isClosed])]
  rfl

theorem closeDevice_open (lib : NativeLibrary σ) (isOpen : c.isOpen = true) : ∃ notes,
    run (closeDevice lib) (c, s) =
      ⟨(lib.close s).answer, notes, ({ c with isOpen := false }, (lib.close s).world)⟩ := by
  rw [closeDevice, run_bind_ok run_state, if_pos isOpen, followedBy, run_bind_ok (run_attempt _),
    run_native, run_bind_ok (run_update _)]
  cases (lib.close s).answer with
  | ok => exact ⟨_, rfl⟩
  | error e => exact ⟨_, rfl⟩

/-! ## Calls that succeed -/

theorem readFeature_ok {id limit : Int} {bytes : List UInt8} (isOpen : c.isOpen = true)
    (unset : c.filter? = none) (answered : (lib.getFeature id (limit + 1) s).answer = .ok bytes) :
    ∃ notes, run (readFeature lib id limit) (c, s) =
      ⟨.ok (window bytes 1 (1 + limit)), notes, (c, (lib.getFeature id (limit + 1) s).world)⟩ := by
  rw [readFeature, run_bind_ok (requireOpen_open isOpen _),
    run_bind_ok (checkFilter_unset unset id),
    run_bind_ok (onDeviceFault_ok (by rw [run_native, answered]))]
  exact ⟨_, rfl⟩

theorem writeOutput_ok {id count : Int} {bytes : List UInt8} (isByte : 0 ≤ id ∧ id < 256)
    (isOpen : c.isOpen = true) (unset : c.filter? = none)
    (answered : (lib.write (UInt8.ofNat id.toNat :: bytes) s).answer = .ok count)
    (taken : 0 < count) :
    ∃ notes, run (writeOutput lib id bytes) (c, s) =
      ⟨.ok (count - 1), notes, (c, (lib.write (UInt8.ofNat id.toNat :: bytes) s).world)⟩ := by
  have written : run (writeNative lib id bytes) (c, s) = ⟨.ok count,
      if (lib.write (UInt8.ofNat id.toNat :: bytes) s).stops then [.stopRequest] else [],
      (c, (lib.write (UInt8.ofNat id.toNat :: bytes) s).world)⟩ := by
    rw [writeNative, if_pos isByte, run_native, answered]
  rw [writeOutput, run_bind_ok (requireOpen_open isOpen _),
    run_bind_ok (checkFilter_unset unset id), run_bind_ok (onDeviceFault_ok written),
    if_neg (by omega), Int.max_eq_left (by omega)]
  exact ⟨_, rfl⟩

theorem readInput_answered {limit timeoutMs : Int} {bytes : List UInt8} (positive : 0 < timeoutMs)
    (isOpen : c.isOpen = true) (unset : c.filter? = none)
    (answered : (lib.read (limit + 1) (some timeoutMs) s).answer = .ok bytes) :
    ∃ notes, run (readInput lib limit timeoutMs) (c, s) =
      ⟨match bytes with
        | [] => .error (.ofCause (.noReport timeoutMs))
        | id :: _ => .ok (id.toNat, window bytes 1 (1 + limit)),
        notes, (c, (lib.read (limit + 1) (some timeoutMs) s).world)⟩ := by
  have heard : run (readNative lib limit timeoutMs) (c, s) = ⟨.ok bytes,
      if (lib.read (limit + 1) (some timeoutMs) s).stops then [.stopRequest] else [],
      (c, (lib.read (limit + 1) (some timeoutMs) s).world)⟩ := by
    rw [readNative, if_pos positive, run_native, answered]
  rw [readInput, run_bind_ok (requireOpen_open isOpen _), run_bind_ok (onDeviceFault_ok heard)]
  cases bytes with
  | nil => exact ⟨_, rfl⟩
  | cons id rest =>
      dsimp only
      rw [run_bind_ok (checkFilter_unset unset _)]
      exact ⟨_, rfl⟩

end Parts

/-! ## Operations on record -/

variable {σ α : Type} {lib : NativeLibrary σ} {c : Connection} {t : Traced σ}
  {uses : NativeCall → Prop}

/-- What becomes of a handle, held or not, in the course of some calls: each of them uses it, and it
    is closed at most at the end, right after a call that found the device gone. -/
inductive Handling (uses : NativeCall → Prop) : Bool → List NativeCall → Bool → Prop where
  | idle (held : Bool) : Handling uses held [] held
  | used {calls : List NativeCall} (all : ∀ call ∈ calls, uses call) : Handling uses true calls true
  | dropped {calls : List NativeCall} {call : NativeCall} (answer : Except Failure Unit)
      (all : ∀ call ∈ calls, uses call) (last : calls.getLast? = some call)
      (faulty : call.isFaulty = true) : Handling uses true (calls ++ [.close answer]) false

/-- What an operation leaves behind, told by its calls. -/
structure Handled (uses : NativeCall → Prop) (v v' : Connection × Traced σ) : Prop where
  calls : ∃ calls, v'.2.native = v.2.native ++ calls ∧ Handling uses v.1.isOpen calls v'.1.isOpen
  http : v'.2.http = v.2.http
  filter : v'.1.filter? = v.1.filter?

theorem Handled.refl (v : Connection × Traced σ) : Handled uses v v :=
  ⟨⟨[], (List.append_nil _).symm, .idle _⟩, rfl, rfl⟩

/-- Calls that use the handle and let it be. A fault of the device shows in the last of them. -/
structure Used (uses : NativeCall → Prop) (v : Connection × Traced σ)
    (o : Outcome (Connection × Traced σ) α) : Prop where
  calls : ∃ calls, o.world.2.native = v.2.native ++ calls ∧ (∀ call ∈ calls, uses call) ∧
    ∀ e, o.answer = .error e → e.isDeviceFault = true →
      ∃ call, calls.getLast? = some call ∧ call.isFaulty = true
  http : o.world.2.http = v.2.http
  isOpen : o.world.1.isOpen = true
  filter : o.world.1.filter? = v.1.filter?

theorem native_used {enter : Except Failure α → NativeCall} (call : Call σ α)
    (isOpen : c.isOpen = true) (fits : ∀ answer, uses (enter answer))
    (faulty : ∀ e, (enter (.error e)).isFaulty = e.isDeviceFault) :
    Used uses (c, t) (run (native (call.asNative enter)) (c, t)) where
  calls := by
    refine ⟨[enter (call t.world).answer], rfl, ?_, ?_⟩
    · simpa using fits _
    · intro e failed fault
      have answered : (call t.world).answer = .error e := failed
      refine ⟨enter (.error e), by rw [answered]; rfl, ?_⟩
      rw [faulty, fault]
  http := rfl
  isOpen := isOpen
  filter := rfl

theorem guarded_handled (lib : NativeLibrary σ) (cause : String → Cause)
    {x : Act (Connection × Traced σ) α} (isOpen : c.isOpen = true)
    (used : Used uses (c, t) (run x (c, t))) :
    Handled uses (c, t) (run (onDeviceFault x fun reason => do
      dropHandle lib.traced
      Act.failWith (cause reason)) (c, t)).world := by
  obtain ⟨⟨calls, native, all, faulty⟩, http, stillOpen, filter⟩ := used
  rcases ran : run x (c, t) with ⟨answer, notes, c', t'⟩
  rw [ran] at native faulty http stillOpen filter
  rcases guarded_cases lib.traced cause ran stillOpen with
    ⟨_, kept⟩ | ⟨e, more, failed, fault, dropped⟩
  · rw [kept]
    refine ⟨⟨calls, native, ?_⟩, http, filter⟩
    rw [isOpen, stillOpen]
    exact .used all
  · obtain ⟨call, last, isFaulty⟩ := faulty e failed fault
    rw [dropped]
    refine ⟨⟨calls ++ [.close (lib.close t'.world).answer], ?_, ?_⟩, http, filter⟩
    · change t'.native ++ _ = _
      rw [native, List.append_assoc]
    · rw [isOpen]
      exact .dropped _ all last isFaulty

theorem readFeature_handled (id limit : Int) (v : Connection × Traced σ) :
    Handled (fun call => ∃ answer, call = .getFeature id (limit + 1) answer) v
      (run (readFeature lib.traced id limit) v).world := by
  obtain ⟨c, t⟩ := v
  rcases gated_cases c t "read_feature" id with ⟨cause, refused⟩ | ⟨isOpen, asked⟩
  · rw [readFeature, refused]
    exact .refl _
  · rw [readFeature, asked, run_bind_world fun _ _ => rfl]
    exact guarded_handled lib (.featureReadFailed id) isOpen
      (native_used _ isOpen (fun answer => ⟨answer, rfl⟩) fun _ => rfl)

/-- Whether a call belongs to waiting for an input report. -/
def listens : NativeCall → Prop
  | .setNonblocking .. | .read .. => True
  | _ => False

theorem setNonblocking_handled (nonblocking : Bool) (v : Connection × Traced σ) :
    Handled listens v (run (setNonblocking lib.traced nonblocking) v).world := by
  obtain ⟨c, t⟩ := v
  cases isOpen : c.isOpen with
  | false =>
      rw [setNonblocking, run_bind_error (requireOpen_closed isOpen _)]
      exact .refl _
  | true =>
      rw [setNonblocking_run lib.traced isOpen]
      refine ⟨⟨_, rfl, ?_⟩, rfl, rfl⟩
      rw [isOpen]
      exact .used (by simp [listens])

/-- The native calls of a wait for an input report, for a timeout and the mode that the connection
    remembers, with what they come to. -/
inductive Listening (size timeoutMs : Int) (nonblocking : Bool) :
    List NativeCall → Except Failure (List UInt8) → Prop where
  | waited (bounded : 0 < timeoutMs) (answer : Except Failure (List UInt8)) :
      Listening size timeoutMs nonblocking [.read size (some timeoutMs) answer] answer
  | steady (unbounded : ¬0 < timeoutMs) (right : nonblocking = decide (timeoutMs = 0))
      (answer : Except Failure (List UInt8)) :
      Listening size timeoutMs nonblocking [.read size none answer] answer
  | switched (unbounded : ¬0 < timeoutMs) (answer : Except Failure (List UInt8)) :
      Listening size timeoutMs nonblocking
        [.setNonblocking (decide (timeoutMs = 0)) (.ok ()), .read size none answer] answer
  | unswitched (unbounded : ¬0 < timeoutMs) (e : Failure) :
      Listening size timeoutMs nonblocking [.setNonblocking (decide (timeoutMs = 0)) (.error e)]
        (.error (e.toldAs .modeChangeFailed))

theorem readNative_listening (lib : NativeLibrary σ) (t : Traced σ) (isOpen : c.isOpen = true)
    (limit timeoutMs : Int) :
    ∃ calls answer notes t', run (readNative lib.traced limit timeoutMs) (c, t) =
        ⟨answer, notes, ({ c with nonblocking := calls.foldl NativeCall.modeAfter c.nonblocking },
          t')⟩ ∧
      t'.native = t.native ++ calls ∧ t'.http = t.http ∧
      Listening (limit + 1) timeoutMs c.nonblocking calls answer := by
  rw [readNative]
  by_cases bounded : 0 < timeoutMs
  · rw [if_pos bounded]
    exact ⟨[.read (limit + 1) (some timeoutMs) _], _, _, _, rfl, rfl, rfl, .waited bounded _⟩
  · rw [if_neg bounded]
    dsimp only
    rw [run_bind_ok run_state]
    by_cases changes : (timeoutMs = 0) ≠ (c.nonblocking = true)
    · -- The mode is set first. If that fails the read is left out.
      rw [if_pos changes]
      have set := setNonblocking_run lib.traced isOpen (decide (timeoutMs = 0)) t
      dsimp only at set
      cases switched : (lib.setNonblocking (decide (timeoutMs = 0)) t.world).answer with
      | error e =>
          have failed : (lib.traced.setNonblocking (decide (timeoutMs = 0)) t).answer = .error e :=
            switched
          rw [failed] at set
          refine ⟨[.setNonblocking _ (.error e)], _, _, _, run_bind_error set, ?_, rfl,
            .unswitched bounded e⟩
          rw [← switched]
          rfl
      | ok =>
          have returned : (lib.traced.setNonblocking (decide (timeoutMs = 0)) t).answer = .ok () :=
            switched
          rw [returned] at set
          refine ⟨[.setNonblocking _ (.ok ()), .read (limit + 1) none _], _, _, _,
            run_bind_ok set, ?_, rfl, .switched bounded _⟩
          rw [← switched]
          exact List.append_assoc _ _ _
    · rw [if_neg changes]
      refine ⟨[.read (limit + 1) none _], _, _, _, rfl, rfl, rfl, .steady bounded ?_ _⟩
      rw [ne_eq, Classical.not_not, eq_iff_iff] at changes
      rw [Bool.eq_iff_iff, decide_eq_true_iff, changes]

theorem Listening.listens {size timeoutMs : Int} {nonblocking : Bool} {calls : List NativeCall}
    {answer : Except Failure (List UInt8)}
    (listening : Listening size timeoutMs nonblocking calls answer) :
    ∀ call ∈ calls, Connection.listens call := by
  cases listening <;> simp [Connection.listens]

theorem Listening.faulty {size timeoutMs : Int} {nonblocking : Bool} {calls : List NativeCall}
    {answer : Except Failure (List UInt8)} {e : Failure}
    (listening : Listening size timeoutMs nonblocking calls answer) (failed : answer = .error e)
    (fault : e.isDeviceFault = true) :
    ∃ call, calls.getLast? = some call ∧ call.isFaulty = true := by
  cases listening with
  | waited | steady | switched =>
      subst failed
      exact ⟨_, rfl, fault⟩
  | unswitched unbounded refusal =>
      cases failed
      rw [Failure.toldAs_harmless] at fault
      cases fault

theorem readNative_used (lib : NativeLibrary σ) (t : Traced σ) (isOpen : c.isOpen = true)
    (limit timeoutMs : Int) :
    Used listens (c, t) (run (readNative lib.traced limit timeoutMs) (c, t)) := by
  obtain ⟨calls, answer, notes, t', ran, native, http, listening⟩ :=
    readNative_listening lib t isOpen limit timeoutMs
  rw [ran]
  exact ⟨⟨calls, native, listening.listens, fun _ failed fault => listening.faulty failed fault⟩,
    http, isOpen, rfl⟩

/-- What is made of the bytes that were read changes nothing. -/
theorem readInput_world {lib : NativeLibrary σ} {s : σ} (isOpen : c.isOpen = true)
    (limit timeoutMs : Int) :
    (run (readInput lib limit timeoutMs) (c, s)).world =
      (run (onDeviceFault (readNative lib limit timeoutMs) fun reason => do
        dropHandle lib
        Act.failWith (.readFailed reason)) (c, s)).world := by
  rw [readInput, run_bind_ok (requireOpen_open isOpen _), Outcome.after_world, run_bind_world]
  intro bytes v
  cases bytes with
  | nil => rfl
  | cons id rest => exact (run_bind_world fun _ _ => rfl).trans (checkFilter_world _ v)

theorem readInput_handled (limit timeoutMs : Int) (v : Connection × Traced σ) :
    Handled listens v (run (readInput lib.traced limit timeoutMs) v).world := by
  obtain ⟨c, t⟩ := v
  cases isOpen : c.isOpen with
  | false =>
      rw [readInput, run_bind_error (requireOpen_closed isOpen _)]
      exact .refl _
  | true =>
      rw [readInput_world isOpen]
      exact guarded_handled lib .readFailed isOpen (readNative_used lib t isOpen limit timeoutMs)

theorem writeNative_used (lib : NativeLibrary σ) (t : Traced σ) {id : Int}
    (isByte : 0 ≤ id ∧ id < 256) (isOpen : c.isOpen = true) (bytes : List UInt8) :
    Used (fun call => ∃ answer, call = .write (UInt8.ofNat id.toNat :: bytes) answer) (c, t)
      (run (writeNative lib.traced id bytes) (c, t)) := by
  rw [writeNative, if_pos isByte]
  exact native_used _ isOpen (fun answer => ⟨answer, rfl⟩) fun _ => rfl

theorem writeOutput_handled {id : Int} (isByte : 0 ≤ id ∧ id < 256) (bytes : List UInt8)
    (v : Connection × Traced σ) :
    Handled (fun call => ∃ answer, call = .write (UInt8.ofNat id.toNat :: bytes) answer) v
      (run (writeOutput lib.traced id bytes) v).world := by
  obtain ⟨c, t⟩ := v
  rcases gated_cases c t "write_output" id with ⟨cause, refused⟩ | ⟨isOpen, asked⟩
  · rw [writeOutput, refused]
    exact .refl _
  · rw [writeOutput, asked, run_bind_world]
    · exact guarded_handled lib (.writeFailed id) isOpen
        (writeNative_used lib t isByte isOpen bytes)
    · intro count v
      split <;> rfl

/-- A report is written by one call, after which the handle may have to be given up. -/
theorem writeOutput_open (lib : NativeLibrary σ) {id : Int} (isByte : 0 ≤ id ∧ id < 256)
    (isOpen : c.isOpen = true) (unset : c.filter? = none) (bytes : List UInt8) (t : Traced σ) :
    let call := lib.traced.write (UInt8.ofNat id.toNat :: bytes)
    let o := run (writeOutput lib.traced id bytes) (c, t)
    (o.world = (c, (call t).world) ∧
      ∀ e n, o.answer = .error e → (call t).answer = .ok n → n < 0) ∨
    ∃ e, (call t).answer = .error e ∧ e.isDeviceFault = true ∧
      o.world = ({ c with isOpen := false }, (lib.traced.close (call t).world).world) := by
  have written : run (writeNative lib.traced id bytes) (c, t) =
      run (native (lib.traced.write (UInt8.ofNat id.toNat :: bytes))) (c, t) := by
    rw [writeNative, if_pos isByte]
  rw [run_native] at written
  dsimp only
  rw [writeOutput, run_bind_ok (requireOpen_open isOpen _),
    run_bind_ok (checkFilter_unset unset id)]
  rcases guarded_cases lib.traced (.writeFailed id) written isOpen with
    ⟨_, kept⟩ | ⟨e, more, failed, fault, dropped⟩
  · left
    cases answered : (lib.traced.write (UInt8.ofNat id.toNat :: bytes) t).answer with
    | error e =>
        rw [answered] at kept
        rw [run_bind_error kept]
        exact ⟨rfl, nofun⟩
    | ok count =>
        rw [answered] at kept
        rw [run_bind_ok kept]
        by_cases rejected : count < 0
        · rw [if_pos rejected]
          refine ⟨rfl, ?_⟩
          rintro e n _ ⟨⟩
          exact rejected
        · rw [if_neg rejected]
          exact ⟨rfl, nofun⟩
  · right
    rw [run_bind_error dropped]
    exact ⟨e, failed, fault, rfl⟩

/-- An id that is no byte is found out before the native call, but it costs the handle. -/
theorem writeOutput_unwritable (lib : NativeLibrary σ) {id : Int}
    (noByte : ¬(0 ≤ id ∧ id < 256)) (bytes : List UInt8) (c : Connection) (t : Traced σ) :
    (run (writeOutput lib.traced id bytes) (c, t)).world = (c, t) ∨
    c.isOpen = true ∧ (run (writeOutput lib.traced id bytes) (c, t)).world =
      ({ c with isOpen := false }, (lib.traced.close t).world) := by
  rcases gated_cases c t "write_output" id with ⟨cause, refused⟩ | ⟨isOpen, asked⟩
  · left
    rw [writeOutput, refused]
  · right
    have unwritten : run (writeNative lib.traced id bytes) (c, t) =
        ⟨.error (.fault .value "bytes must be in range(0, 256)"), [], (c, t)⟩ := by
      rw [writeNative, if_neg noByte]
      rfl
    rcases guarded_cases lib.traced (.writeFailed id) unwritten isOpen with
      ⟨harmless, _⟩ | ⟨e, notes, _, _, dropped⟩
    · cases harmless _ rfl
    · rw [writeOutput, asked, run_bind_error dropped]
      exact ⟨isOpen, rfl⟩

/-! ## Opening -/

/-- A device is opened by one native call, unless its address rules that out. -/
theorem openNative_run (lib : NativeLibrary σ) (address : DeviceAddress) (c : Connection)
    (t : Traced σ) :
    ∃ answer notes t', run (openNative lib.traced address) (c, t) = ⟨answer, notes, (c, t')⟩ ∧
      t'.http = t.http ∧ (t'.native = t.native ++ [.opening answer] ∨
        answer.isOk = false ∧ t'.native = t.native) := by
  rw [openNative]
  split
  · cases address.path with
    | text path => exact ⟨_, _, _, rfl, rfl, Or.inl rfl⟩
    | _ => exact ⟨_, _, _, rfl, rfl, Or.inr ⟨rfl, rfl⟩⟩
  · exact ⟨_, _, _, rfl, rfl, Or.inl rfl⟩

theorem openDevice_closed (lib : NativeLibrary σ) (isClosed : c.isOpen = false) (t : Traced σ) :
    ∃ t' : Traced σ, t'.http = t.http ∧
      ((∃ notes, run (openDevice lib.traced) (c, t) =
          ⟨.ok (), notes, ({ c with isOpen := true, nonblocking := false }, t')⟩ ∧
          t'.native = t.native ++ [.opening (.ok ())]) ∨
        ∃ e notes, run (openDevice lib.traced) (c, t) = ⟨.error e, notes, (c, t')⟩ ∧
          (t'.native = t.native ∨ ∃ e', t'.native = t.native ++ [.opening (.error e')])) := by
  rw [openDevice, run_bind_ok run_state, if_neg (by simp [isClosed])]
  obtain ⟨answer, notes, t', ran, http, calls⟩ := openNative_run lib c.address c t
  refine ⟨t', http, ?_⟩
  cases answer with
  | ok =>
      left
      rw [run_bind_ok (onDeviceFault_ok ran)]
      rcases calls with called | ⟨failed, _⟩
      · exact ⟨_, rfl, called⟩
      · cases failed
  | error e =>
      right
      have called : t'.native = t.native ∨
          ∃ e', t'.native = t.native ++ [.opening (.error e')] := by
        rcases calls with called | ⟨_, uncalled⟩
        · exact Or.inr ⟨e, called⟩
        · exact Or.inl uncalled
      cases fault : e.isDeviceFault with
      | true =>
          rw [run_bind_error (onDeviceFault_fault ran fault)]
          exact ⟨_, _, rfl, called⟩
      | false =>
          rw [run_bind_error (onDeviceFault_other ran fault)]
          exact ⟨_, _, rfl, called⟩

end Connection

end ChunkRelay
