import ChunkRelay.Proofs.Device.Handle

/-! # The mode of the handle

A handle is in blocking mode when it is fresh, and a native call that sets its mode counts once it
has returned. A connection remembers the mode and saves the calls that would change nothing. What it
remembers is right at any time, through failed changes, lost handles and fresh ones, so a poll never
blocks and a read that is to block never polls.
-/

namespace ChunkRelay

/-- Whether the handle is in non-blocking mode after some calls. -/
def nonblockingAfter (calls : List NativeCall) : Bool :=
  calls.foldl NativeCall.modeAfter false

theorem nonblockingAfter_append (calls more : List NativeCall) :
    nonblockingAfter (calls ++ more) =
      more.foldl NativeCall.modeAfter (nonblockingAfter calls) := by
  simp [nonblockingAfter]

namespace Connection

open Act

variable {σ α : Type} {lib : NativeLibrary σ} {c : Connection} {t : Traced σ}

/-- The mode of a handle that is held is the one that the connection remembers. -/
def Remembers (v : Connection × Traced σ) : Prop :=
  v.1.isOpen = true → nonblockingAfter v.2.native = v.1.nonblocking

theorem remembers_closed (isClosed : c.isOpen = false) : Remembers (c, t) := by
  intro isOpen
  simp [isClosed] at isOpen

/-! ## Operations -/

theorem native_remembers {enter : Except Failure α → NativeCall} (call : Call σ α)
    (apart : ∀ answer nonblocking, (enter answer).modeAfter nonblocking = nonblocking) :
    Preserves Remembers (native (call.asNative enter)) := by
  intro ⟨c, t⟩ remembers isOpen
  change nonblockingAfter (t.native ++ [enter (call t.world).answer]) = c.nonblocking
  simpa [nonblockingAfter_append, apart] using remembers isOpen

theorem dropHandle_remembers : Preserves (Remembers (σ := σ)) (dropHandle lib.traced) := by
  refine Preserves.bind (fun _ remembers => remembers) fun c => ?_
  split
  · refine Preserves.bind (fun _ _ => remembers_closed rfl) fun _ => ?_
    exact onDeviceFault_preserves (native_remembers _ fun _ _ => rfl) fun _ => .log _ _ _
  · exact .pure _

theorem guarded_remembers {x : Act (Connection × Traced σ) α} (cause : String → Cause)
    (kept : Preserves Remembers x) :
    Preserves Remembers (onDeviceFault x fun reason => do
      dropHandle lib.traced
      Act.failWith (cause reason)) :=
  onDeviceFault_preserves kept fun _ => dropHandle_remembers.bind fun _ => .fail _

theorem openDevice_remembers : Preserves (Remembers (σ := σ)) (openDevice lib.traced) := by
  intro ⟨c, t⟩ remembers
  cases isOpen : c.isOpen with
  | true => simpa [openDevice_open isOpen] using remembers
  | false =>
      obtain ⟨t', _, ⟨notes, ran, native⟩ | ⟨e, notes, ran, native⟩⟩ :=
        openDevice_closed lib isOpen t
      · rw [ran]
        intro _
        simp [native, nonblockingAfter_append, NativeCall.modeAfter]
      · rw [ran]
        exact remembers_closed isOpen

theorem closeDevice_remembers : Preserves (Remembers (σ := σ)) (closeDevice lib.traced) := by
  intro ⟨c, t⟩ remembers
  cases isOpen : c.isOpen with
  | false => simpa [closeDevice_closed isOpen] using remembers
  | true =>
      obtain ⟨notes, ran⟩ := closeDevice_open lib.traced (s := t) isOpen
      rw [ran]
      exact remembers_closed rfl

theorem setNonblocking_remembers (nonblocking : Bool) :
    Preserves (Remembers (σ := σ)) (setNonblocking lib.traced nonblocking) := by
  intro ⟨c, t⟩ remembers
  cases isOpen : c.isOpen with
  | false =>
      rw [setNonblocking, run_bind_error (requireOpen_closed isOpen _)]
      exact remembers
  | true =>
      rw [setNonblocking_run lib.traced isOpen]
      intro _
      -- The call is on record with its answer, and the answer decides what is remembered.
      change nonblockingAfter (t.native ++ [.setNonblocking nonblocking
        (lib.setNonblocking nonblocking t.world).answer]) =
        if (lib.setNonblocking nonblocking t.world).answer.isOk then nonblocking else c.nonblocking
      rw [nonblockingAfter_append, remembers isOpen]
      cases (lib.setNonblocking nonblocking t.world).answer <;> rfl

theorem readNative_remembers (limit timeoutMs : Int) :
    Preserves (Remembers (σ := σ)) (readNative lib.traced limit timeoutMs) := by
  have reads (timeoutMs? : Option Int) :
      Preserves (Remembers (σ := σ)) (native (lib.traced.read (limit + 1) timeoutMs?)) :=
    native_remembers _ fun _ _ => rfl
  rw [readNative]
  split
  · exact reads _
  · refine Preserves.bind (fun _ remembers => remembers) fun c => ?_
    split
    · exact (setNonblocking_remembers _).bind fun _ => reads none
    · exact reads none

theorem readInput_remembers (limit timeoutMs : Int) :
    Preserves (Remembers (σ := σ)) (readInput lib.traced limit timeoutMs) := by
  refine (requireOpen_preserves _).bind fun _ => ?_
  refine (guarded_remembers _ (readNative_remembers limit timeoutMs)).bind fun bytes => ?_
  cases bytes with
  | nil => exact .fail _
  | cons id rest => exact (checkFilter_preserves _).bind fun _ => .pure _

theorem readFeature_remembers (id limit : Int) :
    Preserves (Remembers (σ := σ)) (readFeature lib.traced id limit) := by
  refine (requireOpen_preserves _).bind fun _ => (checkFilter_preserves id).bind fun _ => ?_
  exact (guarded_remembers _ (native_remembers _ fun _ _ => rfl)).bind fun _ => .pure _

theorem writeOutput_remembers (id : Int) (bytes : List UInt8) :
    Preserves (Remembers (σ := σ)) (writeOutput lib.traced id bytes) := by
  have writes : Preserves (Remembers (σ := σ)) (writeNative lib.traced id bytes) := by
    rw [writeNative]
    split
    · exact native_remembers _ fun _ _ => rfl
    · exact .fail _
  refine (requireOpen_preserves _).bind fun _ => (checkFilter_preserves id).bind fun _ => ?_
  refine (guarded_remembers _ writes).bind fun count => ?_
  split
  · exact .fail _
  · exact .pure _

theorem Move.remembers (move : Move) : Preserves (Remembers (σ := σ)) (move.act lib.traced) := by
  cases move with
  | openDevice => exact openDevice_remembers
  | closeDevice => exact closeDevice_remembers
  | setNonblocking nonblocking => exact setNonblocking_remembers nonblocking
  | setFilter ids? => exact .modify fun _ remembers => remembers
  | readFeature id limit timeoutMs => exact (readFeature_remembers id limit).discard
  | writeOutput id bytes timeoutMs => exact (writeOutput_remembers id bytes).discard
  | readInput limit timeoutMs => exact (readInput_remembers limit timeoutMs).discard

theorem after_remembers (moves : List Move) {v : Connection × Traced σ} (remembers : Remembers v) :
    Remembers (after lib.traced v moves) := by
  induction moves generalizing v with
  | nil => exact remembers
  | cons move moves ih => exact ih (move.remembers v remembers)

/-! ## Reads -/

theorem readInput_calls (lib : NativeLibrary σ) (isOpen : c.isOpen = true) (limit timeoutMs : Int)
    (t : Traced σ) :
    ∃ calls closing answer, (run (readInput lib.traced limit timeoutMs) (c, t)).world.2.native =
        t.native ++ (calls ++ closing) ∧
      Listening (limit + 1) timeoutMs c.nonblocking calls answer ∧
      (closing = [] ∨ (∃ e, answer = .error e ∧ e.isDeviceFault = true) ∧
        ∃ closed, closing = [.close closed]) := by
  obtain ⟨calls, answer, notes, t', ran, native, _, listening⟩ :=
    readNative_listening lib t isOpen limit timeoutMs
  rw [readInput_world isOpen]
  rcases guarded_cases lib.traced .readFailed ran isOpen with
    ⟨_, kept⟩ | ⟨e, more, failed, fault, dropped⟩
  · rw [kept]
    exact ⟨calls, [], answer, by simpa using native, listening, Or.inl rfl⟩
  · rw [dropped]
    refine ⟨calls, [.close (lib.close t'.world).answer], answer, ?_, listening,
      Or.inr ⟨⟨e, failed, fault⟩, _, rfl⟩⟩
    change t'.native ++ _ = _
    rw [native, List.append_assoc]

/-- What the timeout asks of a native read that comes after some calls. -/
def InMode (timeoutMs : Int) (timeoutMs? : Option Int) (calls : List NativeCall) : Prop :=
  if 0 < timeoutMs then timeoutMs? = some timeoutMs
  else timeoutMs? = none ∧ nonblockingAfter calls = decide (timeoutMs = 0)

namespace Listening

variable {size timeoutMs : Int} {nonblocking : Bool} {past calls closing : List NativeCall}
  {answer : Except Failure (List UInt8)}

theorem inMode (listening : Listening size timeoutMs nonblocking calls answer)
    (remembered : nonblockingAfter past = nonblocking)
    (closed : closing = [] ∨ ∃ closed, closing = [.close closed])
    {before later : List NativeCall} {size' : Int} {timeoutMs? : Option Int}
    {answer' : Except Failure (List UInt8)}
    (split : calls ++ closing = before ++ .read size' timeoutMs? answer' :: later) :
    InMode timeoutMs timeoutMs? (past ++ before) := by
  have unread {rest : List NativeCall} :
      closing ≠ rest ++ .read size' timeoutMs? answer' :: later := by
    rcases closed with rfl | ⟨closed, rfl⟩
    · simp
    · cases rest <;> simp
  cases listening with
  | waited bounded =>
      cases before with
      | nil =>
          cases split
          simp [InMode, bounded]
      | cons call rest =>
          cases split
          exact absurd rfl unread
  | steady unbounded right =>
      cases before with
      | nil =>
          cases split
          simp [InMode, unbounded, remembered, right]
      | cons call rest =>
          cases split
          exact absurd rfl unread
  | switched unbounded =>
      match before with
      | [] => cases split
      | [call] =>
          cases split
          simp [InMode, unbounded, nonblockingAfter_append, NativeCall.modeAfter]
      | call :: read :: rest =>
          cases split
          exact absurd rfl unread
  | unswitched unbounded e =>
      cases before with
      | nil => cases split
      | cons call rest =>
          cases split
          exact absurd rfl unread

theorem untouched (past : List NativeCall)
    (listening : Listening size timeoutMs nonblocking calls answer)
    (bounded : 0 < timeoutMs) (closed : closing = [] ∨ ∃ closed, closing = [.close closed]) :
    (∀ wanted answer, .setNonblocking wanted answer ∉ calls ++ closing) ∧
      nonblockingAfter (past ++ (calls ++ closing)) = nonblockingAfter past := by
  cases listening with
  | waited =>
      rcases closed with rfl | ⟨closed, rfl⟩ <;>
        simp [nonblockingAfter_append, NativeCall.modeAfter]
  | steady unbounded | switched unbounded | unswitched unbounded => exact absurd bounded unbounded

end Listening

/-- A wait for an input report reads with the timeout that it was given and then lets the mode be,
    and without one only from a handle in the mode that the timeout asks for. It leaves the read out
    only if that mode could not be set. -/
theorem after_reads_inMode (lib : NativeLibrary σ) (address : DeviceAddress) (s : σ)
    (moves : List Move) (limit timeoutMs : Int) :
    let v := after lib.traced (⟨address, false, false, none⟩, Traced.new s) moves
    let v' := (run (readInput lib.traced limit timeoutMs) v).world
    ∃ calls, v'.2.native = v.2.native ++ calls ∧
      (∀ before size timeoutMs? answer later,
        calls = before ++ .read size timeoutMs? answer :: later →
          InMode timeoutMs timeoutMs? (v.2.native ++ before)) ∧
      (0 < timeoutMs → (∀ nonblocking answer, .setNonblocking nonblocking answer ∉ calls) ∧
        nonblockingAfter v'.2.native = nonblockingAfter v.2.native) ∧
      (v.1.isOpen = true → (∃ timeoutMs? answer, .read (limit + 1) timeoutMs? answer ∈ calls) ∨
        ∃ e, calls = [.setNonblocking (decide (timeoutMs = 0)) (.error e)]) := by
  intro v v'
  have fresh : Remembers ((⟨address, false, false, none⟩, Traced.new s) : Connection × Traced σ) :=
    remembers_closed rfl
  have remembers : Remembers v := after_remembers moves fresh
  obtain ⟨c, t⟩ := v
  cases isOpen : c.isOpen with
  | false =>
      have refused : v' = (c, t) := by
        simp only [v', readInput, run_bind_error (requireOpen_closed isOpen _)]
      refine ⟨[], by simp [refused], by simp, fun _ => ⟨by simp, by simp [refused]⟩, nofun⟩
  | true =>
      obtain ⟨calls, closing, answer, native, listening, closed⟩ :=
        readInput_calls lib isOpen limit timeoutMs t
      refine ⟨calls ++ closing, native, ?_, ?_, ?_⟩
      · intro before size timeoutMs? answer' later split
        exact listening.inMode (remembers isOpen) (closed.imp_right And.right) split
      · intro bounded
        have ⟨unset, same⟩ :=
          listening.untouched t.native bounded (closed.imp_right And.right)
        exact ⟨unset, by rw [native, same]⟩
      · intro _
        cases listening with
        | waited | steady | switched =>
            left
            simp only [List.mem_append]
            exact ⟨_, _, Or.inl (List.mem_of_getLast? rfl)⟩
        | unswitched unbounded e =>
            -- The refused change is no fault of the device any more, so the handle is kept.
            right
            rcases closed with rfl | ⟨⟨_, ⟨⟩, fault⟩, _⟩
            · exact ⟨e, List.append_nil _⟩
            · rw [Failure.toldAs_harmless] at fault
              cases fault

end Connection

end ChunkRelay
