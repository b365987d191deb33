import ChunkRelay.Proofs.Device.Handle
import ChunkRelay.Report.Codec

/-! # Streams that are left on

Once a device has taken the report that switches its stream on, it is owed the one that switches it
off, as long as its handle is held. A connection gives up a handle with that debt only if its last
call found the device gone.
-/

namespace ChunkRelay

namespace NativeCall

/-- Whether the device has taken the report that switches its stream on. -/
def starts : NativeCall → Bool
  | write bytes (.ok count) => bytes = [5, 1] && 0 ≤ count
  | _ => false

/-- Whether the report that switches the stream off was to be written, whatever came of that. -/
def halts : NativeCall → Bool
  | write bytes _ => bytes = [5, 0]
  | _ => false

/-- Whether the call uses the handle, and not for writing a report. -/
def reads : NativeCall → Bool
  | setNonblocking .. | read .. | getFeature .. => true
  | _ => false

theorem reads_plain {call : NativeCall} (reads : call.reads = true) :
    call.uses = true ∧ call.starts = false ∧ call.halts = false ∧ call.closes = false := by
  cases call <;> first | exact ⟨rfl, rfl, rfl, rfl⟩ | cases reads

end NativeCall

/-- No handle is closed while its stream is on without a try to switch it off, unless the call
    before failed because the device is gone. -/
def SwitchedOff (calls : List NativeCall) : Prop :=
  ∀ before on between answer after, calls = before ++ on :: between ++ .close answer :: after →
    on.starts = true → (∀ call ∈ between, call.closes = false) →
    (∃ call ∈ between, call.halts = true) ∨
      ∃ call, between.getLast? = some call ∧ call.isFaulty = true

/-- Whether a device is still to be told to switch its stream off. -/
def owed (calls : List NativeCall) : Bool :=
  calls.foldl (fun owed call => call.starts || owed && !(call.halts || call.closes)) false

/-- Handles are closed without debt or after the device has gone. -/
def Careful (calls : List NativeCall) : Prop :=
  ∀ before answer after, calls = before ++ .close answer :: after →
    owed before = false ∨ ∃ call, before.getLast? = some call ∧ call.isFaulty = true

@[simp] theorem owed_next (calls : List NativeCall) (call : NativeCall) :
    owed (calls ++ [call]) = (call.starts || owed calls && !(call.halts || call.closes)) := by
  rw [owed, List.foldl_append]
  rfl

theorem owed_closed (calls : List NativeCall) (answer : Except Failure Unit) :
    owed (calls ++ [.close answer]) = false := by
  simp [NativeCall.starts, NativeCall.closes]

theorem owed_on {calls more : List NativeCall} (owing : owed calls = true)
    (unpaid : ∀ call ∈ more, call.halts = false ∧ call.closes = false) :
    owed (calls ++ more) = true := by
  induction more generalizing calls with
  | nil =>
      rw [List.append_nil]
      exact owing
  | cons call more ih =>
      rw [List.forall_mem_cons] at unpaid
      rw [List.append_cons]
      apply ih _ unpaid.2
      simp [owing, unpaid.1]

theorem owed_reading {calls more : List NativeCall} (reading : ∀ call ∈ more, call.reads = true) :
    owed (calls ++ more) = owed calls := by
  induction more generalizing calls with
  | nil => rw [List.append_nil]
  | cons call more ih =>
      rw [List.forall_mem_cons] at reading
      obtain ⟨_, starts, halts, closes⟩ := NativeCall.reads_plain reading.1
      rw [List.append_cons, ih reading.2, owed_next, starts, halts, closes]
      simp

/-- A debt needs a handle. -/
theorem Orderly.owed_held {calls : List NativeCall} {held : Bool} (orderly : Orderly calls held)
    (owing : owed calls = true) : held = true := by
  induction orderly with
  | none => cases owing
  | opened | used => rfl
  | refused _ e unheld =>
      apply unheld
      simpa [NativeCall.starts, NativeCall.halts, NativeCall.closes] using owing
  | closed _ answer =>
      rw [owed_closed] at owing
      cases owing

namespace Careful

variable {calls : List NativeCall} {call : NativeCall}

theorem none : Careful [] := by
  intro before answer after split
  cases before <;> cases split

theorem next (careful : Careful calls) (keeps : call.closes = false) :
    Careful (calls ++ [call]) := by
  intro before answer after split
  rcases append_singleton_split split with ⟨_, rfl⟩ | ⟨after', split⟩
  · cases keeps
  · exact careful before answer after' split

theorem closed (careful : Careful calls) (answer : Except Failure Unit)
    (may : owed calls = false ∨ ∃ call, calls.getLast? = some call ∧ call.isFaulty = true) :
    Careful (calls ++ [.close answer]) := by
  intro before answer' after split
  rcases append_singleton_split split with ⟨rfl, _⟩ | ⟨after', split⟩
  · exact may
  · exact careful before answer' after' split

theorem reading {more : List NativeCall} (careful : Careful calls)
    (reading : ∀ call ∈ more, call.reads = true) : Careful (calls ++ more) := by
  induction more generalizing calls with
  | nil =>
      rw [List.append_nil]
      exact careful
  | cons call more ih =>
      rw [List.forall_mem_cons] at reading
      rw [List.append_cons]
      apply ih _ reading.2
      exact careful.next (NativeCall.reads_plain reading.1).2.2.2

theorem switchedOff (careful : Careful calls) : SwitchedOff calls := by
  intro before on between answer after split starts unclosed
  by_cases halted : ∃ call ∈ between, call.halts = true
  · exact Or.inl halted
  · right
    have unhalted : ∀ call ∈ between, call.halts = false := by simpa using halted
    have begun : owed (before ++ [on]) = true := by simp [starts]
    have owing : owed (before ++ on :: between) = true := by
      rw [List.append_cons]
      exact owed_on begun fun call member => ⟨unhalted call member, unclosed call member⟩
    rcases careful _ answer after split with paid | ⟨call, last, faulty⟩
    · rw [owing] at paid
      cases paid
    · cases between with
      | nil =>
          -- The report that switched the stream on was taken, so the device was there.
          simp only [List.getLast?_append, List.getLast?_singleton, Option.some_or,
            Option.some.injEq] at last
          cases last
          cases on with
          | write bytes answer => cases answer <;> first | cases starts | cases faulty
          | _ => cases starts
      | cons first rest => exact ⟨call, by simpa using last, faulty⟩

end Careful

namespace Connection

open Act

variable {σ : Type} {lib : NativeLibrary σ}

/-- Reading runs up no debt. -/
theorem Handling.reading {uses : NativeCall → Prop} {before calls : List NativeCall}
    {held held' : Bool} (handling : Handling uses held calls held')
    (reads : ∀ call, uses call → call.reads = true) (careful : Careful before) :
    Careful (before ++ calls) ∧ (owed (before ++ calls) = true → owed before = true) := by
  cases handling with
  | idle =>
      rw [List.append_nil]
      exact ⟨careful, id⟩
  | used all =>
      have reading : ∀ call ∈ calls, call.reads = true := fun call member =>
        reads call (all call member)
      rw [owed_reading reading]
      exact ⟨careful.reading reading, id⟩
  | @dropped calls call answer all last faulty =>
      have reading : ∀ call ∈ calls, call.reads = true := fun call member =>
        reads call (all call member)
      rw [← List.append_assoc, owed_closed]
      refine ⟨(careful.reading reading).closed answer (Or.inr ⟨call, ?_, faulty⟩), nofun⟩
      rw [List.getLast?_append, last]
      rfl

/-- A connection without a filter whose calls so far are in order and leave no stream on. -/
structure Tended (v : Connection × Traced σ) : Prop where
  order : InOrder v
  careful : Careful v.2.native
  unfiltered : v.1.filter? = none

/-- What a connection comes to be without taking on a debt. -/
structure Freely (v v' : Connection × Traced σ) : Prop where
  tended : Tended v'
  http : v'.2.http = v.2.http
  owed : owed v'.2.native = true → owed v.2.native = true

variable {v v' : Connection × Traced σ}

theorem Freely.refl (tended : Tended v) : Freely v v := ⟨tended, rfl, id⟩

theorem Tended.reading {uses : NativeCall → Prop} (tended : Tended v) (handled : Handled uses v v')
    (reads : ∀ call, uses call → call.reads = true) : Freely v v' := by
  obtain ⟨calls, native, handling⟩ := handled.calls
  obtain ⟨careful, owing⟩ := handling.reading reads tended.careful
  rw [← native] at careful owing
  refine ⟨⟨?_, careful, handled.filter.trans tended.unfiltered⟩, handled.http, owing⟩
  exact handled.inOrder (fun call used => (NativeCall.reads_plain (reads call used)).1) tended.order

theorem readFeature_freely (id limit : Int) (tended : Tended v) :
    Freely v (run (readFeature lib.traced id limit) v).world := by
  refine tended.reading (readFeature_handled id limit v) ?_
  rintro _ ⟨answer, rfl⟩
  rfl

theorem readInput_freely (limit timeoutMs : Int) (tended : Tended v) :
    Freely v (run (readInput lib.traced limit timeoutMs) v).world := by
  refine tended.reading (readInput_handled limit timeoutMs v) ?_
  intro call listening
  cases call <;> first | rfl | cases listening

/-! ## Stream control -/

/-- A control report as the native library takes it. -/
def controlCall (enable : Bool) (answer : Except Failure Int) : NativeCall :=
  .write (UInt8.ofNat ReportId.streamControl.code.toNat :: Codec.encodeControl enable) answer

theorem controlCall_starts {enable : Bool} {answer : Except Failure Int}
    (starts : (controlCall enable answer).starts = true) :
    enable = true ∧ ∃ n, answer = .ok n ∧ 0 ≤ n := by
  cases answer with
  | error e => cases starts
  | ok n =>
      cases enable with
      | false => cases starts
      | true =>
          rw [controlCall, NativeCall.starts, Bool.and_eq_true] at starts
          exact ⟨rfl, n, rfl, of_decide_eq_true starts.2⟩

/-- What is left after a control report: the debt that there was before it if the report failed, and
    none at all if it was to switch the stream off. -/
structure Controlled (enable : Bool) (v v' : Connection × Traced σ) (answer : Except Failure Int) :
    Prop where
  tended : Tended v'
  http : v'.2.http = v.2.http
  owed : owed v'.2.native = true →
    enable = true ∧ (owed v.2.native = true ∨ ∃ n, answer = .ok n)

theorem writeControl_controlled (enable : Bool) (tended : Tended v) {answer : Except Failure Int}
    {notes : List Note} (ran : run (writeOutput lib.traced ReportId.streamControl.code
      (Codec.encodeControl enable)) v = ⟨answer, notes, v'⟩) : Controlled enable v v' answer := by
  obtain ⟨c, t⟩ := v
  obtain ⟨order, careful, unfiltered⟩ := tended
  have isByte : 0 ≤ ReportId.streamControl.code ∧ ReportId.streamControl.code < 256 := by decide
  cases isOpen : c.isOpen with
  | false =>
      rw [writeOutput, run_bind_error (requireOpen_closed isOpen _)] at ran
      cases ran
      refine ⟨⟨order, careful, unfiltered⟩, rfl, ?_⟩
      intro owing
      have held := Orderly.owed_held order owing
      rw [isOpen] at held
      cases held
  | true =>
      rw [InOrder, isOpen] at order
      have written := writeOutput_open lib isByte isOpen unfiltered
        (Codec.encodeControl enable) t
      dsimp only at written
      rw [ran] at written
      rcases written with ⟨kept, accepted⟩ | ⟨e, failed, fault, dropped⟩
      · obtain rfl : v' = _ := kept
        refine ⟨⟨?_, careful.next rfl, unfiltered⟩, rfl, ?_⟩
        · rw [InOrder, isOpen]
          exact order.used rfl
        · intro owing
          change owed (t.native ++ [controlCall enable _]) = true at owing
          rw [owed_next, Bool.or_eq_true, Bool.and_eq_true] at owing
          rcases owing with starts | ⟨owing, unpaid⟩
          · obtain ⟨on, n, taken, enough⟩ := controlCall_starts starts
            refine ⟨on, Or.inr ?_⟩
            cases answer with
            | ok count => exact ⟨count, rfl⟩
            | error e => exact absurd (accepted e n rfl taken) (Int.not_lt.mpr enough)
          · cases enable with
            | true => exact ⟨rfl, Or.inl owing⟩
            | false => cases unpaid
      · obtain rfl : v' = _ := dropped
        refine ⟨⟨(order.used rfl).closed _, ?_, unfiltered⟩, rfl, ?_⟩
        · refine (careful.next rfl).closed _ (Or.inr ⟨_, List.getLast?_concat, ?_⟩)
          have failed_ : (lib.write _ t.world).answer = .error e := failed
          rw [failed_]
          exact fault
        · intro owing
          change owed (_ ++ [NativeCall.close _]) = true at owing
          rw [owed_closed] at owing
          cases owing

/-! ## Opening and closing -/

theorem openDevice_freely (lib : NativeLibrary σ) {c : Connection} {t : Traced σ}
    (tended : Tended (c, t)) (isClosed : c.isOpen = false) :
    let o := run (openDevice lib.traced) (c, t)
    Freely (c, t) o.world ∧ ∀ e, o.answer = .error e → o.world.1.isOpen = false := by
  have order := openDevice_inOrder lib (c, t) tended.order
  obtain ⟨t', http, ⟨notes, ran, native⟩ | ⟨e, notes, ran, native⟩⟩ :=
    openDevice_closed lib isClosed t
  · rw [ran] at order ⊢
    refine ⟨⟨⟨order, ?_, tended.unfiltered⟩, http, ?_⟩, nofun⟩
    · rw [native]
      exact tended.careful.next rfl
    · rw [native]
      simp [NativeCall.starts, NativeCall.halts, NativeCall.closes]
  · rw [ran] at order ⊢
    refine ⟨⟨⟨order, ?_, tended.unfiltered⟩, http, ?_⟩, fun _ _ => isClosed⟩
    · rcases native with native | ⟨e', native⟩
      · rw [native]
        exact tended.careful
      · rw [native]
        exact tended.careful.next rfl
    · rcases native with native | ⟨e', native⟩
      · rw [native]
        exact id
      · rw [native]
        simp [NativeCall.starts, NativeCall.halts, NativeCall.closes]

theorem closeDevice_freely (lib : NativeLibrary σ) (tended : Tended v)
    (unowed : owed v.2.native = false) :
    Freely v (run (closeDevice lib.traced) v).world ∧
      (run (closeDevice lib.traced) v).world.1.isOpen = false := by
  have order := closeDevice_inOrder lib v tended.order
  obtain ⟨c, t⟩ := v
  cases isOpen : c.isOpen with
  | false =>
      rw [closeDevice_closed isOpen]
      exact ⟨.refl tended, isOpen⟩
  | true =>
      obtain ⟨notes, ran⟩ := closeDevice_open lib.traced (s := t) isOpen
      rw [ran] at order ⊢
      refine ⟨⟨⟨order, tended.careful.closed _ (Or.inl unowed), tended.unfiltered⟩, rfl, ?_⟩, rfl⟩
      intro owing
      change owed (_ ++ [NativeCall.close _]) = true at owing
      rw [owed_closed] at owing
      cases owing

end Connection

end ChunkRelay
