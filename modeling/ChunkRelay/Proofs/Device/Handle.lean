import ChunkRelay.Proofs.Device.Connection

/-! # One handle at a time

Whatever is done with a connection, and whatever the native library answers, the connection opens a
device only while it holds no handle, and it uses and closes only the handle that it holds. So after
any history there is one more open than there are closes if the connection is open, and as many if
it is not.
-/

namespace ChunkRelay

/-- How many handles some calls leave open. -/
def heldHandles (calls : List NativeCall) : Int :=
  calls.countP NativeCall.opens - calls.countP NativeCall.closes

/-- Calls that never hold more than one handle, and do nothing without one but open it. -/
structure OneHandle (calls : List NativeCall) (held : Bool) : Prop where
  balance : heldHandles calls = if held then 1 else 0
  guarded : ∀ earlier call later, calls = earlier ++ call :: later →
    heldHandles earlier = if call.isOpening then 0 else 1

/-- How calls go on while a handle is held or not. -/
inductive Orderly : List NativeCall → Bool → Prop where
  | none : Orderly [] false
  | opened {calls : List NativeCall} (orderly : Orderly calls false) :
      Orderly (calls ++ [.opening (.ok ())]) true
  | refused {calls : List NativeCall} (orderly : Orderly calls false) (e : Failure) :
      Orderly (calls ++ [.opening (.error e)]) false
  | used {calls : List NativeCall} {call : NativeCall} (orderly : Orderly calls true)
      (uses : call.uses = true) : Orderly (calls ++ [call]) true
  | closed {calls : List NativeCall} (orderly : Orderly calls true)
      (answer : Except Failure Unit) : Orderly (calls ++ [.close answer]) false

theorem heldHandles_append (calls more : List NativeCall) :
    heldHandles (calls ++ more) = heldHandles calls + heldHandles more := by
  simp only [heldHandles, List.countP_append]
  omega

theorem append_singleton_split {α : Type} {calls earlier later : List α} {last call : α}
    (split : calls ++ [last] = earlier ++ call :: later) :
    (calls = earlier ∧ last = call) ∨ ∃ later', calls = earlier ++ call :: later' := by
  rcases List.eq_nil_or_concat later with rfl | ⟨later', end_, rfl⟩
  · obtain ⟨same, last⟩ := List.append_inj' split rfl
    cases last
    exact Or.inl ⟨same, rfl⟩
  · rw [List.concat_eq_append, ← List.cons_append, ← List.append_assoc] at split
    exact Or.inr ⟨later', (List.append_inj' split rfl).1⟩

theorem OneHandle.next {calls : List NativeCall} {call : NativeCall} {held held' : Bool}
    (one : OneHandle calls held) (fits : call.isOpening = !held)
    (changes : heldHandles calls + heldHandles [call] = if held' then 1 else 0) :
    OneHandle (calls ++ [call]) held' where
  balance := by rw [heldHandles_append, changes]
  guarded := by
    intro earlier other later split
    rcases append_singleton_split split with ⟨rfl, rfl⟩ | ⟨later', split⟩
    · rw [one.balance, fits]
      cases held <;> rfl
    · exact one.guarded earlier other later' split

theorem Orderly.oneHandle {calls : List NativeCall} {held : Bool} (orderly : Orderly calls held) :
    OneHandle calls held := by
  induction orderly with
  | none =>
      refine ⟨rfl, ?_⟩
      intro earlier call later split
      cases earlier <;> cases split
  | opened _ one =>
      apply one.next rfl
      rw [one.balance]
      rfl
  | refused _ e one =>
      apply one.next rfl
      rw [one.balance]
      rfl
  | @used calls call _ uses one =>
      apply one.next
      · cases call <;> first | rfl | cases uses
      · rw [one.balance]
        cases call <;> first | rfl | cases uses
  | closed _ answer one =>
      apply one.next rfl
      rw [one.balance]
      rfl

theorem Orderly.uses {before calls : List NativeCall} (orderly : Orderly before true)
    (all : ∀ call ∈ calls, call.uses = true) : Orderly (before ++ calls) true := by
  induction calls generalizing before with
  | nil =>
      rw [List.append_nil]
      exact orderly
  | cons call calls ih =>
      rw [List.forall_mem_cons] at all
      rw [List.append_cons]
      exact ih (orderly.used all.1) all.2

namespace Connection

open Act

variable {σ : Type} {lib : NativeLibrary σ}

theorem Handling.orderly {uses : NativeCall → Prop} {before calls : List NativeCall}
    {held held' : Bool} (handling : Handling uses held calls held')
    (used : ∀ call, uses call → call.uses = true) (orderly : Orderly before held) :
    Orderly (before ++ calls) held' := by
  cases handling with
  | idle =>
      rw [List.append_nil]
      exact orderly
  | used all => exact orderly.uses fun call member => used call (all call member)
  | dropped answer all =>
      rw [← List.append_assoc]
      exact .closed (orderly.uses fun call member => used call (all call member)) answer

/-- The calls so far fit the state of the connection. -/
def InOrder (v : Connection × Traced σ) : Prop := Orderly v.2.native v.1.isOpen

theorem Handled.inOrder {uses : NativeCall → Prop} {v v' : Connection × Traced σ}
    (handled : Handled uses v v') (used : ∀ call, uses call → call.uses = true)
    (inOrder : InOrder v) : InOrder v' := by
  obtain ⟨calls, native, handling⟩ := handled.calls
  rw [InOrder, native]
  exact handling.orderly used inOrder

theorem openDevice_inOrder (lib : NativeLibrary σ) :
    Preserves (InOrder (σ := σ)) (openDevice lib.traced) := by
  intro ⟨c, t⟩ inOrder
  cases isOpen : c.isOpen with
  | true =>
      rw [openDevice_open isOpen]
      exact inOrder
  | false =>
      rw [InOrder, isOpen] at inOrder
      obtain ⟨t', _, ⟨notes, ran, native⟩ | ⟨e, notes, ran, native⟩⟩ :=
        openDevice_closed lib isOpen t
      · rw [ran, InOrder, native]
        exact inOrder.opened
      · rw [ran, InOrder, isOpen]
        rcases native with native | ⟨e', native⟩
        · rw [native]
          exact inOrder
        · rw [native]
          exact inOrder.refused e'

theorem closeDevice_inOrder (lib : NativeLibrary σ) :
    Preserves (InOrder (σ := σ)) (closeDevice lib.traced) := by
  intro ⟨c, t⟩ inOrder
  cases isOpen : c.isOpen with
  | false =>
      rw [closeDevice_closed isOpen]
      exact inOrder
  | true =>
      rw [InOrder, isOpen] at inOrder
      obtain ⟨notes, ran⟩ := closeDevice_open lib.traced (s := t) isOpen
      rw [ran]
      exact inOrder.closed _

theorem listens_uses (call : NativeCall) (listening : listens call) : call.uses = true := by
  cases call <;> first | rfl | cases listening

theorem readFeature_inOrder (id limit : Int) :
    Preserves (InOrder (σ := σ)) (readFeature lib.traced id limit) := by
  intro v inOrder
  refine (readFeature_handled id limit v).inOrder ?_ inOrder
  rintro _ ⟨answer, rfl⟩
  rfl

theorem readInput_inOrder (limit timeoutMs : Int) :
    Preserves (InOrder (σ := σ)) (readInput lib.traced limit timeoutMs) := by
  intro v inOrder
  exact (readInput_handled limit timeoutMs v).inOrder listens_uses inOrder

theorem setNonblocking_inOrder (nonblocking : Bool) :
    Preserves (InOrder (σ := σ)) (setNonblocking lib.traced nonblocking) := by
  intro v inOrder
  exact (setNonblocking_handled nonblocking v).inOrder listens_uses inOrder

theorem writeOutput_inOrder (id : Int) (bytes : List UInt8) :
    Preserves (InOrder (σ := σ)) (writeOutput lib.traced id bytes) := by
  intro ⟨c, t⟩ inOrder
  by_cases isByte : 0 ≤ id ∧ id < 256
  · refine (writeOutput_handled isByte bytes (c, t)).inOrder ?_ inOrder
    rintro _ ⟨answer, rfl⟩
    rfl
  · rcases writeOutput_unwritable lib isByte bytes c t with unchanged | ⟨isOpen, dropped⟩
    · rw [unchanged]
      exact inOrder
    · rw [InOrder, isOpen] at inOrder
      rw [dropped]
      exact inOrder.closed _

/-! ## Histories -/

/-- What can be done with a connection. -/
inductive Move where
  | openDevice
  | closeDevice
  | setNonblocking (nonblocking : Bool)
  | setFilter (ids? : Option (List Int))
  | readFeature (id limit timeoutMs : Int)
  | writeOutput (id : Int) (bytes : List UInt8) (timeoutMs : Int)
  | readInput (limit timeoutMs : Int)

def Move.act (lib : NativeLibrary σ) : Move → Act (Connection × σ) Unit
  | openDevice => (transport lib).openDevice
  | closeDevice => (transport lib).closeDevice
  | setNonblocking nonblocking => Connection.setNonblocking lib nonblocking
  | setFilter ids? => update (Connection.setFilter ids?)
  | readFeature id limit timeoutMs => discard ((transport lib).readFeature id limit timeoutMs)
  | writeOutput id bytes timeoutMs => discard ((transport lib).writeOutput id bytes timeoutMs)
  | readInput limit timeoutMs => discard ((transport lib).readInput limit timeoutMs)

/-- Where moves lead to, be they successful or not. -/
def after (lib : NativeLibrary σ) (v : Connection × σ) (moves : List Move) : Connection × σ :=
  moves.foldl (fun v move => (run (move.act lib) v).world) v

theorem Move.inOrder (move : Move) : Preserves (InOrder (σ := σ)) (move.act lib.traced) := by
  cases move with
  | openDevice => exact openDevice_inOrder lib
  | closeDevice => exact closeDevice_inOrder lib
  | setNonblocking nonblocking => exact setNonblocking_inOrder nonblocking
  | setFilter ids? => exact .modify fun _ inOrder => inOrder
  | readFeature id limit timeoutMs => exact (readFeature_inOrder id limit).discard
  | writeOutput id bytes timeoutMs => exact (writeOutput_inOrder id bytes).discard
  | readInput limit timeoutMs => exact (readInput_inOrder limit timeoutMs).discard

theorem after_inOrder (moves : List Move) {v : Connection × Traced σ} (inOrder : InOrder v) :
    InOrder (after lib.traced v moves) := by
  induction moves generalizing v with
  | nil => exact inOrder
  | cons move moves ih => exact ih (move.inOrder v inOrder)

/-- A connection never holds two handles, never uses or closes one that it does not hold, and knows
    whether it holds one. -/
theorem after_oneHandle (lib : NativeLibrary σ) (address : DeviceAddress) (s : σ)
    (moves : List Move) :
    let v := after lib.traced (⟨address, false, false, none⟩, Traced.new s) moves
    OneHandle v.2.native v.1.isOpen := by
  have fresh : InOrder ((⟨address, false, false, none⟩, Traced.new s) : Connection × Traced σ) :=
    Orderly.none
  exact (after_inOrder moves fresh).oneHandle

end Connection

end ChunkRelay
