import ChunkRelay.Proofs.Device.Release

/-! # How connections fail

A device library fails with faults of its own. A connection tells them by the operational errors of
its interface: opening by one class, waiting in vain by another and all else by a third, next to
reports that the filter holds back. Two of these errors quote a number, the timeout that was given
or the count that the library answered, and one that has too many digits keeps its error from being
told. Closing is left out of all this: it forgets the handle, but a fault of the native close comes
through as it is.
-/

namespace ChunkRelay

variable {σ α : Type}

def Call.FaultsOnly (call : Call σ α) : Prop :=
  ∀ s e, (call s).answer = .error e → e.isDeviceFault = true

/-- A library whose calls for a handle fail only as device libraries are known to. -/
structure NativeLibrary.FaultsOnly (lib : NativeLibrary σ) : Prop where
  openIds : ∀ vendor product serial, (lib.openIds vendor product serial).FaultsOnly
  openPath : ∀ path, (lib.openPath path).FaultsOnly
  close : lib.close.FaultsOnly
  setNonblocking : ∀ nonblocking, (lib.setNonblocking nonblocking).FaultsOnly
  read : ∀ size timeoutMs?, (lib.read size timeoutMs?).FaultsOnly
  write : ∀ bytes, (lib.write bytes).FaultsOnly
  getFeature : ∀ id size, (lib.getFeature id size).FaultsOnly

/-- An address whose path is a text if there is one. -/
def DeviceAddress.HasTextPath (address : DeviceAddress) : Prop :=
  match address.path with
  | .null | .text _ | .rawText _ => True
  | _ => False

namespace Connection

open Act

/-- The failure of a report that is held back, which lists the ids that may pass. -/
def HeldBack (filter? : Option (List Int)) (id : Int) (e : Failure) : Prop :=
  ∃ allowed, filter? = some allowed ∧ id ∉ allowed ∧
    e = .caused (.filteredOut id (allowed.mergeSort (· ≤ ·)))

/-- The failures that the interface has for what is done with a connection. It has none for
    closing. -/
def Move.MayShow (filter? : Option (List Int)) : Move → Failure → Prop
  | openDevice, e => e.errorClass? = some .transportOpen
  | closeDevice, _ | setFilter _, _ => False
  | setNonblocking _, e => e.errorClass? = some .transportFailed
  | readFeature id .., e => e.errorClass? = some .transportFailed ∨ HeldBack filter? id e
  | writeOutput id .., e =>
      e.errorClass? = some .transportFailed ∨ HeldBack filter? id e ∨ e = .defect .numberTooLong
  | readInput _ timeoutMs, e =>
      e.Quoting timeoutMs .transportTimeout ∨ e.errorClass? = some .transportFailed ∨
        ∃ id, HeldBack filter? id e

/-- What a connection was made for and lets pass. -/
structure Configured (address : DeviceAddress) (filter? : Option (List Int))
    (v : Connection × σ) : Prop where
  address : v.1.address = address
  filter : v.1.filter? = filter?

variable {lib : NativeLibrary σ} {address : DeviceAddress} {filter? : Option (List Int)}
  {P : Failure → Prop}

/-! ## Parts -/

theorem native_faults {call : Call σ α} (known : call.FaultsOnly) :
    Obeys (Configured address filter?) (fun e => e.isDeviceFault = true) (native call) :=
  fun v configured => ⟨⟨configured.address, configured.filter⟩, known v.2⟩

theorem state_obeys {f : Connection → Act (Connection × σ) α}
    (next : ∀ c : Connection, c.address = address → c.filter? = filter? →
      Obeys (Configured address filter?) P (f c)) :
    Obeys (Configured address filter?) P (state >>= f) :=
  fun v configured => next v.1 configured.address configured.filter v configured

theorem update_obeys {f : Connection → Connection} (address_kept : ∀ c, (f c).address = c.address)
    (filter_kept : ∀ c, (f c).filter? = c.filter?) :
    Obeys (Configured (σ := σ) address filter?) P (update f) :=
  .modify fun v configured =>
    ⟨(address_kept v.1).trans configured.address, (filter_kept v.1).trans configured.filter⟩

theorem requireOpen_obeys (operation : String) :
    Obeys (Configured (σ := σ) address filter?) (fun e => e.errorClass? = some .transportFailed)
      (requireOpen operation) := by
  refine state_obeys fun c _ _ => ?_
  split
  · exact .pure _
  · exact .fail rfl

theorem checkFilter_obeys (id : Int) :
    Obeys (Configured (σ := σ) address filter?) (HeldBack filter? id) (checkFilter id) := by
  refine state_obeys fun c _ filter => ?_
  cases allows : c.filter? with
  | none => exact .pure _
  | some allowed =>
      dsimp only
      split
      · exact .pure _
      · next held => exact .fail ⟨allowed, by rw [← filter, allows], by simpa using held, rfl⟩

theorem onDeviceFault_obeys {x : Act (Connection × σ) α}
    {handle : String → Act (Connection × σ) α}
    (first : Obeys (Configured address filter?) (fun e => e.isDeviceFault = true ∨ P e) x)
    (handled : ∀ reason, Obeys (Configured address filter?) P (handle reason)) :
    Obeys (Configured address filter?) P (onDeviceFault x handle) := by
  refine first.tryCatch fun e kind => ?_
  split
  · exact handled _
  · next harmless => exact .fail (kind.resolve_left harmless)

/-- Letting go of a handle never fails: a fault of the native close is only logged. -/
theorem dropHandle_obeys (known : lib.FaultsOnly) :
    Obeys (Configured address filter?) P (dropHandle lib) := by
  refine state_obeys fun c _ _ => ?_
  split
  · refine Obeys.bind (update_obeys (fun _ => rfl) fun _ => rfl) fun _ => onDeviceFault_obeys ?_ ?_
    · exact (native_faults known.close).mono fun _ => Or.inl
    · exact fun reason => .log _ _ _
  · exact .pure _

theorem guarded_obeys (known : lib.FaultsOnly) {x : Act (Connection × σ) α}
    {cause : String → Cause}
    (first : Obeys (Configured address filter?) (fun e => e.isDeviceFault = true ∨ P e) x)
    (kind : ∀ reason, P (.ofCause (cause reason))) :
    Obeys (Configured address filter?) P
      (onDeviceFault x fun reason => do dropHandle lib; Act.failWith (cause reason)) :=
  onDeviceFault_obeys first fun reason => (dropHandle_obeys known).bind fun _ => .fail (kind reason)

/-! ## Operations -/

theorem openNative_obeys (known : lib.FaultsOnly) (typed : address.HasTextPath) :
    Obeys (Configured address filter?) (fun e => e.isDeviceFault = true)
      (openNative lib address) := by
  rw [openNative]
  split
  · next given =>
      rw [DeviceAddress.HasTextPath] at typed
      cases path : address.path with
      | text path => exact native_faults (known.openPath _)
      | rawText path => exact .fail rfl
      | null =>
          rw [path] at given
          cases given
      | _ =>
          rw [path] at typed
          cases typed
  · exact native_faults (known.openIds _ _ _)

theorem openDevice_obeys (known : lib.FaultsOnly) (typed : address.HasTextPath) :
    Obeys (Configured address filter?) (fun e => e.errorClass? = some .transportOpen)
      (openDevice lib) := by
  refine state_obeys fun c same _ => ?_
  rw [same]
  split
  · exact .pure _
  · refine Obeys.bind (onDeviceFault_obeys ?_ fun _ => .fail rfl) fun _ => ?_
    · exact (openNative_obeys known typed).mono fun _ => Or.inl
    · exact update_obeys (fun _ => rfl) fun _ => rfl

theorem setNonblocking_obeys (known : lib.FaultsOnly) (nonblocking : Bool) :
    Obeys (Configured address filter?) (fun e => e.errorClass? = some .transportFailed)
      (setNonblocking lib nonblocking) := by
  refine (requireOpen_obeys _).bind fun _ => ?_
  refine Obeys.bind (onDeviceFault_obeys ?_ fun _ => .fail rfl) fun _ => ?_
  · exact (native_faults (known.setNonblocking _)).mono fun _ => Or.inl
  · exact update_obeys (fun _ => rfl) fun _ => rfl

theorem readFeature_obeys (known : lib.FaultsOnly) (id limit : Int) :
    Obeys (Configured address filter?)
      (fun e => e.errorClass? = some .transportFailed ∨ HeldBack filter? id e)
      (readFeature lib id limit) := by
  refine ((requireOpen_obeys _).mono fun _ => Or.inl).bind fun _ => ?_
  refine ((checkFilter_obeys _).mono fun _ => Or.inr).bind fun _ => ?_
  refine (guarded_obeys known ?_ fun _ => Or.inl rfl).bind fun _ => .pure _
  exact (native_faults (known.getFeature _ _)).mono fun _ => Or.inl

theorem writeNative_obeys (known : lib.FaultsOnly) (id : Int) (bytes : List UInt8) :
    Obeys (Configured address filter?) (fun e => e.isDeviceFault = true)
      (writeNative lib id bytes) := by
  rw [writeNative]
  split
  · exact native_faults (known.write _)
  · exact .fail rfl

theorem writeOutput_obeys (known : lib.FaultsOnly) (id : Int) (bytes : List UInt8)
    (timeoutMs : Int) :
    Obeys (Configured address filter?) ((Move.writeOutput id bytes timeoutMs).MayShow filter?)
      (writeOutput lib id bytes) := by
  refine ((requireOpen_obeys _).mono fun _ => Or.inl).bind fun _ => ?_
  refine ((checkFilter_obeys _).mono fun _ held => Or.inr (Or.inl held)).bind fun _ => ?_
  refine (guarded_obeys known ?_ fun _ => Or.inl rfl).bind fun count => ?_
  · exact (writeNative_obeys known id bytes).mono fun _ => Or.inl
  · split
    · refine .fail ?_
      have quoting : Failure.Quoting count .transportFailed (.ofCause (.writeRejected id count)) :=
        Failure.quoting_ofCause rfl
      rw [Failure.Quoting] at quoting
      split at quoting
      · exact Or.inl quoting
      · exact Or.inr (Or.inr quoting)
    · exact .pure _

theorem writeNative_run (lib : NativeLibrary σ) (id : Int) (bytes : List UInt8) (c : Connection)
    (s : σ) :
    ∃ answer notes s', run (writeNative lib id bytes) (c, s) = ⟨answer, notes, (c, s')⟩ ∧
      ∀ count, answer = .ok count →
        (lib.write (UInt8.ofNat id.toNat :: bytes) s).answer = .ok count := by
  rw [writeNative]
  split
  · exact ⟨_, _, _, run_native _, fun _ answered => answered⟩
  · exact ⟨_, _, _, rfl, fun _ answered => by cases answered⟩

/-- A write fails without an error of the interface only for the count that the library answers. -/
theorem writeOutput_tooLong (known : lib.FaultsOnly) {id : Int} {bytes : List UInt8}
    {v : Connection × σ}
    (failed : (run (writeOutput lib id bytes) v).answer = .error (.defect .numberTooLong)) :
    ∃ count < 0, Numeral.isWritable count = false ∧
      (lib.write (UInt8.ofNat id.toNat :: bytes) v.2).answer = .ok count := by
  obtain ⟨c, s⟩ := v
  rcases gated_cases c s "write_output" id with ⟨cause, refused⟩ | ⟨isOpen, asked⟩
  · rw [writeOutput, refused] at failed
    cases failed
  · -- A fault of the write itself is told by an error that quotes the id, in hexadecimal.
    have guarded : Obeys (Configured c.address c.filter?)
        (fun e => e.errorClass? = some .transportFailed)
        (onDeviceFault (writeNative lib id bytes) fun reason => do
          dropHandle lib
          Act.failWith (.writeFailed id reason)) :=
      guarded_obeys known ((writeNative_obeys known id bytes).mono fun _ => Or.inl) fun _ => rfl
    have told := (guarded (c, s) ⟨rfl, rfl⟩).2
    rw [writeOutput, asked] at failed
    obtain ⟨answer, notes, s', written, native⟩ := writeNative_run lib id bytes c s
    rcases guarded_cases lib (.writeFailed id) written isOpen with
      ⟨_, kept⟩ | ⟨_, _, _, _, dropped⟩
    · cases answer with
      | error e =>
          rw [run_bind_error kept] at failed
          rw [kept] at told
          cases failed
          cases told _ rfl
      | ok count =>
          -- So it is the count that its own error quotes.
          rw [run_bind_ok kept] at failed
          by_cases negative : count < 0
          · rw [if_pos negative] at failed
            have failed : Failure.ofCause (.writeRejected id count) = .defect .numberTooLong :=
              Except.error.inj failed
            exact ⟨count, negative, Failure.ofCause_tooLong.mp failed, native count rfl⟩
          · rw [if_neg negative] at failed
            cases failed
    · rw [run_bind_error dropped] at failed
      rw [dropped] at told
      cases told _ failed

theorem readNative_obeys (known : lib.FaultsOnly) (limit timeoutMs : Int) :
    Obeys (Configured address filter?)
      (fun e => e.isDeviceFault = true ∨ e.errorClass? = some .transportFailed)
      (readNative lib limit timeoutMs) := by
  have read (timeoutMs? : Option Int) : Obeys (Configured address filter?)
      (fun e => e.isDeviceFault = true ∨ e.errorClass? = some .transportFailed)
      (native (lib.read (limit + 1) timeoutMs?)) :=
    (native_faults (known.read _ _)).mono fun _ => Or.inl
  rw [readNative]
  split
  · exact read _
  · refine state_obeys fun c _ _ => ?_
    split
    · exact ((setNonblocking_obeys known _).mono fun _ => Or.inr).bind fun _ => read _
    · exact read _

theorem readInput_obeys (known : lib.FaultsOnly) (limit timeoutMs : Int) :
    Obeys (Configured address filter?) ((Move.readInput limit timeoutMs).MayShow filter?)
      (readInput lib limit timeoutMs) := by
  refine ((requireOpen_obeys _).mono fun _ failed => Or.inr (Or.inl failed)).bind fun _ => ?_
  refine (guarded_obeys known ?_ fun _ => Or.inr (Or.inl rfl)).bind fun bytes => ?_
  · refine (readNative_obeys known limit timeoutMs).mono fun e => Or.imp_right ?_
    exact fun failed => Or.inr (Or.inl failed)
  · cases bytes with
    | nil => exact .fail (Or.inl (Failure.quoting_ofCause rfl))
    | cons id rest =>
        refine ((checkFilter_obeys _).mono fun e held => ?_).bind fun _ => .pure _
        exact Or.inr (Or.inr ⟨_, held⟩)

theorem Move.obeys (known : lib.FaultsOnly) (typed : address.HasTextPath) {move : Move}
    (closes : move ≠ .closeDevice) (filters : ∀ ids?, move ≠ .setFilter ids?) :
    Obeys (Configured address filter?) (move.MayShow filter?) (move.act lib) := by
  cases move with
  | openDevice => exact openDevice_obeys known typed
  | closeDevice => exact absurd rfl closes
  | setNonblocking nonblocking => exact setNonblocking_obeys known nonblocking
  | setFilter ids? => exact absurd rfl (filters ids?)
  | readFeature id limit timeoutMs => exact (readFeature_obeys known id limit).discard
  | writeOutput id bytes timeoutMs => exact (writeOutput_obeys known id bytes timeoutMs).discard
  | readInput limit timeoutMs => exact (readInput_obeys known limit timeoutMs).discard

/-- Closing fails just as the native close does. -/
theorem closeDevice_shows (lib : NativeLibrary σ) (v : Connection × σ) :
    (run (closeDevice lib) v).answer = if v.1.isOpen then (lib.close v.2).answer else .ok () := by
  obtain ⟨c, s⟩ := v
  cases isOpen : c.isOpen with
  | true =>
      obtain ⟨notes, ran⟩ := closeDevice_open lib (s := s) isOpen
      rw [ran]
      rfl
  | false =>
      rw [closeDevice_closed isOpen]
      rfl

/-! ## Histories -/

theorem Move.address_kept (known : lib.FaultsOnly) (typed : address.HasTextPath) (move : Move) :
    Preserves (fun v : Connection × σ => v.1.address = address) (move.act lib) := by
  intro ⟨c, s⟩ same
  have kept (closes : move ≠ .closeDevice) (filters : ∀ ids?, move ≠ .setFilter ids?) :=
    (move.obeys known typed closes filters (c, s) ⟨same, rfl⟩).1.address
  cases move with
  | closeDevice =>
      cases isOpen : c.isOpen with
      | true =>
          obtain ⟨notes, ran⟩ := closeDevice_open lib (s := s) isOpen
          rw [Move.act, transport, ran]
          exact same
      | false =>
          rw [Move.act, transport, closeDevice_closed isOpen]
          exact same
  | setFilter ids? => exact same
  | _ => exact kept (by simp) (by simp)

theorem after_address (known : lib.FaultsOnly) (typed : address.HasTextPath) (moves : List Move)
    {v : Connection × σ} (same : v.1.address = address) :
    (after lib v moves).1.address = address := by
  induction moves generalizing v with
  | nil => exact same
  | cons move moves ih => exact ih (move.address_kept known typed v same)

/-- Whatever has been done with a connection, the next operation fails only as the interface says. A
    count that cannot be told is the only reason for a write to fail otherwise, and closing, which
    the interface has no error for, fails just as the native close does. -/
theorem after_mayShow (known : lib.FaultsOnly) (typed : address.HasTextPath) {c : Connection}
    (made : Connection.new address = .ok c) (s : σ) (moves : List Move) (move : Move) :
    let v := after lib (c, s) moves
    let o := run (move.act lib) v
    (move ≠ .closeDevice → ∀ e, o.answer = .error e → move.MayShow v.1.filter? e) ∧
      (∀ id bytes timeoutMs, move = .writeOutput id bytes timeoutMs →
        o.answer = .error (.defect .numberTooLong) →
        ∃ count < 0, Numeral.isWritable count = false ∧
          (lib.write (UInt8.ofNat id.toNat :: bytes) v.2).answer = .ok count) ∧
      (move = .closeDevice →
        o.answer = if v.1.isOpen then (lib.close v.2).answer else .ok ()) := by
  intro v o
  have fresh : c.address = address := by
    rw [Connection.new] at made
    split at made
    · cases made
    · cases made
      rfl
  have same : v.1.address = address := after_address known typed moves fresh
  refine ⟨?told, ?counted, ?closed⟩
  case told =>
    intro closes e failed
    by_cases filters : ∀ ids?, move ≠ .setFilter ids?
    · exact (move.obeys known typed closes filters v ⟨same, rfl⟩).2 e failed
    · cases move with
      | setFilter ids? => cases failed
      | _ => exact absurd nofun filters
  case counted =>
    rintro id bytes timeoutMs rfl failed
    exact writeOutput_tooLong known (discard_failed failed)
  case closed =>
    rintro rfl
    exact closeDevice_shows lib v

/-- A wait in vain for a time that has too many digits does not end with the error for it. -/
theorem readInput_tooLong {c : Connection} {s : σ} {limit timeoutMs : Int}
    (isOpen : c.isOpen = true) (positive : 0 < timeoutMs)
    (tooLong : Numeral.isWritable timeoutMs = false)
    (silent : (lib.read (limit + 1) (some timeoutMs) s).answer = .ok []) :
    (run (readInput lib limit timeoutMs) (c, s)).answer = .error (.defect .numberTooLong) := by
  have heard : run (readNative lib limit timeoutMs) (c, s) = ⟨.ok [],
      if (lib.read (limit + 1) (some timeoutMs) s).stops then [.stopRequest] else [],
      (c, (lib.read (limit + 1) (some timeoutMs) s).world)⟩ := by
    rw [readNative, if_pos positive, run_native, silent]
  rw [readInput, run_bind_ok (requireOpen_open isOpen _), run_bind_ok (onDeviceFault_ok heard)]
  exact congrArg Except.error (Failure.ofCause_unwritable tooLong)

theorem unplugged_faultsOnly : unplugged.FaultsOnly where
  openIds _ _ _ := nofun
  openPath _ := nofun
  close := by rintro s _ ⟨⟩; rfl
  setNonblocking _ := by rintro s _ ⟨⟩; rfl
  read _ _ := by rintro s _ ⟨⟩; rfl
  write _ := by rintro s _ ⟨⟩; rfl
  getFeature _ _ := by rintro s _ ⟨⟩; rfl

theorem after_mayShow_unplugged :
    let c : Connection := { plugged with isOpen := false }
    let o := run (Move.act unplugged (.readFeature 1 4 1000))
      (after unplugged (c, ()) [.openDevice])
    unplugged.FaultsOnly ∧ c.address.HasTextPath ∧ Connection.new c.address = .ok c ∧
      o.answer = .error (.caused (.featureReadFailed 1 "gone")) ∧
      (Move.readFeature 1 4 1000).MayShow none (.caused (.featureReadFailed 1 "gone")) := by
  have typed : plugged.address.HasTextPath := trivial
  have shown := after_mayShow unplugged_faultsOnly typed rfl () [.openDevice]
    (.readFeature 1 4 1000)
  exact ⟨unplugged_faultsOnly, typed, rfl, rfl, shown.1 nofun _ rfl⟩

/-- The fault of a close that fails is not told by any error of the interface. -/
theorem closeDevice_escapes :
    let c : Connection := { plugged with isOpen := false }
    let o := run (Move.act unplugged .closeDevice) (after unplugged (c, ()) [.openDevice])
    Connection.new c.address = .ok c ∧ o.answer = .error (.fault .system "gone") ∧
      (Failure.fault .system "gone").errorClass? = none :=
  ⟨rfl, rfl, rfl⟩

end Connection

end ChunkRelay
