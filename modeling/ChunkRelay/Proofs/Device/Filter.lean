import ChunkRelay.Proofs.Device.Handle

/-! # The filter of report ids

The filter that was set last governs a connection, whatever becomes of its handle in between. What
goes out is looked at before the native call, so a request with another id changes nothing. What
comes in can only be looked at once it is there: such a report is taken off the device and then held
back. Either way the handle stays, and an empty filter lets nothing pass while none lets all pass.
-/

namespace ChunkRelay

/-- Whether a filter lets an id pass. -/
def Passes (filter? : Option (List Int)) (id : Int) : Prop :=
  ∀ allowed, filter? = some allowed → id ∈ allowed

/-- Whether a call sends out nothing but a report whose id passes. -/
def NativeCall.SendsOnly (passes : Int → Prop) : NativeCall → Prop
  | write bytes _ => ∃ id rest, bytes = id :: rest ∧ passes id.toNat
  | getFeature id _ _ => passes id
  | _ => True

namespace Connection

open Act

variable {σ α β : Type} {lib : NativeLibrary σ} {c : Connection} {filter? : Option (List Int)}

theorem passes_eraseDups : Passes (filter?.map List.eraseDups) = Passes filter? := by
  funext id
  cases filter? <;> simp [Passes]

theorem not_passes {id : Int} :
    ¬Passes filter? id ↔ ∃ allowed, filter? = some allowed ∧ id ∉ allowed := by
  simp [Passes]

theorem checkFilter_passes {s : σ} {id : Int} (passes : Passes c.filter? id) :
    run (checkFilter id) (c, s) = ⟨.ok (), [], (c, s)⟩ := by
  cases filter : c.filter? with
  | none => exact checkFilter_unset filter id
  | some allowed => exact checkFilter_inside filter (passes allowed filter)

theorem checkFilter_ok {v v' : Connection × σ} {id : Int} {notes : List Note}
    (ran : run (checkFilter id) v = ⟨.ok (), notes, v'⟩) : Passes v.1.filter? id := by
  obtain ⟨c, s⟩ := v
  intro allowed filter
  by_cases inside : id ∈ allowed
  · exact inside
  · rw [checkFilter_outside filter inside] at ran
    cases ran

/-! ## Actions under a filter -/

/-- A failure that is about an id only if the filter holds it back or one of the calls has failed
    like that. -/
def Blamed (filter? : Option (List Int)) (calls : List NativeCall) (e : Failure) : Prop :=
  ∀ id allowed, e = .caused (.filteredOut id allowed) →
    ¬Passes filter? id ∨ ∃ call ∈ calls, call.failure? = some e

/-- What an action leaves behind under a filter that it keeps. -/
structure Governed (filter? : Option (List Int)) (v : Connection × Traced σ)
    (o : Outcome (Connection × Traced σ) α) : Prop where
  filter : o.world.1.filter? = filter?
  calls : ∃ calls, o.world.2.native = v.2.native ++ calls ∧
    (∀ call ∈ calls, call.SendsOnly (Passes filter?)) ∧
    ∀ e, o.answer = .error e → Blamed filter? calls e

theorem Governed.next {v : Connection × Traced σ} {o : Outcome (Connection × Traced σ) α}
    {o' : Outcome (Connection × Traced σ) β} {notes : List Note} (first : Governed filter? v o)
    (second : Governed filter? o.world o') : Governed filter? v (o'.after notes) := by
  obtain ⟨calls, native, sends, -⟩ := first.calls
  obtain ⟨more, native', sends', blamed⟩ := second.calls
  refine ⟨second.filter, calls ++ more, ?_, ?_, fun e failed id allowed about => ?_⟩
  · rw [Outcome.after_world, native', native, List.append_assoc]
  · exact List.forall_mem_append.mpr ⟨sends, sends'⟩
  · refine (blamed e failed id allowed about).imp_right ?_
    rintro ⟨call, member, failure⟩
    exact ⟨call, List.mem_append_right _ member, failure⟩

/-- An action that is governed by the filter from wherever it starts. -/
def Governs (filter? : Option (List Int)) (x : Act (Connection × Traced σ) α) : Prop :=
  ∀ v, v.1.filter? = filter? → Governed filter? v (run x v)

namespace Governs

variable {x : Act (Connection × Traced σ) α}

/-- An action that makes no calls and keeps the filter. -/
theorem still (native : ∀ v, (run x v).world.2.native = v.2.native)
    (filter : ∀ v, (run x v).world.1.filter? = v.1.filter?)
    (fails : ∀ v e, (run x v).answer = .error e → Blamed filter? [] e) : Governs filter? x := by
  intro v same
  refine ⟨(filter v).trans same, [], ?_, List.forall_mem_nil _, fails v⟩
  rw [native, List.append_nil]

theorem pure (a : α) : Governs (σ := σ) filter? (Pure.pure a) :=
  still (fun _ => rfl) (fun _ => rfl) fun _ _ failed => nomatch failed

theorem log (level : Level) (source : Source) (message : String) :
    Governs (σ := σ) filter? (Act.log level source message) :=
  still (fun _ => rfl) (fun _ => rfl) fun _ _ failed => nomatch failed

theorem update {f : Connection → Connection} (kept : ∀ c, (f c).filter? = c.filter?) :
    Governs (σ := σ) filter? (update f) :=
  still (fun _ => rfl) (fun v => kept v.1) fun _ _ failed => nomatch failed

theorem fail {e : Failure} (other : ∀ id allowed, e ≠ .caused (.filteredOut id allowed)) :
    Governs filter? (fail e : Act (Connection × Traced σ) α) := by
  refine still (fun _ => rfl) (fun _ => rfl) ?_
  rintro v _ ⟨⟩ id allowed about
  exact absurd about (other id allowed)

theorem requireOpen (operation : String) :
    Governs (σ := σ) filter? (requireOpen operation) := by
  rintro ⟨c, t⟩ same
  cases isOpen : c.isOpen with
  | true =>
      rw [requireOpen_open isOpen]
      exact pure () (c, t) same
  | false =>
      rw [requireOpen_closed isOpen]
      exact fail (e := .caused (.notOpen operation)) (by simp) (c, t) same

theorem bind {f : α → Act (Connection × Traced σ) β} (first : Governs filter? x)
    (then_ : ∀ a, Governs filter? (f a)) : Governs filter? (x >>= f) := by
  intro v same
  have governed := first v same
  rcases ran : run x v with ⟨e | a, notes, v'⟩ <;> rw [ran] at governed
  · rw [run_bind_error ran]
    obtain ⟨filter, calls, native, sends, blamed⟩ := governed
    refine ⟨filter, calls, native, sends, ?_⟩
    rintro _ ⟨⟩
    exact blamed e rfl
  · rw [run_bind_ok ran]
    exact governed.next (then_ a v' governed.filter)

theorem discard (governs : Governs filter? x) : Governs filter? (discard x) :=
  governs.bind fun _ => .pure ()

/-- What comes after the check may rely on the id. -/
theorem checked {id : Int} {f : Unit → Act (Connection × Traced σ) α}
    (then_ : Passes filter? id → Governs filter? (f ())) :
    Governs filter? (checkFilter id >>= f) := by
  rintro ⟨c, t⟩ rfl
  by_cases passes : Passes c.filter? id
  · rw [run_bind_ok (checkFilter_passes passes), Outcome.after_nil]
    exact then_ passes _ rfl
  · obtain ⟨allowed, filter, outside⟩ := not_passes.mp passes
    rw [run_bind_error (checkFilter_outside filter outside)]
    refine ⟨rfl, [], (List.append_nil _).symm, List.forall_mem_nil _, ?_⟩
    rintro _ ⟨⟩ _ _ ⟨⟩
    exact Or.inl passes

theorem state {f : Connection → Act (Connection × Traced σ) α}
    (next : ∀ c : Connection, Governs filter? (f c)) :
    Governs filter? (Connection.state >>= f) :=
  fun v same => next v.1 v same

theorem onDeviceFault {handle : String → Act (Connection × Traced σ) α}
    (first : Governs filter? x) (handled : ∀ reason, Governs filter? (handle reason)) :
    Governs filter? (onDeviceFault x handle) := by
  rintro ⟨c, t⟩ same
  have governed := first (c, t) same
  rcases ran : run x (c, t) with ⟨e | a, notes, c', t'⟩ <;> rw [ran] at governed
  · cases fault : e.isDeviceFault with
    | true =>
        rw [onDeviceFault_fault ran fault]
        exact governed.next (handled e.message (c', t') governed.filter)
    | false => rwa [onDeviceFault_other ran fault]
  · rwa [onDeviceFault_ok ran]

theorem native {enter : Except Failure α → NativeCall} (call : Call σ α)
    (sends : ∀ answer, (enter answer).SendsOnly (Passes filter?))
    (fails : ∀ e, (enter (.error e)).failure? = some e) :
    Governs filter? (native (call.asNative enter)) := by
  intro v same
  refine ⟨same, [enter (call v.2.world).answer], rfl, ?_, ?_⟩
  · simpa using sends _
  · intro e failed id allowed about
    have answered : (call v.2.world).answer = .error e := failed
    exact Or.inr ⟨_, List.mem_singleton_self _, by rw [answered, fails]⟩

theorem kept {v v' : Connection × Traced σ} {answer : Except Failure α} {notes : List Note}
    (governs : Governs v.1.filter? x) (ran : run x v = ⟨answer, notes, v'⟩) :
    v'.1.filter? = v.1.filter? := by
  have filter := (governs v rfl).filter
  rwa [ran] at filter

theorem dropHandle : Governs (σ := σ) filter? (dropHandle lib.traced) := by
  refine state fun c => ?_
  split
  · refine Governs.bind (.update fun _ => rfl) fun _ => .onDeviceFault ?_ fun _ => .log _ _ _
    exact native _ (fun _ => trivial) fun _ => rfl
  · exact pure _

theorem guarded {cause : String → Cause} (first : Governs filter? x)
    (other : ∀ reason id allowed, cause reason ≠ .filteredOut id allowed) :
    Governs filter? (Connection.onDeviceFault x fun reason => do
      Connection.dropHandle lib.traced
      Act.failWith (cause reason)) :=
  onDeviceFault first fun reason => dropHandle.bind fun _ =>
    fail fun id allowed about => other reason id allowed (Failure.ofCause_eq_caused.mp about).2

end Governs

/-! ## Operations -/

theorem openDevice_governs : Governs (σ := σ) filter? (openDevice lib.traced) := by
  refine .state fun c => ?_
  split
  · exact .pure _
  · refine Governs.bind (.onDeviceFault ?_ fun _ => .fail (by simp)) fun _ => .update fun _ => rfl
    rw [openNative]
    split
    · cases c.address.path with
      | text path => exact .native _ (fun _ => trivial) fun _ => rfl
      | _ => exact .fail (by simp)
    · exact .native _ (fun _ => trivial) fun _ => rfl

theorem closeDevice_governs : Governs (σ := σ) filter? (closeDevice lib.traced) := by
  rintro ⟨c, t⟩ same
  cases isOpen : c.isOpen with
  | false =>
      rw [closeDevice_closed isOpen]
      exact Governs.pure () (c, t) same
  | true =>
      -- Whatever becomes of the native call, the handle is forgotten and the filter is not.
      obtain ⟨notes, ran⟩ := closeDevice_open lib.traced (s := t) isOpen
      have closes : Governs filter? (native (lib.close.asNative .close)) :=
        .native _ (fun _ => trivial) fun _ => rfl
      have ⟨filter, calls⟩ := closes (c, t) same
      rw [ran]
      exact ⟨filter, calls⟩

theorem setNonblocking_governs (nonblocking : Bool) :
    Governs (σ := σ) filter? (setNonblocking lib.traced nonblocking) := by
  refine (Governs.requireOpen _).bind fun _ => ?_
  refine Governs.bind (.onDeviceFault ?_ fun _ => .fail (by simp)) fun _ => .update fun _ => rfl
  exact .native _ (fun _ => trivial) fun _ => rfl

theorem readFeature_governs (id limit : Int) :
    Governs (σ := σ) filter? (readFeature lib.traced id limit) := by
  refine (Governs.requireOpen _).bind fun _ => .checked fun passes => ?_
  refine Governs.bind (.guarded ?_ (by simp)) fun _ => .pure _
  exact .native _ (fun _ => passes) fun _ => rfl

theorem writeOutput_governs (id : Int) (bytes : List UInt8) :
    Governs (σ := σ) filter? (writeOutput lib.traced id bytes) := by
  refine (Governs.requireOpen _).bind fun _ => .checked fun passes => ?_
  refine Governs.bind (.guarded ?_ (by simp)) fun count => ?_
  · rw [writeNative]
    split
    · next isByte =>
        refine .native _ (fun _ => ⟨_, _, rfl, ?_⟩) fun _ => rfl
        have sent : ((UInt8.ofNat id.toNat).toNat : Int) = id := by
          rw [UInt8.toNat_ofNat_of_lt' (by change _ < 256; omega)]
          exact Int.toNat_of_nonneg isByte.1
        rwa [sent]
    · exact .fail (by simp)
  · split
    · exact .fail (by simp)
    · exact .pure _

theorem readNative_governs (limit timeoutMs : Int) :
    Governs (σ := σ) filter? (readNative lib.traced limit timeoutMs) := by
  have reads (timeoutMs? : Option Int) :
      Governs (σ := σ) filter? (native (lib.traced.read (limit + 1) timeoutMs?)) :=
    .native _ (fun _ => trivial) fun _ => rfl
  rw [readNative]
  split
  · exact reads _
  · refine .state fun c => ?_
    split
    · exact (setNonblocking_governs _).bind fun _ => reads none
    · exact reads none

theorem readInput_governs (limit timeoutMs : Int) :
    Governs (σ := σ) filter? (readInput lib.traced limit timeoutMs) := by
  refine (Governs.requireOpen _).bind fun _ => ?_
  refine Governs.bind (.guarded (readNative_governs limit timeoutMs) (by simp)) fun bytes => ?_
  cases bytes with
  | nil => exact .fail (by simp)
  | cons id rest => exact .checked fun _ => .pure _

theorem Move.governs {move : Move} (keeps : ∀ ids?, move ≠ .setFilter ids?) :
    Governs (σ := σ) filter? (move.act lib.traced) := by
  cases move with
  | openDevice => exact openDevice_governs
  | closeDevice => exact closeDevice_governs
  | setNonblocking nonblocking => exact setNonblocking_governs nonblocking
  | setFilter ids? => exact absurd rfl (keeps ids?)
  | readFeature id limit timeoutMs => exact (readFeature_governs id limit).discard
  | writeOutput id bytes timeoutMs => exact (writeOutput_governs id bytes).discard
  | readInput limit timeoutMs => exact (readInput_governs limit timeoutMs).discard

/-! ## Input reports -/

theorem Listening.answered {size timeoutMs : Int} {nonblocking : Bool} {calls : List NativeCall}
    {answer heard : Except Failure (List UInt8)} {size' : Int} {timeoutMs? : Option Int}
    (listening : Listening size timeoutMs nonblocking calls answer)
    (member : .read size' timeoutMs? heard ∈ calls) : answer = heard := by
  cases listening <;> simp_all

/-- A report that has come in is passed on or held back, and either way the handle stays. -/
theorem readInput_heard (lib : NativeLibrary σ) (limit timeoutMs : Int)
    (v : Connection × Traced σ) :
    let o := run (readInput lib.traced limit timeoutMs) v
    ∃ calls, o.world.2.native = v.2.native ++ calls ∧
      ∀ size timeoutMs? id rest, .read size timeoutMs? (.ok (id :: rest)) ∈ calls →
        o.world.1.isOpen = true ∧
        (Passes v.1.filter? id.toNat →
          o.answer = .ok (id.toNat, window (id :: rest) 1 (1 + limit))) ∧
        ∀ allowed, v.1.filter? = some allowed → (id.toNat : Int) ∉ allowed →
          o.answer = .error (.caused (.filteredOut id.toNat (allowed.mergeSort (· ≤ ·)))) := by
  obtain ⟨c, t⟩ := v
  cases isOpen : c.isOpen with
  | false =>
      rw [readInput, run_bind_error (requireOpen_closed isOpen _)]
      exact ⟨[], (List.append_nil _).symm, fun _ _ _ _ member => absurd member List.not_mem_nil⟩
  | true =>
      obtain ⟨calls, answer, notes, t', ran, native, _, listening⟩ :=
        readNative_listening lib t isOpen limit timeoutMs
      generalize became : ({ c with nonblocking := _ } : Connection) = c' at ran
      have stillOpen : c'.isOpen = true := by rw [← became, isOpen]
      have sameFilter : c'.filter? = c.filter? := by rw [← became]
      have world := @readInput_world _ c lib.traced t isOpen limit timeoutMs
      rcases guarded_cases lib.traced .readFailed ran stillOpen with
        ⟨_, kept⟩ | ⟨e, more, failed, _, dropped⟩
      · rw [kept] at world
        refine ⟨calls, by rw [world, native], fun size timeoutMs? id rest member => ?_⟩
        obtain rfl := listening.answered member
        rw [world, readInput, run_bind_ok (requireOpen_open isOpen _), run_bind_ok kept]
        refine ⟨stillOpen, fun passes => ?_, fun allowed filter outside => ?_⟩
        · have passed := checkFilter_passes (s := t') (sameFilter ▸ passes)
          exact congrArg Outcome.answer (run_bind_ok passed)
        · have held := checkFilter_outside (s := t') (sameFilter.trans filter) outside
          exact congrArg Outcome.answer (run_bind_error held)
      · rw [dropped] at world
        refine ⟨calls ++ [.close (lib.close t'.world).answer], ?_, ?_⟩
        · rw [world, ← List.append_assoc, ← native]
          rfl
        · intro size timeoutMs? id rest member
          have heard := listening.answered (by simpa using member)
          rw [failed] at heard
          cases heard

theorem readInput_passed {limit timeoutMs id : Int} {bytes : List UInt8}
    {v v' : Connection × Traced σ} {notes : List Note}
    (ran : run (readInput lib.traced limit timeoutMs) v = ⟨.ok (id, bytes), notes, v'⟩) :
    Passes v.1.filter? id := by
  obtain ⟨_, _, opened, _, required, listened, -⟩ := bind_returned ran
  obtain ⟨heard, _, reached, _, listening, judged, -⟩ := bind_returned listened
  have kept : reached.1.filter? = v.1.filter? := by
    have first := Governs.kept (.requireOpen _) required
    refine Eq.trans (Governs.kept ?_ listening) first
    exact .guarded (readNative_governs limit timeoutMs) (by simp)
  cases heard with
  | nil => cases judged
  | cons first rest =>
      obtain ⟨_, _, _, _, checked, answered, -⟩ := bind_returned judged
      cases answered
      rw [← kept]
      exact checkFilter_ok checked

/-! ## Requests -/

/-- A request with an id that the filter holds back comes to nothing. -/
theorem gated_outside {s : σ} {allowed : List Int} {id : Int} (isOpen : c.isOpen = true)
    (filter : c.filter? = some allowed) (outside : id ∉ allowed) (operation : String)
    (x : Act (Connection × σ) α) :
    run (do requireOpen operation; checkFilter id; x) (c, s) =
      ⟨.error (.caused (.filteredOut id (allowed.mergeSort (· ≤ ·)))), [], (c, s)⟩ := by
  rw [run_bind_ok (requireOpen_open isOpen operation),
    run_bind_error (checkFilter_outside filter outside)]
  rfl

/-! ## Histories -/

/-- The filter after a move, given the one before it. -/
def Move.filterAfter (filter? : Option (List Int)) : Move → Option (List Int)
  | setFilter ids? => ids?
  | _ => filter?

/-- The filter that was set last. -/
def latestFilter (moves : List Move) : Option (List Int) := moves.foldl Move.filterAfter none

theorem Move.filter_after (move : Move) {v : Connection × Traced σ}
    (same : v.1.filter? = filter?.map List.eraseDups) :
    (run (move.act lib.traced) v).world.1.filter? =
      (move.filterAfter filter?).map List.eraseDups := by
  have kept (keeps : ∀ ids?, move ≠ .setFilter ids?) :
      (run (move.act lib.traced) v).world.1.filter? = filter?.map List.eraseDups :=
    (Move.governs keeps v same).filter
  cases move with
  | setFilter ids? => rfl
  | _ => exact kept nofun

theorem after_filter (moves : List Move) {v : Connection × Traced σ}
    (same : v.1.filter? = filter?.map List.eraseDups) :
    (after lib.traced v moves).1.filter? =
      (moves.foldl Move.filterAfter filter?).map List.eraseDups := by
  induction moves generalizing v filter? with
  | nil => exact same
  | cons move moves ih => exact ih (move.filter_after same)

/-- The failure of a report whose id a filter holds back. It lists the ids that pass, each of them
    once and in order. -/
def refusal (allowed : List Int) (id : Int) : Failure :=
  .caused (.filteredOut id (allowed.eraseDups.mergeSort (· ≤ ·)))

/-- A connection on which the next operation is governed by a filter. -/
structure Enforces (lib : NativeLibrary σ) (filter? : Option (List Int))
    (v : Connection × Traced σ) : Prop where
  /-- No native request and no native write is for an id that does not pass, and no operation fails
      for an id that passes, unless a native call has failed like that. -/
  sent : ∀ move : Move, let o := run (move.act lib.traced) v
    ∃ calls, o.world.2.native = v.2.native ++ calls ∧
      (∀ call ∈ calls, call.SendsOnly (Passes filter?)) ∧
      ∀ e, o.answer = .error e → Blamed filter? calls e
  /-- No report with an id that does not pass is received. -/
  received : ∀ limit timeoutMs id bytes,
    (run (readInput lib.traced limit timeoutMs) v).answer = .ok (id, bytes) → Passes filter? id
  /-- A request with such an id is refused and changes nothing. -/
  refused : v.1.isOpen = true → ∀ allowed, filter? = some allowed → ∀ id, id ∉ allowed →
    (∀ limit, run (readFeature lib.traced id limit) v = ⟨.error (refusal allowed id), [], v⟩) ∧
    ∀ bytes, run (writeOutput lib.traced id bytes) v = ⟨.error (refusal allowed id), [], v⟩
  /-- A report that has come in is passed on if its id passes and refused if it does not. Either way
      the handle stays. -/
  heard : ∀ limit timeoutMs, let o := run (readInput lib.traced limit timeoutMs) v
    ∃ calls, o.world.2.native = v.2.native ++ calls ∧
      ∀ size timeoutMs? id rest, .read size timeoutMs? (.ok (id :: rest)) ∈ calls →
        o.world.1.isOpen = true ∧
        (Passes filter? id.toNat →
          o.answer = .ok (id.toNat, window (id :: rest) 1 (1 + limit))) ∧
        ∀ allowed, filter? = some allowed → (id.toNat : Int) ∉ allowed →
          o.answer = .error (refusal allowed id.toNat)

theorem enforces {v : Connection × Traced σ} (same : v.1.filter? = filter?.map List.eraseDups) :
    Enforces lib filter? v := by
  have passes : Passes v.1.filter? = Passes filter? := by rw [same, passes_eraseDups]
  have stored {allowed : List Int} (given : filter? = some allowed) :
      v.1.filter? = some allowed.eraseDups := by rw [same, given, Option.map_some]
  constructor
  case sent =>
    intro move
    have governed (keeps : ∀ ids?, move ≠ .setFilter ids?) :
        Governed v.1.filter? v (run (move.act lib.traced) v) := Move.governs keeps v rfl
    cases move with
    | setFilter ids? =>
        refine ⟨[], (List.append_nil _).symm, List.forall_mem_nil _, ?_⟩
        exact fun _ failed => nomatch failed
    | _ =>
        have calls := (governed nofun).calls
        simp only [Blamed, passes] at calls
        exact calls
  case received =>
    intro limit timeoutMs id bytes answered
    rcases ran : run (readInput lib.traced limit timeoutMs) v with ⟨answer, notes, v'⟩
    rw [ran] at answered
    cases answered
    exact passes ▸ readInput_passed ran
  case refused =>
    intro isOpen allowed given id outside
    obtain ⟨c, t⟩ := v
    have held : id ∉ allowed.eraseDups := by simpa using outside
    exact ⟨fun limit => gated_outside isOpen (stored given) held _ _,
      fun bytes => gated_outside isOpen (stored given) held _ _⟩
  case heard =>
    intro limit timeoutMs
    obtain ⟨calls, native, heard⟩ := readInput_heard lib limit timeoutMs v
    refine ⟨calls, native, fun size timeoutMs? id rest member => ?_⟩
    obtain ⟨isOpen, passed, held⟩ := heard size timeoutMs? id rest member
    refine ⟨isOpen, passes ▸ passed, fun allowed given outside => ?_⟩
    exact held _ (stored given) (by simpa using outside)

/-- Whatever has been done with a connection, the filter that was set last governs what is done
    next. Without one no report is refused for its id. -/
theorem after_enforces (lib : NativeLibrary σ) (address : DeviceAddress) (s : σ)
    (moves : List Move) :
    (∀ allowed id, (refusal allowed id).errorClass? = some .wrongReport) ∧
    Enforces lib (latestFilter moves)
      (after lib.traced (⟨address, false, false, none⟩, Traced.new s) moves) :=
  ⟨fun _ _ => rfl, enforces (after_filter moves rfl)⟩

/-- A library with a device that sends nothing but reports with the id nine. -/
def chatty : NativeLibrary Unit :=
  let done : Call Unit Unit := fun _ => ⟨.ok (), false, ()⟩
  { openIds := fun _ _ _ => done
    openPath := fun _ => done
    close := done
    setNonblocking := fun _ => done
    read := fun _ _ _ => ⟨.ok [9, 0], false, ()⟩
    write := fun bytes _ => ⟨.ok bytes.length, false, ()⟩
    getFeature := fun _ _ _ => ⟨.ok [], false, ()⟩
    enumerate := fun _ _ _ => ⟨.ok [], false, ()⟩ }

/-- A filter outlives the handle for which it was set. -/
theorem after_enforces_reopened :
    let moves := [.setFilter (some [6, 5, 6]), .openDevice, .closeDevice, .openDevice]
    let v := after chatty.traced (⟨⟨.null, 1, 2, .null⟩, false, false, none⟩, Traced.new ()) moves
    v.1.isOpen = true ∧ latestFilter moves = some [6, 5, 6] ∧
      run (readFeature chatty.traced 2 4) v =
        ⟨.error (.caused (.filteredOut 2 [5, 6])), [], v⟩ ∧
      let o := run (readInput chatty.traced 64 100) v
      o.answer = .error (.caused (.filteredOut 9 [5, 6])) ∧ o.world.1.isOpen = true := by
  intro moves v
  obtain ⟨-, governed⟩ := after_enforces chatty ⟨.null, 1, 2, .null⟩ () moves
  have isOpen : v.1.isOpen = true := rfl
  have sorted (id : Int) : refusal [6, 5, 6] id = .caused (.filteredOut id [5, 6]) := by
    have inOrder : [6, 5].mergeSort (· ≤ ·) = ([5, 6] : List Int) := by simp [List.mergeSort]
    exact congrArg (fun ids => Failure.caused (.filteredOut id ids)) inOrder
  refine ⟨isOpen, rfl, ?_, ?_⟩
  · rw [← sorted]
    exact (governed.refused isOpen _ rfl 2 (by decide)).1 4
  · obtain ⟨calls, native, heard⟩ := governed.heard 64 100
    obtain rfl : [.read 65 (some 100) (.ok [9, 0])] = calls := List.append_cancel_left native
    obtain ⟨stillOpen, -, held⟩ := heard 65 (some 100) 9 [0] List.mem_cons_self
    have answered := held [6, 5, 6] rfl (by decide)
    rw [sorted] at answered
    exact ⟨answered, stillOpen⟩

end Connection

end ChunkRelay
