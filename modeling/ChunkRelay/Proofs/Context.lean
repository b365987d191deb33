import ChunkRelay.Context
import ChunkRelay.Proofs.Act
import Mathlib.Data.List.Forall2

/-! # What a context owns

A context keeps track of the devices that it has opened and that have not been given back since,
whatever fails on the way: making a transport, opening it, or closing it after it is no longer
tracked. Tearing the context down closes each of them once, also those behind one that cannot be
closed. So nothing that the context has opened is left open, and it opens nothing from then on.

What is opened and closed is read off a record that the backend keeps of its calls.
-/

namespace ChunkRelay

/-- A call of a context's backend with what became of it. -/
inductive BackendCall (η : Type) where
  | make (selector : DeviceSelector) (answer : Except Failure η)
  | opening (device : η) (answer : Except Failure Unit)
  | closing (device : η) (answer : Except Failure Unit)
  | enumerate (vendor product : Int) (answer : Except Failure (List DeviceInfo))

namespace BackendCall

variable {η : Type}

def made? : BackendCall η → Option η
  | make _ (.ok device) => some device
  | _ => none

/-- Whether a call opens a device or closes it, if it does either. A close counts even if it
    fails. -/
def opens? [DecidableEq η] (device : η) : BackendCall η → Option Bool
  | opening other (.ok _) => if other = device then some true else none
  | closing other _ => if other = device then some false else none
  | _ => none

def Closes (device : η) (call : BackendCall η) : Prop := ∃ answer, call = closing device answer

end BackendCall

/-- A world with the calls of a backend so far, the first one first. -/
structure Logbook (η ω : Type) where
  world : ω
  calls : List (BackendCall η)

namespace Logbook

variable {η ω : Type}

def part : Focus (Logbook η ω) ω where
  get := world
  set world l := { l with world }

def made (l : Logbook η ω) : List η := l.calls.filterMap BackendCall.made?

theorem made_append (w w' : ω) (calls more : List (BackendCall η)) :
    (⟨w, calls ++ more⟩ : Logbook η ω).made =
      (⟨w', calls⟩ : Logbook η ω).made ++ more.filterMap BackendCall.made? :=
  List.filterMap_append

end Logbook

variable {η ω α : Type}

/-- An action that is put on record as the given call. -/
def Act.entered (enter : Except Failure α → BackendCall η) (x : Act ω α) : Act (Logbook η ω) α :=
  fun l =>
    let o := run x l.world
    ⟨o.answer, o.notes, ⟨o.world, l.calls ++ [enter o.answer]⟩⟩

namespace DeviceBackend

def recorded (b : DeviceBackend η ω) : DeviceBackend η (Logbook η ω) where
  make selector := (b.make selector).entered (.make selector)
  openDevice device := (b.openDevice device).entered (.opening device)
  closeDevice device := (b.closeDevice device).entered (.closing device)
  enumerate vendor product := (b.enumerate vendor product).entered (.enumerate vendor product)
  log level message := (b.log level message).within Logbook.part

/-- The log of the backend takes every record. -/
def LogsAll (b : DeviceBackend η ω) : Prop :=
  ∀ level message w, ∃ notes w', Act.run (b.log level message) w = ⟨.ok (), notes, w'⟩

end DeviceBackend

/-! ## Devices that are open -/

section HeldOpen

variable [DecidableEq η] {device : η} {calls : List (BackendCall η)}

/-- Whether the latest call that has opened or closed a device has opened it. -/
def heldOpen (device : η) (calls : List (BackendCall η)) : Bool :=
  (calls.filterMap (BackendCall.opens? device)).getLast?.getD false

theorem heldOpen_append (device : η) (calls : List (BackendCall η)) (call : BackendCall η) :
    heldOpen device (calls ++ [call]) = (call.opens? device).getD (heldOpen device calls) := by
  rw [heldOpen, List.filterMap_append]
  cases opens : call.opens? device with
  | none => simp [opens, heldOpen]
  | some opened => simp [opens]

theorem heldOpen_opened (other : η) :
    heldOpen device (calls ++ [.opening other (.ok ())]) = true ↔
      other = device ∨ heldOpen device calls = true := by
  rw [heldOpen_append, BackendCall.opens?]
  split <;> simp [*]

theorem heldOpen_closed {call : BackendCall η} {other : η} (closes : call.Closes other) :
    heldOpen device (calls ++ [call]) = true ↔ heldOpen device calls = true ∧ device ≠ other := by
  obtain ⟨answer, rfl⟩ := closes
  rw [heldOpen_append, BackendCall.opens?]
  split
  · simp [*]
  · simp [Ne.symm ‹¬other = device›]

theorem heldOpen_closings {devices : List η} {closings : List (BackendCall η)}
    (closed : List.Forall₂ BackendCall.Closes devices closings) :
    heldOpen device (calls ++ closings) = true ↔
      heldOpen device calls = true ∧ device ∉ devices := by
  induction closed generalizing calls with
  | nil => simp
  | cons closes _ ih =>
      rw [List.append_cons, ih, heldOpen_closed closes, List.mem_cons]
      tauto

/-- What was opened at any time and is not open has been closed. -/
theorem closed_of_opened (opened : .opening device (.ok ()) ∈ calls)
    (unheld : heldOpen device calls = false) : ∃ call ∈ calls, call.Closes device := by
  have opens : true ∈ calls.filterMap (BackendCall.opens? device) :=
    List.mem_filterMap.mpr ⟨_, opened, if_pos rfl⟩
  cases latest : (calls.filterMap (BackendCall.opens? device)).getLast? with
  | none =>
      rw [List.getLast?_eq_none_iff.mp latest] at opens
      cases opens
  | some opened =>
      rw [heldOpen, latest, Option.getD_some] at unheld
      subst unheld
      obtain ⟨call, member, closes⟩ := List.mem_filterMap.mp (List.mem_of_getLast? latest)
      refine ⟨call, member, ?_⟩
      rcases call with _ | ⟨other, _ | _⟩ | ⟨other, answer⟩ | _ <;>
        simp only [BackendCall.opens?, reduceCtorEq] at closes
      · split at closes <;> cases closes
      · split at closes
        · next same => exact ⟨answer, by rw [same]⟩
        · cases closes

end HeldOpen

namespace Context

open Act

variable {c : Context η} {w : ω}

@[simp] theorem run_state : run state (c, w) = ⟨.ok c, [], (c, w)⟩ := rfl

@[simp] theorem run_update (f : Context η → Context η) :
    run (update f) (c, w) = ⟨.ok (), [], (f c, w)⟩ := rfl

theorem outside_run {x : Act ω α} {answer : Except Failure α} {notes : List Note} {w' : ω}
    (ran : run x w = ⟨answer, notes, w'⟩) :
    run (outside x) (c, w) = ⟨answer, notes, (c, w')⟩ := run_within_of ran

theorem run_entered {enter : Except Failure α → BackendCall η} {x : Act ω α} {l : Logbook η ω}
    {answer : Except Failure α} {notes : List Note} (ran : run x l.world = ⟨answer, notes, w⟩) :
    run (x.entered enter) l = ⟨answer, notes, ⟨w, l.calls ++ [enter answer]⟩⟩ := by
  rw [run] at ran
  rw [run, entered, run, ran]

/-! ## Operations -/

section Operations

variable {b : DeviceBackend η ω} {l : Logbook η ω}

theorem make_recorded {selector : DeviceSelector} {answer : Except Failure η} {notes : List Note}
    (ran : run (b.make selector) l.world = ⟨answer, notes, w⟩) :
    run (outside (b.recorded.make selector)) (c, l) =
      ⟨answer, notes, (c, ⟨w, l.calls ++ [.make selector answer]⟩)⟩ :=
  outside_run (run_entered ran)

theorem openDevice_recorded {device : η} {answer : Except Failure Unit} {notes : List Note}
    (ran : run (b.openDevice device) l.world = ⟨answer, notes, w⟩) :
    run (outside (b.recorded.openDevice device)) (c, l) =
      ⟨answer, notes, (c, ⟨w, l.calls ++ [.opening device answer]⟩)⟩ :=
  outside_run (run_entered ran)

theorem closeDevice_recorded (b : DeviceBackend η ω) (device : η) (c : Context η)
    (l : Logbook η ω) :
    ∃ answer notes w, run (outside (b.recorded.closeDevice device)) (c, l) =
      ⟨answer, notes, (c, ⟨w, l.calls ++ [.closing device answer]⟩)⟩ :=
  ⟨_, _, _, outside_run (run_entered rfl)⟩

theorem log_recorded (logs : b.LogsAll) (level : Level) (message? : Option String) :
    ∃ notes w, run (outside (b.recorded.log level message?)) (c, l) =
      ⟨.ok (), notes, (c, ⟨w, l.calls⟩)⟩ := by
  obtain ⟨notes, w, ran⟩ := logs level message? l.world
  exact ⟨notes, w, outside_run (run_within_of ran)⟩

/-- How a device is opened: no transport can be made for it, or it cannot be opened, or it is
    tracked from then on. -/
inductive Opening (selector : DeviceSelector) (c : Context η) (calls : List (BackendCall η)) :
    Except Failure η → Context η × Logbook η ω → Prop where
  | unmade (e : Failure) (w : ω) :
      Opening selector c calls (.error e) (c, ⟨w, calls ++ [.make selector (.error e)]⟩)
  | refused (device : η) (e : Failure) (w : ω) :
      Opening selector c calls (.error e)
        (c, ⟨w, calls ++ [.make selector (.ok device)] ++ [.opening device (.error e)]⟩)
  | opened (device : η) (w : ω) :
      Opening selector c calls (.ok device) ({ c with tracked := c.tracked ++ [device] },
        ⟨w, calls ++ [.make selector (.ok device)] ++ [.opening device (.ok ())]⟩)

theorem openSelected_opening (logs : b.LogsAll) (selector : DeviceSelector) (c : Context η)
    (l : Logbook η ω) :
    ∃ answer notes v, run (openSelected b.recorded selector) (c, l) = ⟨answer, notes, v⟩ ∧
      Opening selector c l.calls answer v := by
  rw [openSelected]
  rcases making : run (b.make selector) l.world with ⟨e | device, _, w⟩
  · rw [run_bind_error (make_recorded making)]
    exact ⟨_, _, _, rfl, .unmade e w⟩
  rw [run_bind_ok (make_recorded making)]
  rcases opening : run (b.openDevice device) w with ⟨e | _, _, w⟩
  · rw [run_bind_error (openDevice_recorded opening)]
    exact ⟨_, _, _, rfl, .refused device e w⟩
  rw [run_bind_ok (openDevice_recorded opening), run_bind_ok (run_update _)]
  obtain ⟨_, w, logged⟩ := log_recorded logs .info selector.openedMessage?
  rw [run_bind_ok logged]
  exact ⟨_, _, _, rfl, .opened device w⟩

theorem requireActive_torn (operation : String) (torn : c.active = false) (w : ω) :
    run (requireActive operation) (c, w) =
      ⟨.error (.caused (.contextTornDown operation)), [], (c, w)⟩ := by
  rw [requireActive, run_bind_ok run_state, torn]
  rfl

theorem requireActive_active (operation : String) (active : c.active = true) (w : ω) :
    run (requireActive operation) (c, w) = ⟨.ok (), [], (c, w)⟩ := by
  rw [requireActive, run_bind_ok run_state, active]
  rfl

theorem closeAll_closings (logs : b.LogsAll) (devices : List η) (c : Context η)
    (l : Logbook η ω) :
    ∃ notes w closings, run (closeAll b.recorded devices) (c, l) =
        ⟨.ok (), notes, (c, ⟨w, l.calls ++ closings⟩)⟩ ∧
      List.Forall₂ BackendCall.Closes devices closings := by
  induction devices generalizing l with
  | nil => exact ⟨_, l.world, [], by rw [List.append_nil]; rfl, .nil⟩
  | cons device rest ih =>
      obtain ⟨answer, notes, w, closing⟩ := closeDevice_recorded b device c l
      have closed : ∃ notes w, run (tryCatch (outside (b.recorded.closeDevice device)) fun _ =>
            outside (b.recorded.log .error "HID_TRANSPORT_CLOSE_FAILED")) (c, l) =
          ⟨.ok (), notes, (c, ⟨w, l.calls ++ [.closing device answer]⟩)⟩ := by
        cases answer with
        | ok => exact ⟨_, _, run_tryCatch_ok closing⟩
        | error e =>
            obtain ⟨_, w, logged⟩ := log_recorded (c := c)
              (l := ⟨w, l.calls ++ [.closing device (.error e)]⟩) logs .error
              "HID_TRANSPORT_CLOSE_FAILED"
            rw [run_tryCatch_error closing, logged]
            exact ⟨_, _, rfl⟩
      obtain ⟨before, w, closed⟩ := closed
      obtain ⟨more, w, closings, others, rest_closed⟩ :=
        ih ⟨w, l.calls ++ [.closing device answer]⟩
      rw [closeAll, run_bind_ok closed, others, Outcome.after_mk, ← List.append_cons]
      exact ⟨_, w, _, rfl, .cons ⟨answer, rfl⟩ rest_closed⟩

theorem teardown_torn (torn : c.active = false) (w : Logbook η ω) :
    run (teardown b.recorded) (c, w) = ⟨.ok (), [], (c, w)⟩ := by
  rw [teardown, run_bind_ok run_state, torn]
  rfl

theorem teardown_active (logs : b.LogsAll) (active : c.active = true) (l : Logbook η ω) :
    ∃ notes w closings, run (teardown b.recorded) (c, l) =
        ⟨.ok (), notes, (⟨false, []⟩, ⟨w, l.calls ++ closings⟩)⟩ ∧
      List.Forall₂ BackendCall.Closes c.tracked closings := by
  obtain ⟨_, w, closings, closing, closed⟩ :=
    closeAll_closings logs c.tracked { c with active := false } l
  rw [teardown, run_bind_ok run_state, if_pos active, run_bind_ok (run_update _),
    run_bind_ok closing, run_bind_ok (run_update _)]
  obtain ⟨_, w, logged⟩ := log_recorded logs .debug "HID_CONTEXT_TEARDOWN"
  rw [logged]
  exact ⟨_, w, closings, rfl, closed⟩

end Operations

/-! ## Histories -/

/-- What can happen to a context. -/
inductive Move (η ω : Type) where
  | openIds (vendor product : Int) (serial : Data)
  | openPath (path : Data)
  | enumerate (vendor product : Int)
  | close (device : η)
  | teardown
  /-- Something else is done with the world, which the record does not show. -/
  | meanwhile (x : Act ω Unit)

/-- What needs a context that has not been torn down. -/
def Move.isUse : Move η ω → Bool
  | openIds .. | openPath _ | enumerate .. => true
  | close _ | teardown | meanwhile _ => false

variable [DecidableEq η] {b : DeviceBackend η ω} {v : Context η × Logbook η ω}

def Move.act (b : DeviceBackend η ω) : Move η ω → Act (Context η × Logbook η ω) Unit
  | openIds vendor product serial => discard (Context.openIds b.recorded vendor product serial)
  | openPath path => discard (Context.openPath b.recorded path)
  | enumerate vendor product => discard (Context.enumerate b.recorded vendor product)
  | close device => Context.close b.recorded device
  | teardown => Context.teardown b.recorded
  | meanwhile x => outside (x.within Logbook.part)

/-- Where moves lead to from a fresh context. -/
def after (b : DeviceBackend η ω) (w : ω) (moves : List (Move η ω)) :
    Context η × Logbook η ω :=
  moves.foldl (fun v move => (run (move.act b) v).world) (⟨true, []⟩, ⟨w, []⟩)

/-- What a context keeps track of is what it holds open, each device once. -/
structure Accounted (v : Context η × Logbook η ω) : Prop where
  tracked : ∀ device, device ∈ v.1.tracked ↔ heldOpen device v.2.calls = true
  once : v.1.tracked.Nodup
  made : ∀ device, heldOpen device v.2.calls = true → device ∈ v.2.made
  emptied : v.1.active = false → v.1.tracked = []

namespace Accounted

variable {c : Context η} {l : Logbook η ω} {device : η}

/-- Calls that neither open nor close anything change nothing. -/
theorem quiet (accounted : Accounted (c, l)) (w : ω) (call : BackendCall η)
    (idle : ∀ device, call.opens? device = none) :
    Accounted (c, (⟨w, l.calls ++ [call]⟩ : Logbook η ω)) := by
  have same (device : η) : heldOpen device (l.calls ++ [call]) = heldOpen device l.calls := by
    rw [heldOpen_append, idle, Option.getD_none]
  refine ⟨fun device => ?_, accounted.once, fun device held => ?_, accounted.emptied⟩
  · rw [same]
    exact accounted.tracked device
  · rw [same] at held
    rw [Logbook.made, List.filterMap_append]
    exact List.mem_append_left _ (accounted.made device held)

theorem closed (accounted : Accounted (c, l)) (w : ω) (answer : Except Failure Unit) :
    Accounted ({ c with tracked := c.tracked.erase device },
      (⟨w, l.calls ++ [.closing device answer]⟩ : Logbook η ω)) where
  tracked other := by
    rw [accounted.once.mem_erase_iff, accounted.tracked other, heldOpen_closed ⟨answer, rfl⟩]
    exact and_comm
  once := accounted.once.erase device
  made other held := by
    rw [Logbook.made, List.filterMap_append]
    exact List.mem_append_left _ (accounted.made other ((heldOpen_closed ⟨answer, rfl⟩).mp held).1)
  emptied torn := by rw [accounted.emptied torn, List.erase_nil]

theorem opening (accounted : Accounted (c, l)) (active : c.active = true)
    {selector : DeviceSelector} {answer : Except Failure η} {v : Context η × Logbook η ω}
    (opening : Opening selector c l.calls answer v) (distinct : v.2.made.Nodup) :
    Accounted v := by
  cases opening with
  | unmade e w => exact accounted.quiet w _ fun _ => rfl
  | refused device e w =>
      have made := accounted.quiet w (.make selector (.ok device)) fun _ => rfl
      exact made.quiet w _ fun _ => rfl
  | opened device w =>
      have made : (⟨w, l.calls ++ [.make selector (.ok device)] ++ [.opening device (.ok ())]⟩ :
          Logbook η ω).made = l.made ++ [device] := by
        rw [List.append_assoc, Logbook.made_append w l.world]
        rfl
      rw [made, List.nodup_append] at distinct
      -- A tracked device has been made before, and none is made twice.
      have new : device ∉ c.tracked := by
        intro tracked
        have known := accounted.made device ((accounted.tracked device).mp tracked)
        exact distinct.2.2 device known device (List.mem_singleton_self device) rfl
      have before := accounted.quiet w (.make selector (.ok device)) fun _ => rfl
      refine ⟨fun other => ?_, ?_, fun other held => ?_, fun torn => ?_⟩
      · rw [heldOpen_opened, ← before.tracked other, List.mem_append, List.mem_singleton,
          or_comm, eq_comm]
      · refine List.nodup_append.mpr ⟨accounted.once, by simp, ?_⟩
        rintro other tracked _ (_ | ⟨_, ⟨⟩⟩) rfl
        exact new tracked
      · rw [made, List.mem_append, List.mem_singleton]
        rcases heldOpen_opened device |>.mp held with same | earlier
        · exact Or.inr same.symm
        · have known := before.made other earlier
          rw [Logbook.made_append w l.world, List.mem_append] at known
          exact known.imp_right List.mem_singleton.mp
      · rw [active] at torn
        cases torn

theorem torn (accounted : Accounted (c, l)) (w : ω) {closings : List (BackendCall η)}
    (closed : List.Forall₂ BackendCall.Closes c.tracked closings) :
    Accounted ((⟨false, []⟩ : Context η), (⟨w, l.calls ++ closings⟩ : Logbook η ω)) := by
  have none_held (device : η) : ¬heldOpen device (l.calls ++ closings) = true := by
    rw [heldOpen_closings closed, ← accounted.tracked device]
    exact fun both => both.2 both.1
  exact ⟨fun device => iff_of_false List.not_mem_nil (none_held device), List.nodup_nil,
    fun device held => absurd held (none_held device), fun _ => rfl⟩

end Accounted

/-- What a move can do to a context. -/
inductive Stepped (c : Context η) (l : Logbook η ω) :
    Move η ω → Context η × Logbook η ω → Prop where
  | idle {move : Move η ω} (w : ω) (torn : move = .teardown → c.active = false) :
      Stepped c l move (c, ⟨w, l.calls⟩)
  | opening {move : Move η ω} (use : move.isUse = true) (active : c.active = true)
      {selector : DeviceSelector} {answer : Except Failure η} {v : Context η × Logbook η ω}
      (opening : Opening selector c l.calls answer v) : Stepped c l move v
  | enumerated (vendor product : Int) (answer : Except Failure (List DeviceInfo)) (w : ω) :
      Stepped c l (.enumerate vendor product)
        (c, ⟨w, l.calls ++ [.enumerate vendor product answer]⟩)
  | closed (device : η) (answer : Except Failure Unit) (w : ω) :
      Stepped c l (.close device) ({ c with tracked := c.tracked.erase device },
        ⟨w, l.calls ++ [.closing device answer]⟩)
  | torn (active : c.active = true) (w : ω) {closings : List (BackendCall η)}
      (closed : List.Forall₂ BackendCall.Closes c.tracked closings) :
      Stepped c l .teardown (⟨false, []⟩, ⟨w, l.calls ++ closings⟩)

theorem Move.use_torn {move : Move η ω} (use : move.isUse = true) {c : Context η}
    (torn : c.active = false) (l : Logbook η ω) : ∃ operation, run (move.act b) (c, l) =
      ⟨.error (.caused (.contextTornDown operation)), [], (c, l)⟩ := by
  cases move with
  | openIds vendor product serial =>
      refine ⟨"open", ?_⟩
      rw [act, run_discard, Context.openIds, run_bind_error (requireActive_torn _ torn l)]
      rfl
  | openPath path =>
      refine ⟨"open_path", ?_⟩
      rw [act, run_discard, Context.openPath, run_bind_error (requireActive_torn _ torn l)]
      rfl
  | enumerate vendor product =>
      refine ⟨"enumerate", ?_⟩
      rw [act, run_discard, Context.enumerate, run_bind_error (requireActive_torn _ torn l)]
      rfl
  | close | teardown | meanwhile => cases use

theorem Move.use_stepped (logs : b.LogsAll) {move : Move η ω} (use : move.isUse = true)
    {c : Context η} (active : c.active = true) (l : Logbook η ω) :
    Stepped c l move (run (move.act b) (c, l)).world := by
  have opened (selector : DeviceSelector) :
      Stepped c l move (run (openSelected b.recorded selector) (c, l)).world := by
    obtain ⟨_, _, v, ran, opening⟩ := openSelected_opening logs selector c l
    rw [ran]
    exact .opening use active opening
  cases move with
  | openIds vendor product serial =>
      rw [act, run_discard, Context.openIds, run_bind_ok (requireActive_active _ active l)]
      exact opened _
  | openPath path =>
      rw [act, run_discard, Context.openPath, run_bind_ok (requireActive_active _ active l)]
      split
      · exact opened _
      · exact .idle l.world nofun
  | enumerate vendor product =>
      rw [act, run_discard, Context.enumerate, run_bind_ok (requireActive_active _ active l)]
      exact .enumerated vendor product _ _
  | close | teardown | meanwhile => cases use

theorem Move.stepped (logs : b.LogsAll) (move : Move η ω) (c : Context η) (l : Logbook η ω) :
    Stepped c l move (run (move.act b) (c, l)).world := by
  cases use : move.isUse with
  | true =>
      cases active : c.active with
      | true => exact use_stepped logs use active l
      | false =>
          obtain ⟨operation, refused⟩ := use_torn (b := b) use active l
          rw [refused]
          exact .idle l.world fun _ => active
  | false =>
      cases move with
      | openIds | openPath | enumerate => cases use
      | close device => exact .closed device _ _
      | teardown =>
          rw [act]
          cases active : c.active with
          | false =>
              rw [teardown_torn active]
              exact .idle l.world fun _ => active
          | true =>
              obtain ⟨_, w, closings, ran, closed⟩ := teardown_active logs active l
              rw [ran]
              exact .torn active w closed
      | meanwhile x => exact .idle _ nofun

/-- A context is active until it is torn down, and never again. -/
theorem Stepped.active {c : Context η} {l : Logbook η ω} {move : Move η ω}
    (stepped : Stepped c l move v) :
    v.1.active = true ↔ c.active = true ∧ .teardown ≠ move := by
  cases stepped with
  | idle w torn =>
      refine ⟨fun active => ⟨active, ?_⟩, And.left⟩
      rintro rfl
      rw [torn rfl] at active
      cases active
  | opening use active opening =>
      refine iff_of_true ?_ ⟨active, ?_⟩
      · cases opening <;> exact active
      · rintro rfl
        cases use
  | enumerated | closed => simp
  | torn => simp

theorem Stepped.accounted {c : Context η} {l : Logbook η ω} {move : Move η ω}
    (stepped : Stepped c l move v) (accounted : l.made.Nodup → Accounted (c, l))
    (distinct : v.2.made.Nodup) : Accounted v := by
  -- The record only grows: if no transport was made twice by now, none was before.
  have before {w : ω} {more : List (BackendCall η)}
      (distinct : (⟨w, l.calls ++ more⟩ : Logbook η ω).made.Nodup) : Accounted (c, l) := by
    rw [Logbook.made_append w l.world] at distinct
    exact accounted (List.nodup_append.mp distinct).1
  cases stepped with
  | idle w =>
      have same := accounted distinct
      exact ⟨same.tracked, same.once, same.made, same.emptied⟩
  | opening _ active opening =>
      refine Accounted.opening ?_ active opening distinct
      cases opening with
      | unmade => exact before distinct
      | refused | opened =>
          rw [List.append_assoc] at distinct
          exact before distinct
  | enumerated _ _ _ w => exact (before distinct).quiet w _ fun _ => rfl
  | closed device answer w => exact (before distinct).closed w answer
  | torn _ w closed => exact (before distinct).torn w closed

theorem after_accounted (logs : b.LogsAll) (w : ω) (moves : List (Move η ω)) :
    let v := after b w moves
    v.2.made.Nodup → Accounted v := by
  -- From any start, where the condition is part of what is carried along: it speaks of the end.
  have course (start : Context η × Logbook η ω) (accounted : start.2.made.Nodup → Accounted start) :
      let v := moves.foldl (fun v move => (run (move.act b) v).world) start
      v.2.made.Nodup → Accounted v := by
    induction moves generalizing start with
    | nil => exact accounted
    | cons move moves ih => exact ih _ ((move.stepped logs start.1 start.2).accounted accounted)
  refine course _ fun _ => ⟨?_, List.nodup_nil, nofun, nofun⟩
  exact fun device => iff_of_false List.not_mem_nil Bool.false_ne_true

theorem after_active (logs : b.LogsAll) (w : ω) (moves : List (Move η ω)) :
    (after b w moves).1.active = true ↔ .teardown ∉ moves := by
  have course (start : Context η × Logbook η ω) :
      (moves.foldl (fun v move => (run (move.act b) v).world) start).1.active = true ↔
        start.1.active = true ∧ .teardown ∉ moves := by
    induction moves generalizing start with
    | nil => simp
    | cons move moves ih =>
        rw [List.foldl_cons, ih, (move.stepped logs start.1 start.2).active, List.mem_cons, not_or,
          and_assoc]
  exact (course _).trans (and_iff_right rfl)

/-! ## Tearing down -/

/-- A context after it was torn down: each device that it kept track of has been closed once more,
    and none that it has ever opened is left open. -/
structure GivenBack (v v' : Context η × Logbook η ω) : Prop where
  torn : v'.1 = ⟨false, []⟩
  closings : ∃ closings, v'.2.calls = v.2.calls ++ closings ∧
    List.Forall₂ BackendCall.Closes v.1.tracked closings
  closed : ∀ device, .opening device (.ok ()) ∈ v'.2.calls →
    ∃ call ∈ v'.2.calls, call.Closes device

theorem Accounted.closed_of_opened (accounted : Accounted v) (untracked : v.1.tracked = [])
    (device : η) (opened : .opening device (.ok ()) ∈ v.2.calls) :
    ∃ call ∈ v.2.calls, call.Closes device := by
  refine ChunkRelay.closed_of_opened opened (Bool.eq_false_iff.mpr fun held => ?_)
  have tracked := (accounted.tracked device).mpr held
  rw [untracked] at tracked
  cases tracked

theorem Accounted.givenBack (accounted : Accounted v) (logs : b.LogsAll) :
    ∃ notes v', run (teardown b.recorded) v = ⟨.ok (), notes, v'⟩ ∧ GivenBack v v' := by
  obtain ⟨c, l⟩ := v
  cases active : c.active with
  | false =>
      have untracked : c.tracked = [] := accounted.emptied active
      refine ⟨_, _, teardown_torn active l, ?_, ⟨[], ?_, ?_⟩, ?_⟩
      · cases c
        cases active
        cases untracked
        rfl
      · rw [List.append_nil]
      · rw [untracked]
        exact .nil
      · exact accounted.closed_of_opened untracked
  | true =>
      obtain ⟨notes, w, closings, ran, closed⟩ := teardown_active logs active l
      exact ⟨notes, _, ran, rfl, ⟨closings, rfl, closed⟩,
        (accounted.torn w closed).closed_of_opened rfl⟩

/-- A context keeps track of just what it has opened and not given back, once each. Tearing it down
    always returns and leaves nothing open; after that it cannot be used and is never torn down
    again. -/
theorem after_owns (logs : b.LogsAll) (w : ω) (moves : List (Move η ω))
    (distinct : (after b w moves).2.made.Nodup) :
    let v := after b w moves
    let o := run (teardown b.recorded) v
    (∀ device, device ∈ v.1.tracked ↔ heldOpen device v.2.calls = true) ∧ v.1.tracked.Nodup ∧
      o.answer = .ok () ∧ GivenBack v o.world ∧
      (.teardown ∈ moves → o = ⟨.ok (), [], v⟩ ∧
        ∀ move : Move η ω, move.isUse = true → ∃ e, run (move.act b) v = ⟨.error e, [], v⟩ ∧
          e.errorClass? = some .invalidArgument) := by
  intro v o
  have accounted : Accounted v := after_accounted logs w moves distinct
  obtain ⟨notes, v', ran, givenBack⟩ := accounted.givenBack logs
  refine ⟨accounted.tracked, accounted.once, by simp only [o, ran], ?_, ?_⟩
  · simp only [o, ran]
    exact givenBack
  · intro asked
    have torn : v.1.active = false :=
      Bool.eq_false_iff.mpr fun active => (after_active logs w moves).mp active asked
    refine ⟨teardown_torn torn v.2, fun move use => ?_⟩
    obtain ⟨operation, refused⟩ := move.use_torn (b := b) use torn v.2
    exact ⟨_, refused, rfl⟩

/-- A backend that numbers its devices. The second one cannot be opened and the first one cannot be
    closed. -/
def clumsyBackend : DeviceBackend Nat Nat where
  make _ := do
    let number ← get
    set (number + 1)
    pure number
  openDevice device := if device = 1 then throw (.fault .system "busy") else pure ()
  closeDevice device := if device = 0 then throw (.fault .system "stalled") else pure ()
  enumerate _ _ := pure []

theorem after_owns_clumsy :
    let moves : List (Move Nat Nat) :=
      [.openIds 1 2 .null, .openIds 1 2 .null, .openPath (.text "a"), .openPath (.text "b"),
        .close 2]
    let v := after clumsyBackend 0 moves
    let o := run (teardown clumsyBackend.recorded) v
    clumsyBackend.LogsAll ∧ v.2.made.Nodup ∧ v.1.tracked = [0, 3] ∧ o.answer = .ok () ∧
      GivenBack v o.world := by
  intro moves v o
  have logs : clumsyBackend.LogsAll := by
    rintro level (_ | message) w <;> exact ⟨_, _, rfl⟩
  have distinct : v.2.made.Nodup := by
    have made : v.2.made = [0, 1, 2, 3] := by decide +kernel
    rw [made]
    decide
  obtain ⟨_, _, returned, givenBack, _⟩ := after_owns logs 0 moves distinct
  exact ⟨logs, distinct, by decide +kernel, returned, givenBack⟩

end Context

end ChunkRelay
