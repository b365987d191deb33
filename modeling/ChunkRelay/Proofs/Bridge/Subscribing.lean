import ChunkRelay.Proofs.Bridge.Counting
import ChunkRelay.Proofs.Session.Reached
import Mathlib.Data.List.Induction
import Mathlib.Data.List.Nodup

/-! # Who is told of a packet

Subscriptions are numbered as they are made. Users expect that cancelling one is about that number:
it goes, once, and the others stay in their order. A bridge knows callbacks alone. It takes away
the earliest subscription of the same callback, which is another one if the callback has been
subscribed more than once. As long as this makes no difference, the event of each packet goes once
to each subscription that has not been cancelled; and who fails to take it does not matter.
-/

namespace ChunkRelay

/-- Something that is done with subscriptions. -/
inductive Deed (κ : Type) where
  | subscribe (callback : κ)
  /-- The subscription with this number is cancelled. -/
  | cancel (number : Nat)

/-- The subscriptions that there have been. -/
structure Roll (κ : Type) where
  /-- The callbacks of all that were made. -/
  made : List κ
  /-- Those that were not cancelled, with their numbers. -/
  active : List (Nat × κ)
  /-- Those that are left if each cancellation takes away the earliest one of its callback. -/
  left : List (Nat × κ)
  /-- Whether each cancellation was that of the earliest active one of its callback, if there was
  any. -/
  orderly : Bool

namespace Roll

variable {κ : Type} [DecidableEq κ]

/-- The roll after one deed more. A subscription that was not made cannot be cancelled. -/
def after (roll : Roll κ) : Deed κ → Roll κ
  | .subscribe callback =>
    { roll with
      made := roll.made ++ [callback]
      active := roll.active ++ [(roll.made.length, callback)]
      left := roll.left ++ [(roll.made.length, callback)] }
  | .cancel number =>
    match roll.made[number]? with
    | none => roll
    | some callback =>
      { made := roll.made
        active := roll.active.filter (·.1 ≠ number)
        left := roll.left.eraseP (·.2 = callback)
        orderly := roll.orderly && (roll.active.find? (·.2 = callback)).all (·.1 = number) }

/-- The roll of the given deeds. -/
def of (deeds : List (Deed κ)) : Roll κ := deeds.foldl after ⟨[], [], [], true⟩

theorem of_append (deeds : List (Deed κ)) (deed : Deed κ) :
    of (deeds ++ [deed]) = (of deeds).after deed := by
  rw [of, List.foldl_append]
  rfl

/-- The active subscriptions have numbers of their own, and their callbacks are those with which
    they were made. They are the ones that are left as long as everything was in order. -/
structure Sound (roll : Roll κ) : Prop where
  callback : ∀ e ∈ roll.active, roll.made[e.1]? = some e.2
  numbers : (roll.active.map Prod.fst).Nodup
  left : roll.orderly = true → roll.left = roll.active

variable {roll : Roll κ}

/-- The earliest one goes by its callback as it goes by its number. -/
theorem eraseP_find {entries : List (Nat × κ)} (numbers : (entries.map Prod.fst).Nodup)
    {e : Nat × κ} (earliest : entries.find? (·.2 = e.2) = some e) :
    entries.eraseP (·.2 = e.2) = entries.filter (·.1 ≠ e.1) := by
  induction entries with
  | nil => cases earliest
  | cons first entries ih =>
      rw [List.map_cons, List.nodup_cons] at numbers
      obtain ⟨own, numbers⟩ := numbers
      -- The head either is the earliest one, or it has another callback and then another number.
      by_cases same : first.2 = e.2
      · rw [List.find?_cons_of_pos (by simpa using same)] at earliest
        cases earliest
        have others : entries.filter (·.1 ≠ e.1) = entries :=
          List.filter_eq_self.mpr fun other among =>
            decide_eq_true fun number => own (number ▸ List.mem_map_of_mem among)
        rw [List.eraseP_cons_of_pos (by simp), List.filter_cons_of_neg (by simp), others]
      · rw [List.find?_cons_of_neg (by simpa using same)] at earliest
        have later : e.1 ∈ entries.map Prod.fst :=
          List.mem_map_of_mem (List.mem_of_find?_eq_some earliest)
        have other : first.1 ≠ e.1 := fun number => own (number ▸ later)
        rw [List.eraseP_cons_of_neg (by simpa using same),
          List.filter_cons_of_pos (by simpa using other), ih numbers earliest]

/-- What is cancelled in order is taken away and nothing else is. -/
theorem Sound.cancelled (sound : roll.Sound) {number : Nat} {callback : κ}
    (made : roll.made[number]? = some callback)
    (inOrder : (roll.active.find? (·.2 = callback)).all (·.1 = number) = true) :
    roll.active.eraseP (·.2 = callback) = roll.active.filter (·.1 ≠ number) := by
  cases earliest : roll.active.find? (·.2 = callback) with
  | none =>
      have gone : ∀ e ∈ roll.active, e.2 ≠ callback := by
        simpa using List.find?_eq_none.mp earliest
      have unnumbered : ∀ e ∈ roll.active, e.1 ≠ number := by
        rintro e among rfl
        have known := sound.callback e among
        rw [made] at known
        exact gone e among (Option.some.inj known).symm
      rw [List.eraseP_of_forall_not (by simpa using gone),
        List.filter_eq_self.mpr (by simpa using unnumbered)]
  | some e =>
      rw [earliest] at inOrder
      obtain rfl : e.1 = number := by simpa using inOrder
      obtain rfl : e.2 = callback := by simpa using List.find?_some earliest
      exact eraseP_find sound.numbers earliest

theorem Sound.after (sound : roll.Sound) (deed : Deed κ) : (roll.after deed).Sound := by
  cases deed with
  | subscribe callback =>
      have fresh : ∀ e ∈ roll.active, e.1 < roll.made.length := fun e among =>
        (List.getElem?_eq_some_iff.mp (sound.callback e among)).1
      constructor
      · refine List.forall_mem_append.mpr ⟨fun e among => ?_, List.forall_mem_singleton.mpr ?_⟩
        · rw [Roll.after, List.getElem?_append_left (fresh e among)]
          exact sound.callback e among
        · exact List.getElem?_concat_length
      · rw [Roll.after, List.map_append, List.map_singleton]
        refine List.nodup_append.mpr ⟨sound.numbers, List.nodup_singleton _, ?_⟩
        intro _ earlier _ latest
        obtain ⟨e, among, rfl⟩ := List.mem_map.mp earlier
        rw [List.mem_singleton.mp latest]
        exact Nat.ne_of_lt (fresh e among)
      · exact fun inOrder => congrArg (· ++ _) (sound.left inOrder)
  | cancel number =>
      rw [Roll.after]
      cases made : roll.made[number]? with
      | none => exact sound
      | some callback =>
          refine ⟨fun e among => sound.callback e (List.mem_of_mem_filter among),
            sound.numbers.sublist (List.filter_sublist.map _), fun inOrder => ?_⟩
          obtain ⟨before, inOrder⟩ := (Bool.and_eq_true _ _).mp inOrder
          exact (congrArg _ (sound.left before)).trans (sound.cancelled made inOrder)

theorem of_sound (deeds : List (Deed κ)) : (of deeds).Sound := by
  induction deeds using List.reverseRecOn with
  | nil => exact ⟨List.forall_mem_nil _, List.nodup_nil, fun _ => rfl⟩
  | append_singleton deeds deed ih =>
      rw [of_append]
      exact ih.after deed

theorem made_grows (roll : Roll κ) (deed : Deed κ) : roll.made <+: (roll.after deed).made := by
  cases deed with
  | subscribe callback => exact List.prefix_append _ _
  | cancel number =>
      rw [after]
      cases roll.made[number]? <;> exact List.prefix_rfl

/-- Where no callback is subscribed twice, everything is in order. -/
theorem orderly_of_nodup {deeds : List (Deed κ)} (once : (of deeds).made.Nodup) :
    (of deeds).orderly = true := by
  induction deeds using List.reverseRecOn with
  | nil => rfl
  | append_singleton deeds deed ih =>
      rw [of_append] at once ⊢
      have once' := once.sublist ((of deeds).made_grows deed).sublist
      cases deed with
      | subscribe callback => exact ih once'
      | cancel number =>
          rw [after]
          cases made : (of deeds).made[number]? with
          | none => exact ih once'
          | some callback =>
              refine (Bool.and_eq_true _ _).mpr ⟨ih once', ?_⟩
              rw [Option.all_eq_true]
              intro e earliest
              have known := (of_sound deeds).callback e (List.mem_of_find?_eq_some earliest)
              obtain rfl : e.2 = callback := by simpa using List.find?_some earliest
              have recorded := (List.getElem?_eq_some_iff.mp known).1
              exact decide_eq_true ((List.getElem?_inj recorded once').mp (known.trans made.symm))

end Roll

/-- A world with the subscriptions that callbacks and others hold in it, with what has been done
    with them, and with what callbacks have been told. -/
structure Ledger (κ ω : Type) where
  world : ω
  subscriptions : List (Subscription κ)
  deeds : List (Deed κ)
  told : List (κ × PacketEvent)

def Ledger.part {κ ω : Type} : Focus (Ledger κ ω) ω where
  get := world
  set world l := { l with world }

section Deeds

variable {κ ω : Type} [DecidableEq κ]

/-- Do something with subscriptions. Only a subscription that has been made can be cancelled. -/
def Deed.enact : Deed κ → List κ × Ledger κ ω → List κ × Ledger κ ω
  | .subscribe callback, (callbacks, l) =>
    let (subscription, callbacks) := Bridge.subscribe callback callbacks
    (callbacks,
      { l with
        subscriptions := l.subscriptions ++ [subscription]
        deeds := l.deeds ++ [.subscribe callback] })
  | .cancel number, (callbacks, l) =>
    match l.subscriptions[number]? with
    | none => (callbacks, l)
    | some subscription =>
      (Bridge.cancel subscription callbacks, { l with deeds := l.deeds ++ [.cancel number] })

/-- The callbacks are those of the subscriptions that are left. -/
structure Listed (v : List κ × Ledger κ ω) : Prop where
  subscriptions : v.2.subscriptions = (Roll.of v.2.deeds).made.map Subscription.mk
  callbacks : v.1 = (Roll.of v.2.deeds).left.map Prod.snd

theorem Listed.enact {v : List κ × Ledger κ ω} (listed : Listed v) (deed : Deed κ) :
    Listed (deed.enact v) := by
  obtain ⟨callbacks, l⟩ := v
  obtain ⟨subscriptions, left⟩ := listed
  dsimp only at subscriptions left
  cases deed with
  | subscribe callback =>
      constructor
      · change l.subscriptions ++ [⟨callback⟩] = (Roll.of (l.deeds ++ [_])).made.map _
        rw [Roll.of_append, Roll.after, List.map_append, subscriptions, List.map_singleton]
      · change callbacks ++ [callback] = (Roll.of (l.deeds ++ [_])).left.map _
        rw [Roll.of_append, Roll.after, List.map_append, left, List.map_singleton]
  | cancel number =>
      have given := congrArg (·[number]?) subscriptions
      rw [List.getElem?_map] at given
      rw [Deed.enact]
      cases made : (Roll.of l.deeds).made[number]? with
      | none =>
          rw [made, Option.map_none] at given
          rw [given]
          exact ⟨subscriptions, left⟩
      | some callback =>
          rw [made, Option.map_some] at given
          rw [given]
          constructor
          · change l.subscriptions = (Roll.of (l.deeds ++ [_])).made.map _
            rw [Roll.of_append, Roll.after, made, subscriptions]
          · change callbacks.erase callback = (Roll.of (l.deeds ++ [_])).left.map _
            rw [Roll.of_append, Roll.after, made, left, List.erase_eq_eraseP', List.eraseP_map]
            rfl

end Deeds

namespace Pipeline

open Act

variable {κ ω : Type} [DecidableEq κ]

/-- How callbacks behave. One that is told of an event knows how many subscriptions there have been
    and what the world is like. It does something with subscriptions, changes the world and may
    fail. -/
abbrev Behaviour (κ ω : Type) : Type :=
  κ → PacketEvent → Nat → ω → List (Deed κ) × Outcome ω Unit

/-- Callbacks with this behaviour. -/
def enacting (behave : Behaviour κ ω) (callback : κ) (event : PacketEvent) :
    Act (List κ × Ledger κ ω) Unit := fun v =>
  let (deeds, o) := behave callback event v.2.subscriptions.length v.2.world
  let (callbacks, l) := deeds.foldl (fun v deed => deed.enact v) v
  ⟨o.answer, o.notes,
    (callbacks, { l with world := o.world, told := l.told ++ [(callback, event)] })⟩

/-- What happens to a bridge. -/
inductive Happening (κ ω : Type) where
  | deed (deed : Deed κ)
  | step
  /-- Anything else becomes of the bridge, its session and the world, but not of subscriptions. -/
  | otherwise (bridge : Bridge κ) (session : Session ω) (world : ω)

section History

variable (behave : Behaviour κ ω)

def Happening.act : Happening κ ω → Pipeline κ (Ledger κ ω) → Pipeline κ (Ledger κ ω)
  | .deed done, p =>
    let (callbacks, world) := done.enact (p.bridge.callbacks, p.world)
    { p with bridge := { p.bridge with callbacks }, world }
  | .step, p => (Act.run (Pipeline.step (enacting behave)) p).world
  | .otherwise bridge session world, p =>
    { bridge := { bridge with callbacks := p.bridge.callbacks }
      session := session.within Ledger.part
      world := { p.world with world } }

/-- What had been done with subscriptions when a packet came whose event is returned. -/
def Happening.returned? : Happening κ ω → Pipeline κ (Ledger κ ω) →
    Option (List (Deed κ) × PacketEvent)
  | .step, p =>
    match answered (enacting behave) p with
    | .ok (some event) => some (p.world.deeds, event)
    | _ => none
  | _, _ => none

/-- What becomes of a bridge. -/
def passed (p : Pipeline κ (Ledger κ ω)) (history : List (Happening κ ω)) :
    Pipeline κ (Ledger κ ω) :=
  history.foldl (fun p happening => happening.act behave p) p

/-- The events that are returned, the first one first, with what had been done by then. -/
def returned : Pipeline κ (Ledger κ ω) → List (Happening κ ω) → List (List (Deed κ) × PacketEvent)
  | _, [] => []
  | p, happening :: history =>
    (happening.returned? behave p).toList ++ returned (happening.act behave p) history

end History

variable {behave : Behaviour κ ω}

/-! ## Callbacks -/

theorem foldl_enact_told (deeds : List (Deed κ)) (v : List κ × Ledger κ ω) :
    (deeds.foldl (fun v deed => deed.enact v) v).2.told = v.2.told := by
  induction deeds generalizing v with
  | nil => rfl
  | cons deed deeds ih =>
      rw [List.foldl_cons, ih]
      cases deed with
      | subscribe callback => rfl
      | cancel number =>
          rw [Deed.enact]
          cases v.2.subscriptions[number]? <;> rfl

theorem foldl_enact_listed {v : List κ × Ledger κ ω} (listed : Listed v) (deeds : List (Deed κ)) :
    Listed (deeds.foldl (fun v deed => deed.enact v) v) := by
  induction deeds generalizing v with
  | nil => exact listed
  | cons deed deeds ih => exact ih (listed.enact deed)

theorem enacting_records (behave : Behaviour κ ω) : Records Ledger.told (enacting behave) :=
  fun _ _ v => congrArg (· ++ _) (foldl_enact_told _ v)

theorem enacting_listed (callback : κ) (event : PacketEvent) :
    Preserves Listed (enacting behave callback event) := by
  intro v listed
  have enacted := foldl_enact_listed listed
    (behave callback event v.2.subscriptions.length v.2.world).1
  exact ⟨enacted.subscriptions, enacted.callbacks⟩

/-! ## Steps -/

/-- The session has nothing to do with subscriptions, and the bridge has the callbacks of those that
    are left. -/
def Tracked (p : Pipeline κ (Ledger κ ω)) : Prop :=
  (∃ s : Session ω, p.session = s.within Ledger.part) ∧ Listed (p.bridge.callbacks, p.world)

theorem update_tracked {f : Bridge κ → Bridge κ} (kept : ∀ b, (f b).callbacks = b.callbacks) :
    Preserves (Tracked (ω := ω)) (update f) := by
  intro p ⟨inside, listed⟩
  refine ⟨inside, ?_⟩
  change Listed ((f p.bridge).callbacks, p.world)
  rw [kept]
  exact listed

theorem survive_tracked (e : Failure) : Preserves (Tracked (κ := κ) (ω := ω)) (survive e) := by
  rw [survive]
  split
  · exact .bind (update_tracked fun _ => rfl) fun _ => .pure _
  · split
    · exact .bind (update_tracked fun _ => rfl) fun _ => (Preserves.log _ _ _).bind fun _ => .pure _
    · split
      · exact .bind (update_tracked fun _ => rfl) fun _ =>
          (Preserves.logNumber _ _ _ _).bind fun _ => .pure _
      · exact .fail e

theorem process_tracked (config : DeviceConfig) (timeoutMs : Int) :
    Preserves (Tracked (κ := κ) (ω := ω))
      (viaSession (Session.process (some config) timeoutMs)) := by
  intro p ⟨inside, listed⟩
  obtain ⟨stopping, heeded⟩ := p.bridge.heed_stopping
    (Act.run (Session.process (some config) timeoutMs) (p.session, p.world)).notes
  have apart : ∀ (world : ω) (l : Ledger κ ω), Listed (p.bridge.callbacks, l) →
      Listed (p.bridge.callbacks, Ledger.part.set world l) :=
    fun _ _ listed => ⟨listed.subscriptions, listed.callbacks⟩
  have processed := Session.process_within (some config) timeoutMs apart (p.session, p.world)
    ⟨inside, listed⟩
  rw [Tracked, run_viaSession, heeded]
  exact processed

theorem dispatch_tracked (event : PacketEvent) (callbacks : List κ) :
    Preserves (Tracked (κ := κ) (ω := ω)) (dispatch (enacting behave) event callbacks) := by
  induction callbacks with
  | nil => exact .pure _
  | cons callback rest ih =>
      have called : Preserves Tracked (viaCallbacks (enacting behave callback event)) := by
        intro p ⟨inside, listed⟩
        let o := Act.run (enacting behave callback event) (p.bridge.callbacks, p.world)
        have enacted : Listed o.world := enacting_listed callback event _ listed
        obtain ⟨stopping, heeded⟩ :=
          { p.bridge with callbacks := o.world.1 }.heed_stopping o.notes
        refine ⟨inside, ?_⟩
        change Listed (({ p.bridge with callbacks := o.world.1 }.heed o.notes).callbacks, o.world.2)
        rw [heeded]
        exact enacted
      exact (called.tryCatch fun _ => .log _ _ _).bind fun _ => ih

theorem step_tracked : Preserves (Tracked (κ := κ) (ω := ω)) (step (enacting behave)) := by
  refine Preserves.get.bind fun p => (Preserves.ofCause _).bind fun config => ?_
  refine Preserves.bind (x := attempt _) (process_tracked config _) fun result => ?_
  cases result with
  | error e => exact survive_tracked e
  | ok event =>
      refine .bind (update_tracked fun _ => rfl) fun _ => Preserves.get.bind fun _ => ?_
      exact (dispatch_tracked event _).bind fun _ => .pure _

/-- Whom an event goes to, given what had been done with subscriptions by then. -/
def goesTo (past : List (Deed κ) × PacketEvent) : List (κ × PacketEvent) :=
  (Roll.of past.1).left.map fun subscription => (subscription.2, past.2)

theorem step_told {p : Pipeline κ (Ledger κ ω)} (tracked : Tracked p) :
    (Act.run (step (enacting behave)) p).world.world.told =
      p.world.told ++ (Happening.step.returned? behave p).toList.flatMap goesTo := by
  obtain ⟨inside, listed⟩ := tracked
  have stepped := step_stepped (enacting behave) p
  rw [(stepped.told (enacting_records behave) (fun _ _ => rfl) inside).2, Happening.returned?]
  refine congrArg (_ ++ ·) ?_
  change tellsAll p.bridge.callbacks (answered (enacting behave) p) = _
  rcases answered (enacting behave) p with e | _ | event
  · rfl
  · rfl
  · have callbacks : p.bridge.callbacks = _ := listed.callbacks
    rw [tellsAll, callbacks, List.map_map]
    exact (List.append_nil _).symm

theorem passed_told {p : Pipeline κ (Ledger κ ω)} (tracked : Tracked p)
    (history : List (Happening κ ω)) :
    (passed behave p history).world.told =
      p.world.told ++ (returned behave p history).flatMap goesTo := by
  -- Whatever happens keeps the callbacks in step with the deeds, which says whom the next event is
  -- told; so the bridge varies with the invariant.
  induction history generalizing p with
  | nil => exact (List.append_nil _).symm
  | cons happening history ih =>
      have moved : Tracked (happening.act behave p) ∧ (happening.act behave p).world.told =
          p.world.told ++ (happening.returned? behave p).toList.flatMap goesTo := by
        obtain ⟨inside, listed⟩ := tracked
        cases happening with
        | deed deed =>
            refine ⟨⟨inside, listed.enact deed⟩, ?_⟩
            exact (foldl_enact_told [deed] (p.bridge.callbacks, p.world)).trans
              (List.append_nil _).symm
        | step => exact ⟨step_tracked p ⟨inside, listed⟩, step_told ⟨inside, listed⟩⟩
        | otherwise bridge session world =>
            exact ⟨⟨⟨session, rfl⟩, listed.subscriptions, listed.callbacks⟩,
              (List.append_nil _).symm⟩
      obtain ⟨tracked, told⟩ := moved
      rw [returned, List.flatMap_append, ← List.append_assoc, ← told]
      exact ih tracked

/-- A bridge that nobody has used, over a session that has nothing to do with subscriptions. -/
def unsubscribed (s : Session ω) (timeoutMs : Int) (w : ω) : Pipeline κ (Ledger κ ω) :=
  ⟨.new timeoutMs, s.within Ledger.part, ⟨w, [], [], []⟩⟩

/-- The event of a packet goes once and in order to each subscription that is left when it comes,
    whatever callbacks do and whether or not they fail. As long as each cancellation was that of the
    earliest active subscription of its callback, those that are left are the active ones; and so it
    is where no callback is subscribed twice. -/
theorem subscriptions_told (behave : Behaviour κ ω) (s : Session ω) (timeoutMs : Int) (w : ω)
    (history : List (Happening κ ω)) :
    let p : Pipeline κ (Ledger κ ω) := unsubscribed s timeoutMs w
    let events := returned behave p history
    let q := passed behave p history
    q.world.told = events.flatMap (fun past =>
      (Roll.of past.1).left.map fun subscription => (subscription.2, past.2)) ∧
    ((∀ past ∈ events, (Roll.of past.1).orderly = true) →
      q.world.told = events.flatMap fun past =>
        (Roll.of past.1).active.map fun subscription => (subscription.2, past.2)) ∧
    (∀ past ∈ events, (Roll.of past.1).made.Nodup → (Roll.of past.1).orderly = true) ∧
    ∀ r : Pipeline κ (Ledger κ ω),
      (answered (enacting behave) r).toOption.join = r.turn.outcome.answer.toOption := by
  intro p events q
  have told : q.world.told = events.flatMap goesTo := passed_told ⟨⟨s, rfl⟩, rfl, rfl⟩ history
  refine ⟨told, fun inOrder => ?_, fun _ _ => Roll.orderly_of_nodup, answered_delivered _⟩
  rw [told]
  refine List.flatMap_congr fun past among => ?_
  rw [goesTo, (Roll.of_sound past.1).left (inOrder past among)]

/-- A bridge has been started over a device from which a packet can be had at any time. -/
def ready : Happening Bool Unit :=
  let started : Bridge Bool := { Bridge.new 0 with config? := some ⟨0, "", "", ""⟩ }
  .otherwise started (.new (some Session.beacon) none) ()

/-- Callbacks of which one cancels the first subscription and fails. -/
def bailing : Behaviour Bool Unit := fun callback _ _ w =>
  match callback with
  | true => ([.cancel 0], ⟨.error (.fault .runtime "bailed"), [], w⟩)
  | false => ([], ⟨.ok (), [], w⟩)

/-- The callback that fails is told no more until it is subscribed again; the other one does not
    notice. -/
theorem subscriptions_told_bailing :
    let history : List (Happening Bool Unit) := [ready, .deed (.subscribe true),
      .deed (.subscribe false), .step, .step, .deed (.subscribe true), .deed (.cancel 1), .step]
    let p : Pipeline Bool (Ledger Bool Unit) := unsubscribed (.new none none) 0 ()
    (∀ past ∈ returned bailing p history, (Roll.of past.1).orderly = true) ∧
      (passed bailing p history).world.told.map Prod.fst = [true, false, false, true] := by
  intro history p
  have inOrder : ∀ past ∈ returned bailing p history, (Roll.of past.1).orderly = true := by
    decide
  refine ⟨inOrder, ?_⟩
  rw [(subscriptions_told bailing (.new none none) 0 () history).2.1 inOrder]
  decide

/-- Of two subscriptions of one callback the first is cancelled, and that again: the packet goes to
    nobody, though one is active. Of three the last is cancelled: the order changes. -/
theorem cancelled_another :
    let idle : Behaviour Bool Unit := fun _ _ _ w => ([], ⟨.ok (), [], w⟩)
    let p : Pipeline Bool (Ledger Bool Unit) := unsubscribed (.new none none) 0 ()
    let told (deeds : List (Deed Bool)) :=
      (passed idle p (ready :: deeds.map .deed ++ [.step])).world.told.map Prod.fst
    let twice : List (Deed Bool) := [.subscribe true, .subscribe true, .cancel 0, .cancel 0]
    let last : List (Deed Bool) := [.subscribe true, .subscribe false, .subscribe true, .cancel 2]
    (told twice = [] ∧ (Roll.of twice).active.map Prod.snd = [true]) ∧
      told last = [false, true] ∧ (Roll.of last).active.map Prod.snd = [true, false] := by
  decide

end Pipeline

end ChunkRelay
