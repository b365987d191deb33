import ChunkRelay.Act
import ChunkRelay.Proofs.Failure

/-! # Running actions

What is left of each kind of action, so that a program can be run symbolically: an action is taken
apart at its binds, and parts of the world that an action does not see are put back as they were.
-/

namespace ChunkRelay

namespace Outcome

variable {ω α : Type}

@[simp] theorem after_mk (answer : Except Failure α) (notes more : List Note) (w : ω) :
    (Outcome.mk answer notes w).after more = ⟨answer, more ++ notes, w⟩ := rfl

@[simp] theorem after_answer (o : Outcome ω α) (notes : List Note) :
    (o.after notes).answer = o.answer := rfl

@[simp] theorem after_notes (o : Outcome ω α) (notes : List Note) :
    (o.after notes).notes = notes ++ o.notes := rfl

@[simp] theorem after_world (o : Outcome ω α) (notes : List Note) :
    (o.after notes).world = o.world := rfl

end Outcome

namespace Act

variable {ω τ α β : Type} {w : ω}

@[simp] theorem run_failWith (cause : Cause) :
    run (failWith cause : Act ω α) w = ⟨.error (.ofCause cause), [], w⟩ := rfl

@[simp] theorem run_log (level : Level) (source : Source) (message : String) :
    run (log level source message) w = ⟨.ok (), [.log ⟨level, source.name, message⟩], w⟩ := rfl

@[simp] theorem run_ofCause_ok (a : α) : run (ofCause (.ok a)) w = ⟨.ok a, [], w⟩ := rfl

@[simp] theorem run_ofCause_error (cause : Cause) :
    run (ofCause (.error cause) : Act ω α) w = ⟨.error (.ofCause cause), [], w⟩ := rfl

@[simp] theorem run_ofExcept (result : Except Failure α) :
    run (ofExcept result) w = ⟨result, [], w⟩ := by
  cases result <;> rfl

/-- Whether or not the record is lost, nothing else comes of it. -/
theorem run_logNumber (level : Level) (source : Source) (n : Int) (message : String) :
    run (logNumber level source n message) w = ⟨.ok (), if Numeral.isWritable n then
      [.log ⟨level, source.name, message⟩] else [], w⟩ := by
  rw [logNumber]
  split <;> rfl

@[simp] theorem run_attempt (x : Act ω α) :
    run (attempt x) w = ⟨.ok (run x w).answer, (run x w).notes, (run x w).world⟩ := rfl

@[simp] theorem run_within (part : Focus ω τ) (x : Act τ α) :
    run (x.within part) w =
      ⟨(run x (part.get w)).answer, (run x (part.get w)).notes,
        part.set (run x (part.get w)).world w⟩ := rfl

@[simp] theorem run_starting (part : τ) (x : Act (τ × ω) α) :
    run (starting part x) w =
      ⟨(run x (part, w)).answer, (run x (part, w)).notes, (run x (part, w)).world.2⟩ := rfl

@[simp] theorem run_map (f : α → β) (x : Act ω α) :
    run (f <$> x) w = ⟨(run x w).answer.map f, (run x w).notes, (run x w).world⟩ := by
  rw [map_eq_pure_bind, run_bind]
  rcases run x w with ⟨_ | a, notes, w'⟩
  · rfl
  · simp [Except.map]

@[simp] theorem run_discard (x : Act ω α) :
    run (discard x) w = ⟨(run x w).answer.map fun _ => (), (run x w).notes, (run x w).world⟩ := by
  rw [discard, map_const]
  exact run_map _ x

/-- An answer that is not wanted still has to be there. -/
theorem discard_failed {x : Act ω α} {e : Failure}
    (failed : (run (discard x) w).answer = .error e) : (run x w).answer = .error e := by
  rw [run_discard] at failed
  cases answer : (run x w).answer with
  | ok a =>
      rw [answer] at failed
      cases failed
  | error e' =>
      rw [answer] at failed
      cases failed
      rfl

theorem run_within_of {part : Focus ω τ} {x : Act τ α} {answer : Except Failure α}
    {notes : List Note} {t : τ} (h : run x (part.get w) = ⟨answer, notes, t⟩) :
    run (x.within part) w = ⟨answer, notes, part.set t w⟩ := by
  rw [run_within, h]

theorem run_within_same {part : Focus ω τ} {x : Act τ α} {answer : Except Failure α}
    {notes : List Note} (h : run x (part.get w) = ⟨answer, notes, part.get w⟩) :
    run (x.within part) w = ⟨answer, notes, w⟩ := by
  rw [run_within_of h, part.set_get]

theorem run_bind_ok {x : Act ω α} {f : α → Act ω β} {a : α} {notes : List Note} {w' : ω}
    (h : run x w = ⟨.ok a, notes, w'⟩) : run (x >>= f) w = (run (f a) w').after notes := by
  rw [run_bind, h]

theorem run_bind_error {x : Act ω α} {f : α → Act ω β} {e : Failure} {notes : List Note} {w' : ω}
    (h : run x w = ⟨.error e, notes, w'⟩) : run (x >>= f) w = ⟨.error e, notes, w'⟩ := by
  rw [run_bind, h]

theorem run_tryCatch_ok {x : Act ω α} {f : Failure → Act ω α} {a : α} {notes : List Note} {w' : ω}
    (h : run x w = ⟨.ok a, notes, w'⟩) : run (tryCatch x f) w = ⟨.ok a, notes, w'⟩ := by
  rw [run_tryCatch, h]

theorem run_tryCatch_error {x : Act ω α} {f : Failure → Act ω α} {e : Failure}
    {notes : List Note} {w' : ω} (h : run x w = ⟨.error e, notes, w'⟩) :
    run (tryCatch x f) w = (run (f e) w').after notes := by
  rw [run_tryCatch, h]

/-- An action that has succeeded has done so in both of its steps. -/
theorem bind_returned {x : Act ω α} {f : α → Act ω β} {b : β} {w' : ω} {notes : List Note}
    (ran : run (x >>= f) w = ⟨.ok b, notes, w'⟩) :
    ∃ a before v after, run x w = ⟨.ok a, before, v⟩ ∧ run (f a) v = ⟨.ok b, after, w'⟩ ∧
      notes = before ++ after := by
  rw [run_bind] at ran
  rcases first : run x w with ⟨e | a, before, v⟩ <;> rw [first] at ran
  · cases ran
  · rcases second : run (f a) v with ⟨answer, after, w''⟩
    dsimp only at ran
    rw [second] at ran
    cases ran
    exact ⟨a, before, v, after, rfl, second, rfl⟩

/-- What only looks at the world leaves it as it was reached. -/
theorem run_bind_world {x : Act ω α} {f : α → Act ω β}
    (looks : ∀ a w', (run (f a) w').world = w') : (run (x >>= f) w).world = (run x w).world := by
  rcases ran : run x w with ⟨e | a, notes, w'⟩
  · rw [run_bind_error ran]
  · rw [run_bind_ok ran, Outcome.after_world, looks]

/-- Whatever becomes of the action, what held of the world before still holds after it. -/
def Preserves (P : ω → Prop) (x : Act ω α) : Prop := ∀ w, P w → P (run x w).world

namespace Preserves

variable {P : ω → Prop} {x : Act ω α}

theorem bind {f : α → Act ω β} (first : Preserves P x) (then_ : ∀ a, Preserves P (f a)) :
    Preserves P (x >>= f) := by
  intro w holds
  have kept := first w holds
  rw [run_bind]
  rcases ran : run x w with ⟨_ | a, notes, w'⟩ <;> rw [ran] at kept
  · exact kept
  · exact then_ a w' kept

theorem pure (a : α) : Preserves P (Pure.pure a) := fun _ holds => holds

theorem log (level : Level) (source : Source) (message : String) :
    Preserves P (log level source message) := fun _ holds => holds

theorem ofCause (result : Except Cause α) : Preserves P (ofCause result) := by
  intro w holds
  cases result <;> exact holds

theorem ofExcept (result : Except Failure α) : Preserves P (ofExcept result) := by
  intro w holds
  rw [run_ofExcept]
  exact holds

theorem logNumber (level : Level) (source : Source) (n : Int) (message : String) :
    Preserves P (logNumber level source n message) := by
  intro w holds
  rw [run_logNumber]
  exact holds

theorem fail (e : Failure) : Preserves P (fail e : Act ω α) := fun _ holds => holds

theorem get : Preserves P MonadState.get := fun _ holds => holds

theorem modify {f : ω → ω} (kept : ∀ w, P w → P (f w)) : Preserves P (modify f) := kept

theorem discard (kept : Preserves P x) : Preserves P (discard x) := by
  intro w holds
  rw [run_discard]
  exact kept w holds

theorem tryCatch {f : Failure → Act ω α} (kept : Preserves P x)
    (handled : ∀ e, Preserves P (f e)) : Preserves P (tryCatch x f) := by
  intro w holds
  have after := kept w holds
  rw [run_tryCatch]
  rcases ran : run x w with ⟨e | a, notes, w'⟩ <;> rw [ran] at after
  · exact handled e w' after
  · exact after

end Preserves

/-- Whatever the action fails with, it is a failure of the given kind. -/
def FailsAs (P : Failure → Prop) (x : Act ω α) : Prop :=
  ∀ w e, (run x w).answer = .error e → P e

namespace FailsAs

variable {P : Failure → Prop} {x : Act ω α}

theorem pure (a : α) : FailsAs P (Pure.pure a : Act ω α) := nofun

theorem get : FailsAs P (MonadState.get : Act ω ω) := nofun

theorem modify (f : ω → ω) : FailsAs P (modify f : Act ω PUnit) := nofun

theorem log (level : Level) (source : Source) (message : String) :
    FailsAs P (log level source message : Act ω Unit) := nofun

theorem logNumber (level : Level) (source : Source) (n : Int) (message : String) :
    FailsAs P (logNumber level source n message : Act ω Unit) := by
  intro w e failed
  rw [run_logNumber] at failed
  cases failed

theorem fail {e : Failure} (kind : P e) : FailsAs P (fail e : Act ω α) := by
  rintro w _ ⟨⟩
  exact kind

theorem bind {f : α → Act ω β} (first : FailsAs P x) (then_ : ∀ a, FailsAs P (f a)) :
    FailsAs P (x >>= f) := by
  intro w e failed
  rcases ran : run x w with ⟨e' | a, notes, w'⟩
  · rw [run_bind_error ran] at failed
    cases failed
    exact first w e (by rw [ran])
  · rw [run_bind_ok ran] at failed
    exact then_ a w' e failed

theorem tryCatch {f : Failure → Act ω α} (first : FailsAs P x)
    (handled : ∀ e, P e → FailsAs P (f e)) : FailsAs P (tryCatch x f) := by
  intro w e failed
  rw [run_tryCatch] at failed
  rcases ran : run x w with ⟨e' | a, notes, w'⟩ <;> rw [ran] at failed
  · exact handled e' (first w e' (by rw [ran])) w' e failed
  · cases failed

theorem ofCause {result : Except Cause α}
    (kind : ∀ cause, result = .error cause → P (.ofCause cause)) :
    FailsAs P (ofCause result : Act ω α) := by
  cases result with
  | error cause => exact .fail (kind cause rfl)
  | ok a => exact .pure a

theorem within {part : Focus τ ω} (fails : FailsAs P x) : FailsAs P (x.within part) := by
  intro w e failed
  rw [run_within] at failed
  exact fails _ e failed

end FailsAs

/-- From worlds that `I` holds of, the action leads to such worlds again, and whatever it fails with
    is a failure of the given kind. -/
def Obeys (I : ω → Prop) (P : Failure → Prop) (x : Act ω α) : Prop :=
  ∀ w, I w → I (run x w).world ∧ ∀ e, (run x w).answer = .error e → P e

namespace Obeys

variable {I : ω → Prop} {P Q : Failure → Prop} {x : Act ω α}

theorem mono (obeys : Obeys I Q x) (wider : ∀ e, Q e → P e) : Obeys I P x := by
  intro w holds
  have ⟨kept, kind⟩ := obeys w holds
  exact ⟨kept, fun e failed => wider e (kind e failed)⟩

theorem pure (a : α) : Obeys I P (Pure.pure a : Act ω α) := fun _ holds => ⟨holds, nofun⟩

theorem modify {f : ω → ω} (kept : ∀ w, I w → I (f w)) : Obeys I P (modify f : Act ω PUnit) :=
  fun w holds => ⟨kept w holds, nofun⟩

theorem log (level : Level) (source : Source) (message : String) :
    Obeys I P (log level source message : Act ω Unit) := fun _ holds => ⟨holds, nofun⟩

theorem fail {e : Failure} (kind : P e) : Obeys I P (fail e : Act ω α) := by
  refine fun w holds => ⟨holds, ?_⟩
  rintro _ ⟨⟩
  exact kind

theorem bind {f : α → Act ω β} (first : Obeys I P x) (then_ : ∀ a, Obeys I P (f a)) :
    Obeys I P (x >>= f) := by
  intro w holds
  have reached := first w holds
  rcases ran : run x w with ⟨e | a, notes, w'⟩ <;> rw [ran] at reached
  · rw [run_bind_error ran]
    refine ⟨reached.1, ?_⟩
    rintro _ ⟨⟩
    exact reached.2 e rfl
  · rw [run_bind_ok ran]
    exact then_ a w' reached.1

theorem tryCatch {f : Failure → Act ω α} (first : Obeys I Q x)
    (handled : ∀ e, Q e → Obeys I P (f e)) : Obeys I P (tryCatch x f) := by
  intro w holds
  have reached := first w holds
  rw [run_tryCatch]
  rcases ran : run x w with ⟨e | a, notes, w'⟩ <;> rw [ran] at reached
  · exact handled e (reached.2 e rfl) w' reached.1
  · exact ⟨reached.1, nofun⟩

theorem discard (obeys : Obeys I P x) : Obeys I P (discard x) := by
  intro w holds
  have reached := obeys w holds
  refine ⟨?_, fun e failed => reached.2 e (discard_failed failed)⟩
  rw [run_discard]
  exact reached.1

end Obeys

end Act

end ChunkRelay
