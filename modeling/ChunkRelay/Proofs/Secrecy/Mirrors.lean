import ChunkRelay.Proofs.Act

/-! # Two runs side by side

Two actions mirror each other if from worlds that are related they make the same notes, come to
answers that are related, and leave worlds that are related again. They fail together, and then
their failures are the same but for the length of a malformed authorization, which is in no message.
-/

namespace ChunkRelay

inductive Failure.Same : Failure → Failure → Prop where
  | refl (e : Failure) : Same e e
  | authorization (n m : Nat) :
      Same (.caused (.authorizationFormat n)) (.caused (.authorizationFormat m))

namespace Failure.Same

variable {e e' : Failure}

theorem isClass (same : e.Same e') (c : ErrorClass) : e.isClass c = e'.isClass c := by
  cases same <;> rfl

theorem isOperational (same : e.Same e') : e.isOperational = e'.isOperational := by
  cases same <;> rfl

theorem isDeviceFault (same : e.Same e') : e.isDeviceFault = e'.isDeviceFault := by
  cases same <;> rfl

theorem isRequestFault (same : e.Same e') : e.isRequestFault = e'.isRequestFault := by
  cases same <;> rfl

theorem message (same : e.Same e') : e.message = e'.message := by
  cases same <;> rfl

theorem hint (same : e.Same e') : e.hint? = e'.hint? := by
  cases same <;> rfl

theorem status (same : e.Same e') : e.status = e'.status := by
  cases same <;> rfl

/-- What the program does not tell of its own accord is the same without reserve. -/
theorem eq_of_foreign (same : e.Same e') (foreign : e.isOperational = false) : e = e' := by
  cases same with
  | refl => rfl
  | authorization => cases foreign

end Failure.Same

variable {α α' β β' : Type}

inductive Answers (A : α → α' → Prop) : Except Failure α → Except Failure α' → Prop where
  | ok {a : α} {a' : α'} (related : A a a') : Answers A (.ok a) (.ok a')
  | error {e e' : Failure} (same : e.Same e') : Answers A (.error e) (.error e')

theorem Answers.refl (answer : Except Failure α) : Answers Eq answer answer := by
  cases answer with
  | ok a => exact .ok rfl
  | error e => exact .error (.refl e)

theorem Answers.eq_of_foreign {answer answer' : Except Failure α}
    (answers : Answers Eq answer answer')
    (foreign : ∀ e, answer = .error e → e.isOperational = false) : answer = answer' := by
  cases answers with
  | ok related => rw [related]
  | error same => rw [same.eq_of_foreign (foreign _ rfl)]

theorem Answers.mono {A B : α → α' → Prop} {answer : Except Failure α}
    {answer' : Except Failure α'} (answers : Answers A answer answer')
    (weaker : ∀ {a a'}, A a a' → B a a') : Answers B answer answer' := by
  cases answers with
  | ok related => exact .ok (weaker related)
  | error same => exact .error same

variable {ω ω' τ τ' : Type}

/-- Outcomes that show the same. -/
structure Outcome.Mirrors (R : ω → ω' → Prop) (A : α → α' → Prop) (o : Outcome ω α)
    (o' : Outcome ω' α') : Prop where
  answer : Answers A o.answer o'.answer
  notes : o.notes = o'.notes
  world : R o.world o'.world

namespace Act

def Mirrors (R : ω → ω' → Prop) (A : α → α' → Prop) (x : Act ω α) (y : Act ω' α') : Prop :=
  ∀ w w', R w w' → (run x w).Mirrors R A (run y w')

namespace Mirrors

variable {R : ω → ω' → Prop} {A : α → α' → Prop} {B : β → β' → Prop} {x : Act ω α} {y : Act ω' α'}

theorem pure {a : α} {a' : α'} (related : A a a') : Mirrors R A (Pure.pure a) (Pure.pure a') :=
  fun _ _ holds => ⟨.ok related, rfl, holds⟩

theorem fail {e e' : Failure} (same : e.Same e') : Mirrors R A (fail e) (fail e') :=
  fun _ _ holds => ⟨.error same, rfl, holds⟩

theorem refuse (e : Failure) : Mirrors R A (Act.fail e) (Act.fail e) := .fail (.refl e)

theorem note (n : Note) : Mirrors R Eq (note n) (note n) := fun _ _ holds => ⟨.ok rfl, rfl, holds⟩

theorem log (level : Level) (source : Source) (message : String) :
    Mirrors R Eq (log level source message) (log level source message) := .note _

theorem logNumber (level : Level) (source : Source) (n : Int) (message : String) :
    Mirrors R Eq (logNumber level source n message) (logNumber level source n message) := by
  intro w w' holds
  rw [run_logNumber, run_logNumber]
  exact ⟨.ok rfl, rfl, holds⟩

theorem get : Mirrors R R MonadState.get MonadState.get := fun _ _ holds => ⟨.ok holds, rfl, holds⟩

theorem modify {f : ω → ω} {g : ω' → ω'} (kept : ∀ {w w'}, R w w' → R (f w) (g w')) :
    Mirrors R Eq (modify f) (modify g) := fun _ _ holds => ⟨.ok rfl, rfl, kept holds⟩

theorem set {v : ω} {v' : ω'} (holds : R v v') : Mirrors R Eq (set v) (set v') :=
  fun _ _ _ => ⟨.ok rfl, rfl, holds⟩

theorem ofExcept {r : Except Failure α} {r' : Except Failure α'} (answers : Answers A r r') :
    Mirrors R A (ofExcept r) (ofExcept r') := by
  cases answers with
  | ok related => exact .pure related
  | error same => exact .fail same

theorem ofCause (result : Except Cause α) : Mirrors R Eq (ofCause result) (ofCause result) := by
  cases result with
  | ok a => exact .pure rfl
  | error cause => exact .refuse _

theorem bind {f : α → Act ω β} {g : α' → Act ω' β'} (first : Mirrors R A x y)
    (next : ∀ {a a'}, A a a' → Mirrors R B (f a) (g a')) : Mirrors R B (x >>= f) (y >>= g) := by
  intro w w' holds
  obtain ⟨answer, notes, world⟩ := first w w' holds
  rcases left : run x w with ⟨a, before, v⟩
  rcases right : run y w' with ⟨a', before', v'⟩
  rw [left, right] at answer notes world
  obtain rfl : before = before' := notes
  cases answer with
  | error same =>
      rw [run_bind_error left, run_bind_error right]
      exact ⟨.error same, rfl, world⟩
  | ok related =>
      rw [run_bind_ok left, run_bind_ok right]
      obtain ⟨answer, notes, world⟩ := next related v v' world
      exact ⟨answer, congrArg (before ++ ·) notes, world⟩

/-- Actions whose answers are the same go on from one and the same answer. -/
theorem andThen {y : Act ω' α} {f : α → Act ω β} {g : α → Act ω' β'} (first : Mirrors R Eq x y)
    (next : ∀ a, Mirrors R B (f a) (g a)) : Mirrors R B (x >>= f) (y >>= g) := by
  apply first.bind
  rintro a _ rfl
  exact next a

theorem tryCatch {f : Failure → Act ω α} {g : Failure → Act ω' α'} (tried : Mirrors R A x y)
    (handled : ∀ {e e'}, e.Same e' → Mirrors R A (f e) (g e')) :
    Mirrors R A (tryCatch x f) (tryCatch y g) := by
  intro w w' holds
  obtain ⟨answer, notes, world⟩ := tried w w' holds
  rcases left : run x w with ⟨a, before, v⟩
  rcases right : run y w' with ⟨a', before', v'⟩
  rw [left, right] at answer notes world
  obtain rfl : before = before' := notes
  cases answer with
  | ok related =>
      rw [run_tryCatch_ok left, run_tryCatch_ok right]
      exact ⟨.ok related, rfl, world⟩
  | error same =>
      rw [run_tryCatch_error left, run_tryCatch_error right]
      obtain ⟨answer, notes, world⟩ := handled same v v' world
      exact ⟨answer, congrArg (before ++ ·) notes, world⟩

theorem attempt (tried : Mirrors R A x y) :
    Mirrors R (Answers A) (attempt x) (attempt y) := by
  intro w w' holds
  obtain ⟨answer, notes, world⟩ := tried w w' holds
  exact ⟨.ok answer, notes, world⟩

theorem followedBy {cleanup : Act ω Unit} {cleanup' : Act ω' Unit} (body : Mirrors R A x y)
    (cleaned : Mirrors R Eq cleanup cleanup') :
    Mirrors R A (x.followedBy cleanup) (y.followedBy cleanup') := by
  refine body.attempt.bind fun answers => cleaned.andThen fun _ => ?_
  exact .ofExcept answers

theorem ite {c : Prop} [Decidable c] {x' : Act ω α} {y' : Act ω' α'} (holds : Mirrors R A x y)
    (fails : Mirrors R A x' y') : Mirrors R A (if c then x else x') (if c then y else y') := by
  by_cases condition : c
  · rw [if_pos condition, if_pos condition]
    exact holds
  · rw [if_neg condition, if_neg condition]
    exact fails

theorem forM {f : β → Act ω PUnit} {g : β → Act ω' PUnit} (each : ∀ b, Mirrors R Eq (f b) (g b))
    (items : List β) : Mirrors R Eq (items.forM f) (items.forM g) := by
  induction items with
  | nil => exact .pure rfl
  | cons item items ih => exact (each item).andThen fun _ => ih

theorem within {S : τ → τ' → Prop} {part : Focus ω τ} {part' : Focus ω' τ'} {x : Act τ α}
    {y : Act τ' α'} (inner : Mirrors S A x y)
    (got : ∀ {w w'}, R w w' → S (part.get w) (part'.get w'))
    (put : ∀ {t t' w w'}, R w w' → S t t' → R (part.set t w) (part'.set t' w')) :
    Mirrors R A (x.within part) (y.within part') := by
  intro w w' holds
  obtain ⟨answer, notes, world⟩ := inner _ _ (got holds)
  exact ⟨answer, notes, put holds world⟩

end Mirrors

end Act

/-! ## Worlds with a part that is the same -/

open Act

def Alongside (R : ω → ω' → Prop) (v : τ × ω) (v' : τ × ω') : Prop := v.1 = v'.1 ∧ R v.2 v'.2

namespace Alongside

variable {R : ω → ω' → Prop} {A : α → α' → Prop}

theorem state : Mirrors (Alongside (τ := τ) R) Eq (do pure (← get).1) (do pure (← get).1) :=
  Mirrors.get.bind fun beside => .pure beside.1

theorem update (f : τ → τ) : Mirrors (Alongside R) Eq (modify fun v : τ × ω => (f v.1, v.2))
    (modify fun v : τ × ω' => (f v.1, v.2)) :=
  .modify fun beside => ⟨congrArg f beside.1, beside.2⟩

theorem outside {x : Act ω α} {y : Act ω' α'} (inner : Mirrors R A x y) :
    Mirrors (Alongside (τ := τ) R) A (x.within Focus.snd) (y.within Focus.snd) :=
  inner.within (fun beside => beside.2) fun beside kept => ⟨beside.1, kept⟩

theorem starting {x : Act (τ × ω) α} {y : Act (τ × ω') α'} (part : τ)
    (inner : Mirrors (Alongside R) A x y) :
    Mirrors R A (Act.starting part x) (Act.starting part y) := by
  intro w w' holds
  obtain ⟨answer, notes, world⟩ := inner (part, w) (part, w') ⟨rfl, holds⟩
  exact ⟨answer, notes, world.2⟩

end Alongside

end ChunkRelay
