import ChunkRelay.Failure
import ChunkRelay.Files.Path
import ChunkRelay.Log

/-! # Actions

An action runs on a world and leaves behind an answer or a failure, the notes it made on the way,
and the changed world. A failure ends the action but undoes nothing: notes and world stay as the
failing step left them. Notes are kept in order and only ever added to.

The platform below the program is reached by calls. A call may change its world, fail and ask the
run to stop, and can do nothing else.
-/

namespace ChunkRelay

/-- What an action reports while it runs. -/
inductive Note where
  /-- A log record. -/
  | log (record : LogRecord)
  /-- A line of output. -/
  | line (text : String)
  /-- A request that the run come to its end. -/
  | stopRequest
  /-- From here on log records go to the console. -/
  | logToConsole (verbose : Bool)
  /-- From here on log records also go to a file. -/
  | logToFile (path : Path) (verbose : Bool)
  deriving Repr, DecidableEq

/-- What is left of an action that has run. -/
structure Outcome (ω α : Type) where
  answer : Except Failure α
  notes : List Note
  world : ω

namespace Outcome

/-- The outcome of what went on after the given notes were made. -/
def after (o : Outcome ω α) (notes : List Note) : Outcome ω α :=
  { o with notes := notes ++ o.notes }

theorem after_nil (o : Outcome ω α) : o.after [] = o := rfl

end Outcome

/-- An action on worlds `ω` with an answer in `α`. -/
def Act (ω α : Type) : Type := ω → Outcome ω α

namespace Act

variable {ω σ τ α β : Type}

def run (x : Act ω α) (w : ω) : Outcome ω α := x w

def answer (a : α) : Act ω α := fun w => ⟨.ok a, [], w⟩

def fail (e : Failure) : Act ω α := fun w => ⟨.error e, [], w⟩

def andThen (x : Act ω α) (f : α → Act ω β) : Act ω β := fun w =>
  match x w with
  | ⟨.ok a, notes, w⟩ => (f a w).after notes
  | ⟨.error e, notes, w⟩ => ⟨.error e, notes, w⟩

/-- Run an action and, if it fails, go on with its failure. -/
def orElse (x : Act ω α) (f : Failure → Act ω α) : Act ω α := fun w =>
  match x w with
  | ⟨.ok a, notes, w⟩ => ⟨.ok a, notes, w⟩
  | ⟨.error e, notes, w⟩ => (f e w).after notes

instance : Monad (Act ω) where
  pure := answer
  bind := andThen

instance : MonadExceptOf Failure (Act ω) where
  throw := fail
  tryCatch := orElse

instance : MonadStateOf ω (Act ω) where
  get := fun w => ⟨.ok w, [], w⟩
  set w := fun _ => ⟨.ok (), [], w⟩
  modifyGet f := fun w => ⟨.ok (f w).1, [], (f w).2⟩

@[simp] theorem run_pure (a : α) (w : ω) : run (pure a : Act ω α) w = ⟨.ok a, [], w⟩ := rfl

@[simp] theorem run_throw (e : Failure) (w : ω) :
    run (throw e : Act ω α) w = ⟨.error e, [], w⟩ := rfl

theorem run_bind (x : Act ω α) (f : α → Act ω β) (w : ω) :
    run (x >>= f) w =
      match run x w with
      | ⟨.ok a, notes, w⟩ => (run (f a) w).after notes
      | ⟨.error e, notes, w⟩ => ⟨.error e, notes, w⟩ := rfl

theorem run_tryCatch (x : Act ω α) (f : Failure → Act ω α) (w : ω) :
    run (tryCatch x f) w =
      match run x w with
      | ⟨.ok a, notes, w⟩ => ⟨.ok a, notes, w⟩
      | ⟨.error e, notes, w⟩ => (run (f e) w).after notes := rfl

@[simp] theorem run_get (w : ω) : run (get : Act ω ω) w = ⟨.ok w, [], w⟩ := rfl

@[simp] theorem run_set (w v : ω) : run (set v : Act ω PUnit) w = ⟨.ok (), [], v⟩ := rfl

@[simp] theorem run_modify (f : ω → ω) (w : ω) :
    run (modify f : Act ω PUnit) w = ⟨.ok (), [], f w⟩ := rfl

instance : LawfulMonad (Act ω) := LawfulMonad.mk' (Act ω)
  (by
    intro α x
    funext w
    show (match x w with
      | ⟨.ok a, notes, w⟩ => (answer a w).after notes
      | ⟨.error e, notes, w⟩ => ⟨.error e, notes, w⟩) = x w
    rcases x w with ⟨_ | _, notes, w⟩ <;> simp [answer, Outcome.after])
  (by
    intro α β a f
    rfl)
  (by
    intro α β γ x f g
    funext w
    show andThen (andThen x f) g w = andThen x (fun a => andThen (f a) g) w
    simp only [andThen]
    rcases x w with ⟨_ | a, notes, w⟩
    · rfl
    · simp only [Outcome.after]
      rcases f a w with ⟨_ | b, more, w⟩ <;> simp)

def note (n : Note) : Act ω Unit := fun w => ⟨.ok (), [n], w⟩

/-- Write a log record. -/
def log (level : Level) (source : Source) (message : String) : Act ω Unit :=
  note (.log ⟨level, source.name, message⟩)

/-- Write a log record with a number in it. Where the number is too long to be written the record is
lost, and what is going on is not disturbed. -/
def logNumber (level : Level) (source : Source) (n : Int) (message : String) : Act ω Unit :=
  if Numeral.isWritable n then log level source message else pure ()

def line (text : String) : Act ω Unit := note (.line text)

def ofExcept : Except Failure α → Act ω α
  | .ok a => answer a
  | .error e => fail e

/-- Fail for a cause of the program's own. -/
def failWith (cause : Cause) : Act ω α := fail (.ofCause cause)

/-- Answer with what a computation answers that may fail for a cause of the program's own. -/
def ofCause : Except Cause α → Act ω α
  | .ok a => answer a
  | .error cause => failWith cause

/-- Run an action to its end and answer with its answer or failure. -/
def attempt (x : Act ω α) : Act ω (Except Failure α) := fun w =>
  let o := x w
  ⟨.ok o.answer, o.notes, o.world⟩

/-- Run `body`, then `cleanup` whatever became of it. The failure of the body is the one that
counts, unless the cleanup fails too. -/
def followedBy (body : Act ω α) (cleanup : Act ω Unit) : Act ω α := do
  let result ← attempt body
  cleanup
  ofExcept result

end Act

/-- A part of a world, with the way to read it and to put it back. -/
structure Focus (ω τ : Type) where
  get : ω → τ
  set : τ → ω → ω
  get_set : ∀ t w, get (set t w) = t := by intros; rfl
  set_get : ∀ w, set (get w) w = w := by intros; rfl
  set_set : ∀ t t' w, set t (set t' w) = set t w := by intros; rfl

namespace Focus

def fst : Focus (τ × σ) τ where
  get := Prod.fst
  set t w := (t, w.2)

def snd : Focus (τ × σ) σ where
  get := Prod.snd
  set s w := (w.1, s)

end Focus

/-- An action on a part of the world, as an action on all of it. -/
def Act.within (part : Focus ω τ) (x : Act τ α) : Act ω α := fun w =>
  let o := x (part.get w)
  ⟨o.answer, o.notes, part.set o.world w⟩

/-- An action on a world that a part with the given state is added to for as long as it runs. -/
def Act.starting (part : τ) (x : Act (τ × ω) α) : Act ω α := fun w =>
  let o := x (part, w)
  ⟨o.answer, o.notes, o.world.2⟩

/-- What a call to the platform leaves behind. -/
structure Reply (σ α : Type) where
  answer : Except Failure α
  /-- Whether the run was asked to stop while the call was under way. -/
  stops : Bool
  world : σ

/-- A call to the platform. -/
abbrev Call (σ α : Type) : Type := σ → Reply σ α

def Call.act (call : Call σ α) : Act σ α := fun s =>
  let reply := call s
  ⟨reply.answer, if reply.stops then [.stopRequest] else [], reply.world⟩

end ChunkRelay
