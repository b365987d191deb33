import ChunkRelay.Console.Program
import ChunkRelay.Proofs.Secrecy.Bench
import ChunkRelay.Proofs.Secrecy.InMemory

/-! # The program keeps the secret

Runs of the program over twin platforms end the same and make the same notes: they print and log the
same, whatever the secret is and whether or not the authorization is well-formed.
-/

namespace ChunkRelay

open Act

def HttpCall.headers? : HttpCall → Option (List (String × String))
  | .post request _ => some request.headers
  | .close _ => none

namespace Console

variable {σ σ' : Type} {R : σ → σ' → Prop} {p : Platform σ} {p' : Platform σ'}

theorem configLines_same {config config' : DeviceConfig} (masked : config.SameMask config') :
    configLines config = configLines config' := by
  rw [configLines, configLines, masked.redacted]

theorem lines_mirror {ω ω' : Type} {S : ω → ω' → Prop} (lines : List String) :
    Mirrors S Eq (lines.forM line) (lines.forM line) := .forM (fun _ => .note _) lines

theorem setUpLogFile_mirrors (tree : FileTree) (verbose : Bool) (settings : Settings) :
    Mirrors (Bench.Alongside R) Eq (setUpLogFile tree verbose settings)
      (setUpLogFile tree verbose settings) := by
  refine .ite (.pure rfl) ?_
  split
  · exact (Mirrors.note _).andThen fun _ => .pure rfl
  · exact .refuse _

theorem report_mirrors {e e' : Failure} (same : e.Same e') :
    Mirrors (Bench.Alongside R) Eq (report e) (report e') := by
  rw [report, report, same.isOperational, same.message, same.hint]
  refine .ite ((Mirrors.note _).andThen fun _ => ?_) (.fail same)
  refine .ite ((Mirrors.note _).andThen fun _ => .pure rfl) (.pure rfl)

/-- The program tells of its operational failures, so none of them is left for its answer. -/
theorem program_foreign {tree : FileTree} {rounds : Nat} {arguments : List String} {b : Bench σ}
    {e : Failure} (failed : (run (program p tree rounds arguments) b).answer = .error e) :
    e.isOperational = false := by
  rw [program] at failed
  cases read : Arguments.read arguments with
  | error dismissal =>
      rw [read] at failed
      cases failed
  | ok a =>
      rw [read] at failed
      dsimp only at failed
      rcases performed : run (perform p tree rounds a) b with ⟨e' | ending, notes, b'⟩
      · rw [run_tryCatch_error performed, Outcome.after_answer, report] at failed
        cases operational : e'.isOperational with
        | false =>
            rw [operational] at failed
            cases failed
            exact operational
        | true =>
            rw [operational, if_pos rfl] at failed
            dsimp only at failed
            split at failed <;> cases failed
      · rw [run_tryCatch_ok performed] at failed
        cases failed

section Twin

variable (twin : p.Twin R p')
include twin

theorem listCommand_mirrors (options : Options) :
    Mirrors (Bench.Alongside R) Eq (listCommand p options) (listCommand p' options) := by
  have printed (d : DeviceInfo) : Mirrors (Bench.Alongside R) Eq (printDevice d) (printDevice d) :=
    .ite (lines_mirror _) ((lines_mirror _).andThen fun _ => .refuse _)
  exact (Bench.devices_mirrors twin _ _).andThen fun devices =>
    .ite (.note _) (.forM printed devices)

theorem configCommand_mirrors (settings : Settings) :
    Mirrors (Bench.Alongside R) Eq (configCommand p settings) (configCommand p' settings) := by
  refine (Bench.readConfig_mirrors twin settings).bind fun masked => ?_
  rw [configLines_same masked]
  exact lines_mirror _

theorem runBridge_mirrors (uploads : Bool) (limits : RunLimits) (rounds : Nat) :
    Mirrors (Pipeline.Alongside (Bench.Alongside R)) Eq (runBridge p uploads limits rounds)
      (runBridge p' uploads limits rounds) := by
  refine Mirrors.get.bind fun beside => ?_
  refine (Pipeline.requireConfig_mirrors beside.bridge).bind fun masked => ?_
  obtain ⟨authorization, -, rfl⟩ := masked
  refine (Mirrors.note _).andThen fun _ => (Mirrors.note _).andThen fun _ => ?_
  refine (Mirrors.note _).andThen fun _ => ?_
  exact Pipeline.run_mirrors (fun _ _ => .note _) (Bench.viaPlatform_mirrors twin.clock) _ _

theorem relay_mirrors (settings : Settings) (limits : RunLimits) (rounds : Nat) :
    Mirrors (Bench.Alongside R) Eq (relay p settings limits rounds)
      (relay p' settings limits rounds) := by
  have ran := Bench.withDevice_mirrors twin settings (Bench.inBridge_mirrors twin settings
    (settings .upload).isSet [()] (runBridge_mirrors twin (settings .upload).isSet limits rounds))
  exact .ite (Bench.withUploader_mirrors twin settings ran) ran

theorem streamCommand_mirrors (tree : FileTree) (a : Arguments) (settings : Settings)
    (rounds : Nat) :
    Mirrors (Bench.Alongside R) Eq (streamCommand p tree a settings rounds)
      (streamCommand p' tree a settings rounds) := by
  refine (setUpLogFile_mirrors tree a.verbose settings).andThen fun refusal? => ?_
  refine (relay_mirrors (twin.logging refusal?) _ _ _).andThen fun result => ?_
  cases result with
  | unfinished => exact .pure rfl
  | finished stats =>
      refine (Mirrors.note _).andThen fun _ => .ite (Mirrors.get.bind fun beside => ?_) (.pure rfl)
      rw [beside.uploader]
      exact (Mirrors.note _).andThen fun _ => .pure rfl

theorem perform_mirrors (tree : FileTree) (rounds : Nat) (a : Arguments) :
    Mirrors (Bench.Alongside R) Eq (perform p tree rounds a) (perform p' tree rounds a) := by
  refine (Mirrors.note _).andThen fun _ => ?_
  cases a.command with
  | devices => exact (listCommand_mirrors twin _).andThen fun _ => .pure rfl
  | config =>
      exact (Mirrors.ofExcept (.refl _)).andThen fun settings =>
        (configCommand_mirrors twin settings).andThen fun _ => .pure rfl
  | stream =>
      exact (Mirrors.ofExcept (.refl _)).andThen fun settings =>
        streamCommand_mirrors twin tree a settings rounds

theorem program_mirrors (tree : FileTree) (rounds : Nat) (arguments : List String) :
    Mirrors (Bench.Alongside R) Eq (program p tree rounds arguments)
      (program p' tree rounds arguments) := by
  rw [program, program]
  cases Arguments.read arguments with
  | ok a => exact (perform_mirrors twin tree rounds a).tryCatch report_mirrors
  | error dismissal => exact .pure rfl

/-- Runs of the program over devices that differ in the secret only end the same, print the same and
    log the same, and make the same calls but for the secret in them. What they can show of the
    devices' configurations is the same. -/
theorem program_keeps_secret (tree : FileTree) (rounds : Nat) (arguments : List String)
    (settings : Settings) {s : σ} {s' : σ'} (start : R s s') :
    let b := Bench.new (Traced.new s)
    let b' := Bench.new (Traced.new s')
    let o := run (program p.traced tree rounds arguments) b
    let o' := run (program p'.traced tree rounds arguments) b'
    o.answer = o'.answer ∧ o.notes = o'.notes ∧
      List.Forall₂ NativeCall.SameMask o.world.platform.native o'.world.platform.native ∧
      List.Forall₂ HttpCall.SameMask o.world.platform.http o'.world.platform.http ∧
      Answers (fun config config' => config.redacted = config'.redacted)
        (run (Bench.readConfig p.traced settings) b).answer
        (run (Bench.readConfig p'.traced settings) b').answer := by
  intro b b' o o'
  have beside : Bench.Alongside (Traced.SameMask R) b b' := Bench.new_alongside (.new start)
  obtain ⟨answer, notes, world⟩ := program_mirrors twin.traced tree rounds arguments b b' beside
  have shown := (Bench.readConfig_mirrors twin.traced settings b b' beside).answer
  refine ⟨answer.eq_of_foreign fun _ => program_foreign, notes, world.platform.native,
    world.platform.http, shown.mono DeviceConfig.SameMask.redacted⟩

end Twin

/-- A device in memory with a chunk to send. -/
def sending (authorization : String) : InMemoryDevice :=
  { InMemoryDevice.new ⟨0, "", "uri", authorization⟩ with pending := [[7]] }

/-- A run that uploads the chunk of such a device. -/
def uploading (authorization : String) : Outcome (Bench (Traced InMemoryDevice)) Ending :=
  run (program Platform.loopback.traced FileTree.empty 3
    ["stream", "--vid", "1", "--pid", "2", "--max-packets", "1"])
    (Bench.new (Traced.new (sending authorization)))

theorem program_keeps_secret_uploading :
    let alike := InMemoryDevice.Disguised "Name:alpha" "Name:beta"
    let sent (value : String) := [[("Name", value), ("Content-Type", "application/octet-stream")]]
    let o := uploading "Name:alpha"
    let o' := uploading "Name:beta"
    Platform.loopback.Twin alike Platform.loopback ∧
      alike (sending "Name:alpha") (sending "Name:beta") ∧
      o.world.platform.http.filterMap HttpCall.headers? = sent "alpha" ∧
      o'.world.platform.http.filterMap HttpCall.headers? = sent "beta" ∧
      o.answer = o'.answer ∧ o.notes = o'.notes := by
  intro alike sent o o'
  have alpha : "Name:alpha" = String.ofList ("Name".toList ++ ':' :: "alpha".toList) := by
    decide +kernel
  have beta : "Name:beta" = String.ofList ("Name".toList ++ ':' :: "beta".toList) := by
    decide +kernel
  have masked : SameMask "Name:alpha" "Name:beta" := by
    rw [alpha, beta]
    exact .colon _ _ (by decide +kernel)
  have twin : Platform.loopback.Twin alike Platform.loopback :=
    Platform.loopback_twin masked ⟨by decide +kernel, by decide +kernel⟩
      ⟨by decide +kernel, by decide +kernel⟩
  have start : alike (sending "Name:alpha") (sending "Name:beta") := ⟨rfl, rfl⟩
  obtain ⟨answer, notes, -⟩ := program_keeps_secret twin FileTree.empty 3
    ["stream", "--vid", "1", "--pid", "2", "--max-packets", "1"] Settings.default start
  exact ⟨twin, start, by decide +kernel, by decide +kernel, answer, notes⟩

end Console

end ChunkRelay
