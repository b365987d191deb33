import ChunkRelay.Console.Program
import ChunkRelay.Proofs.Bench.Cleanup
import ChunkRelay.Proofs.Device.Presented

/-! # How the stream command ends

However a run of the command ends, with whatever failures of the device and of the network, the
device has been closed as often as it has been opened and was told to switch its stream off before
that, unless it was gone. The client of the uploader has been closed once. And if the command fails,
it fails with what it would fail with if it did nothing on the way out.
-/

namespace ChunkRelay.Console

open Act Bench

variable {σ : Type} {p : Platform σ}

/-! ## The log file -/

theorem toFile_setup {j j' : Journal} {path : Path} {verbose : Bool}
    (sent : j.toFile path verbose = .ok j') : j'.setup = j.setup.toFile path.place verbose := by
  rw [Journal.toFile] at sent
  split at sent
  · cases sent
    rfl
  · cases room : j.tree.makeRoom path with
    | error defect =>
        rw [room] at sent
        cases sent
    | ok tree =>
        rw [room] at sent
        cases sent
        rfl

/-- A file that takes the record of an opened device takes that of a failure to close it. -/
theorem toFile_refusal {tree : FileTree} {path : Path} {verbose fileVerbose : Bool} {j : Journal}
    (sent : (Journal.new (LogSetup.initial.toConsole verbose) tree).toFile path fileVerbose =
      .ok j) : j.refusal? .error = j.refusal? .info := by
  have sinks : j.setup.sinksFor .error = j.setup.sinksFor .info := by
    rw [toFile_setup sent]
    cases verbose <;> cases fileVerbose <;> rfl
  rw [Journal.refusal?, Journal.refusal?, sinks]

theorem setUpLogFile_cases (tree : FileTree) (verbose : Bool) (settings : Settings) (b : Bench σ) :
    (∃ e, run (setUpLogFile tree verbose settings) b = ⟨.error e, [], b⟩) ∨
    ∃ refusal? notes, run (setUpLogFile tree verbose settings) b = ⟨.ok refusal?, notes, b⟩ ∧
      printed notes = [] ∧ refusal? .error = refusal? .info := by
  simp only [setUpLogFile]
  split
  · exact Or.inr ⟨_, _, rfl, rfl, rfl⟩
  · cases named : logPath (settings .logFile) with
    | error defect => exact Or.inl ⟨_, rfl⟩
    | ok path =>
        cases sent : (Journal.new (LogSetup.initial.toConsole verbose) tree).toFile path
          (settings .verbose).isSet with
        | error defect =>
            simp only [bind, Except.bind, sent]
            exact Or.inl ⟨_, rfl⟩
        | ok j =>
            simp only [bind, Except.bind, sent]
            exact Or.inr ⟨_, _, rfl, rfl, toFile_refusal sent⟩

/-! ## Runs -/

theorem runBridge_tidy (p : Platform σ) (uploads : Bool) (limits : RunLimits) (rounds : Nat) :
    Upholds (Bridged p.traced uploads fun _ streaming b => Tidy streaming b)
      (runBridge p.traced uploads limits rounds) := by
  have silent (text : String) : Upholds (Bridged p.traced uploads fun _ streaming b =>
      Tidy (σ := σ) streaming b) (Act.line (ω := Pipeline Unit (Bench (Traced σ))) text) := by
    intro _ pipeline between
    exact ⟨between.transport, between.uploader, between.closed, between.around⟩
  have delivered (streaming : Bool) (uri authorization : String) (payload : List UInt8) :
      ∀ u ∈ (if uploads then some (httpUploader p.traced) else none),
        Upholds (fun _ b => Tidy (σ := σ) streaming b) (u.deliver uri authorization payload) := by
    intro u given
    cases uploads with
    | false => cases given
    | true =>
        cases given
        exact deliver_tidy p uri authorization payload
  rw [runBridge]
  refine Upholds.get.bind fun pipeline => (Upholds.ofCause _).bind fun config => ?_
  refine (silent _).bind fun _ => (silent _).bind fun _ => (silent _).bind fun _ => ?_
  refine Pipeline.run_upholds ?timed (Pipeline.step_upholds ?told ?processed) limits rounds
  case timed =>
    exact Pipeline.viaSession_upholds (Session.outside_upholds fun _ => clock_tidy p)
  case told =>
    intro _ event s _ v between
    exact ⟨between.transport, between.uploader, between.closed, between.around⟩
  case processed =>
    intro config timeoutMs
    exact (upkeep_tidy p).process (fun u given streaming payload =>
      delivered streaming _ _ payload u given) timeoutMs

/-- A run of the stream command that cleans up nothing. -/
def bareRelay (p : Platform σ) (settings : Settings) (limits : RunLimits) (rounds : Nat) :
    Act (Bench σ) RunResult :=
  let uploads := (settings .upload).isSet
  let run := bareDevice p settings
    (bareBridge p settings uploads [()] (runBridge p uploads limits rounds))
  if uploads then bareUploader settings run else run

/-- The stream command with nothing done on the way out: no stream is switched off, and neither the
    device nor the client is closed. -/
def bareStream (p : Platform σ) (tree : FileTree) (a : Arguments) (settings : Settings)
    (rounds : Nat) : Act (Bench σ) Ending := do
  let logRefusal? ← setUpLogFile tree a.verbose settings
  match ← bareRelay { p with logRefusal? } settings a.options.limits rounds with
  | .finished _ => pure (.exit 0)
  | .unfinished => pure .unfinished

/-- Whether the stream command comes to make its uploader. -/
def makesUploader (tree : FileTree) (a : Arguments) (settings : Settings) (b : Bench σ) : Bool :=
  (settings .upload).isSet && (run (setUpLogFile tree a.verbose settings) b).answer.isOk &&
    (settings .uploadTimeoutMs).integer.isOk

/-- What the stream command is to leave behind. -/
structure CleanedUp (uploaded : Bool) (b : Bench (Traced σ)) : Prop where
  /-- Every handle that was opened has been closed once. -/
  handles : OneHandle b.platform.native false
  isClosed : b.connection.isOpen = false
  switchedOff : SwitchedOff b.platform.native
  client : b.platform.http.countP HttpCall.closes = if uploaded then 1 else 0

section Relay

variable {b : Bench (Traced σ)} {settings : Settings} {limits : RunLimits} {rounds : Nat}

theorem bridge_tidy (p : Platform σ) (settings : Settings) (limits : RunLimits) (rounds : Nat)
    (uploads : Bool) (tidy : Tidy false b) :
    Tidy false (run (inBridge p.traced settings uploads [()]
      (runBridge p.traced uploads limits rounds)) b).world :=
  inBridge_leads (upkeep_tidy p) (runBridge_tidy p uploads limits rounds) settings [()] [] b tidy

theorem CleanedUp.of_tidy (tidy : Tidy false b) (isClosed : b.connection.isOpen = false) :
    CleanedUp false b where
  handles := by
    have order := tidy.tended.order
    rw [Connection.InOrder, isClosed] at order
    exact order.oneHandle
  isClosed := isClosed
  switchedOff := tidy.tended.careful.switchedOff
  client := tidy.unclosed

theorem withUploader_left {x : Act (Bench (Traced σ)) RunResult} (settings : Settings)
    (left : ∀ {b}, Tidy false b → b.connection.isOpen = false →
      Tidy false (run x b).world ∧ (run x b).world.connection.isOpen = false)
    (tidy : Tidy false b) (isClosed : b.connection.isOpen = false) :
    CleanedUp (settings .uploadTimeoutMs).integer.isOk
      (run (withUploader p.traced settings x) b).world := by
  rw [withUploader, integer]
  cases (settings .uploadTimeoutMs).integer with
  | error refusal => exact .of_tidy tidy isClosed
  | ok timeoutMs =>
      rw [pure_bind, run_bind_ok (run_modify _ _)]
      have made := tidy.newUploader timeoutMs (settings .verbose).isSet
      have used : Leads (fun _ b => Tidy false b ∧ b.connection.isOpen = false) x
          fun _ b => Tidy false b ∧ b.connection.isOpen = false :=
        fun _ _ holds => left holds.1 holds.2
      have closed : Leads (fun _ b => Tidy false b ∧ b.connection.isOpen = false)
          ((HttpUploader.close p.traced.http).within uploaderPart) fun _ b => CleanedUp true b := by
        rintro _ b ⟨tidy, isClosed⟩
        rw [closeUploader_run b tidy.owns]
        obtain ⟨handles, _, switchedOff, client⟩ := CleanedUp.of_tidy tidy isClosed
        refine ⟨handles, isClosed, switchedOff, ?_⟩
        change (b.platform.http ++ [HttpCall.close _]).countP HttpCall.closes = 1
        rw [List.countP_append, client]
        rfl
      exact Leads.followedBy used closed [] _ ⟨made, isClosed⟩

theorem relay_left (tidy : Tidy false b) (isClosed : b.connection.isOpen = false) :
    CleanedUp ((settings .upload).isSet && (settings .uploadTimeoutMs).integer.isOk)
      (run (relay p.traced settings limits rounds) b).world := by
  rw [relay]
  cases uploads : (settings .upload).isSet with
  | false =>
      obtain ⟨tidy', isClosed'⟩ := withDevice_left (p := p) settings
        (bridge_tidy p settings limits rounds false) tidy isClosed
      exact .of_tidy tidy' isClosed'
  | true =>
      exact withUploader_left settings
        (withDevice_left settings (bridge_tidy p settings limits rounds true)) tidy isClosed

theorem withUploader_answer {x y : Act (Bench (Traced σ)) RunResult} (settings : Settings)
    (closes : ∀ s, (p.http.close s).answer = .ok ())
    (left : ∀ {b}, Tidy false b → b.connection.isOpen = false →
      Tidy false (run x b).world ∧ (run x b).world.connection.isOpen = false)
    (same : ∀ {b}, Tidy false b → b.connection.isOpen = false →
      (run x b).answer = (run y b).answer)
    (tidy : Tidy false b) (isClosed : b.connection.isOpen = false) :
    (run (withUploader p.traced settings x) b).answer =
      (run (bareUploader settings y) b).answer := by
  rw [withUploader, bareUploader, integer]
  cases (settings .uploadTimeoutMs).integer with
  | error refusal => rfl
  | ok timeoutMs =>
      rw [pure_bind, pure_bind, run_bind_ok (run_modify _ _), run_bind_ok (run_modify _ _),
        Outcome.after_answer, Outcome.after_answer]
      have made := tidy.newUploader timeoutMs (settings .verbose).isSet
      rw [followedBy_answer]
      · exact same made isClosed
      · intro e failed
        rw [closeUploader_run _ (left made isClosed).1.owns] at failed
        dsimp only at failed
        rw [closes] at failed
        cases failed

theorem relay_answer (closes : ∀ s, (p.http.close s).answer = .ok ())
    (logs : logAnswer p .error = logAnswer p .info) (tidy : Tidy false b)
    (isClosed : b.connection.isOpen = false) :
    (run (relay p.traced settings limits rounds) b).answer =
      (run (bareRelay p.traced settings limits rounds) b).answer := by
  have same (uploads : Bool) {b : Bench (Traced σ)} (tidy : Tidy false b)
      (isClosed : b.connection.isOpen = false) := withDevice_answer settings logs
    (bridge_tidy p settings limits rounds uploads)
    (fun b => inBridge_answer settings uploads [()] _ b) tidy isClosed
  rw [relay, bareRelay]
  cases (settings .upload).isSet with
  | false => exact same false tidy isClosed
  | true =>
      exact withUploader_answer settings closes
        (withDevice_left settings (bridge_tidy p settings limits rounds true)) (same true) tidy
        isClosed

end Relay

/-- The world that the last lines are printed in is the one that the relay leaves. -/
theorem streamCommand_relayed {tree : FileTree} {a : Arguments} {settings : Settings}
    {b : Bench σ} {refusal? : Level → Option Defect} {notes : List Note} (rounds : Nat)
    (set : run (setUpLogFile tree a.verbose settings) b = ⟨.ok refusal?, notes, b⟩) :
    (run (streamCommand p tree a settings rounds) b).world =
      (run (relay { p with logRefusal? := refusal? } settings a.options.limits rounds)
        b).world := by
  rw [streamCommand, run_bind_ok set, Outcome.after_world, run_bind]
  rcases run (relay { p with logRefusal? := refusal? } settings a.options.limits rounds) b with
    ⟨_ | result, notes, b'⟩
  · rfl
  · cases result with
    | unfinished => rfl
    | finished stats => cases (settings .upload).isSet <;> rfl

theorem streamCommand_answer {tree : FileTree} {a : Arguments} {settings : Settings}
    {b : Bench σ} {refusal? : Level → Option Defect} {notes : List Note} (rounds : Nat)
    (set : run (setUpLogFile tree a.verbose settings) b = ⟨.ok refusal?, notes, b⟩)
    (same : (run (relay { p with logRefusal? := refusal? } settings a.options.limits rounds)
      b).answer = (run (bareRelay { p with logRefusal? := refusal? } settings a.options.limits
        rounds) b).answer) :
    (run (streamCommand p tree a settings rounds) b).answer =
      (run (bareStream p tree a settings rounds) b).answer := by
  rw [streamCommand, bareStream, run_bind_ok set, run_bind_ok set, Outcome.after_answer,
    Outcome.after_answer]
  refine answer_bind_of (fun
    | .finished _ => .ok (.exit 0)
    | .unfinished => .ok .unfinished) same ?_ ?_
  · rintro (stats | _) b'
    · cases (settings .upload).isSet <;> rfl
    · rfl
  · rintro (stats | _) b' <;> rfl

theorem streamCommand_cleansUp (p : Platform σ) (closes : ∀ s, (p.http.close s).answer = .ok ())
    (tree : FileTree) (a : Arguments) (settings : Settings) (rounds : Nat) (s : σ) :
    let b := Bench.new (Traced.new s)
    let o := run (streamCommand p.traced tree a settings rounds) b
    CleanedUp (makesUploader tree a settings b) o.world ∧
      o.answer = (run (bareStream p.traced tree a settings rounds) b).answer := by
  intro b o
  have tidy : Tidy false b := ⟨⟨.none, .none, rfl⟩, nofun, rfl, rfl⟩
  rcases setUpLogFile_cases tree a.verbose settings b with
    ⟨e, refused⟩ | ⟨refusal?, notes, set, _, logs⟩
  · have unmade : makesUploader tree a settings b = false := by
      rw [makesUploader, refused]
      cases (settings .upload).isSet <;> rfl
    have stopped : o = ⟨.error e, [], b⟩ := run_bind_error refused
    have bare : run (bareStream p.traced tree a settings rounds) b = ⟨.error e, [], b⟩ :=
      run_bind_error refused
    rw [unmade, stopped, bare]
    exact ⟨.of_tidy tidy rfl, rfl⟩
  · have made : makesUploader tree a settings b =
        ((settings .upload).isSet && (settings .uploadTimeoutMs).integer.isOk) := by
      rw [makesUploader, set]
      cases (settings .upload).isSet <;> rfl
    let logging : Platform σ := { p with logRefusal? := refusal? }
    have agree : logAnswer logging .error = logAnswer logging .info := by
      simp only [logAnswer, logging, logs]
    constructor
    · rw [made]
      change CleanedUp _ (run (streamCommand p.traced tree a settings rounds) b).world
      rw [streamCommand_relayed rounds set]
      exact relay_left (p := logging) tidy rfl
    · exact streamCommand_answer rounds set (relay_answer (p := logging) closes agree tidy rfl)

/-- The arguments for a run that ends with the first packet. -/
def firstPacket : Arguments := ⟨false, .stream, Options.none.set .maxPackets (.int 1)⟩

def anyDevice : Settings := (Settings.default.set .vendor (.int 1)).set .product (.int 2)

/-- A run of the stream command over a device in memory. -/
def loopbackRun (d : InMemoryDevice) : Outcome (Bench (Traced InMemoryDevice)) Ending :=
  run (streamCommand Platform.loopback.traced FileTree.empty firstPacket anyDevice 3)
    (Bench.new (Traced.new d))

theorem streamCommand_cleansUp_loopback :
    let d := InMemoryDevice.new ⟨0, "", "uri", "Name:value"⟩
    (∀ d, (Platform.loopback.http.close d).answer = .ok ()) ∧
    (loopbackRun d).world.platform.native.countP NativeCall.opens = 1 ∧
    CleanedUp true (loopbackRun d).world := by
  intro d
  have closes : ∀ d, (Platform.loopback.http.close d).answer = .ok () := fun _ => rfl
  have cleanedUp := streamCommand_cleansUp Platform.loopback closes FileTree.empty firstPacket
    anyDevice 3 d
  exact ⟨closes, by decide +kernel, cleanedUp.1⟩

end ChunkRelay.Console
