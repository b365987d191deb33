import ChunkRelay.Proofs.Bench.Account
import ChunkRelay.Proofs.Console.Cleanup
import Mathlib.Algebra.Ring.Nat

/-! # The two accounts of a run

The stream command prints what its bridge has counted and what its uploader has counted. They count
apart from each other, one by what becomes of polls and the other by what becomes of requests. That
they agree is kept by every step that does not end the run, and so by the run.
-/

namespace ChunkRelay

namespace HttpCall

def isPost : HttpCall → Bool
  | post .. => true
  | _ => false

end HttpCall

namespace Console

open Act Bench

variable {σ : Type} {p : Platform σ}

/-! ## Polls -/

/-- What a poll does to the uploader and to the record of what was sent. -/
inductive Polled (u : HttpUploader) (http : List HttpCall) :
    Except Failure PacketEvent → HttpUploader → List HttpCall → Prop where
  | unsent {e : Failure} (other : e.isClass .deliveryFailed = false) :
      Polled u http (.error e) u http
  | uploaded {event : PacketEvent} {request : PostRequest} {status : Int}
      (body : request.body = event.packet.payload)
      (success : HttpUploader.isSuccess status = true) :
      Polled u http (.ok event)
        { u with stats := u.stats.success status event.packet.payload.length }
        (http ++ [.post request (.ok status)])
  | undelivered {e : Failure} {request : PostRequest} {answer : Except Failure Int} (status : Int)
      (failed : e.isClass .deliveryFailed = true)
      (lost : (HttpCall.post request answer).uploaded? = none) :
      Polled u http (.error e) { u with stats := u.stats.failure status }
        (http ++ [.post request answer])
  | broken {e : Failure} {u' : HttpUploader} {http' : List HttpCall}
      (foreign : e.isOperational = false) : Polled u http (.error e) u' http'

theorem Polled.of_delivered (foreign : p.Foreign) (event : PacketEvent) {u : HttpUploader}
    {t : Traced σ} {answer : Except Failure Int} {w : HttpUploader × Traced σ}
    (delivered : HttpUploader.Delivered p.http event.packet.payload u t answer w) :
    Polled u t.http (answer.map fun _ => event) w.1 w.2.http := by
  have sent (request : PostRequest) : (p.http.traced.post request t).world.http =
      t.http ++ [.post request (p.http.post request t.world).answer] := rfl
  cases delivered with
  | refused other => exact .unsent other
  | uploaded body answered success =>
      dsimp only
      rw [sent, answered]
      exact .uploaded body success
  | rejected uri body answered failure =>
      dsimp only
      rw [sent, answered]
      refine .undelivered _ rfl ?_
      rw [HttpCall.uploaded?, failure]
      rfl
  | unanswered reason uri body failed network =>
      dsimp only
      rw [sent, failed]
      exact .undelivered _ rfl rfl
  | untold => exact .broken rfl
  | broken body failed other => exact .broken (foreign.post _ _ _ failed)

theorem heard_fails {answer : Reception} {e : Failure}
    (other : ∀ e, answer = .error e → e.isClass .deliveryFailed = false)
    (unheard : Session.heard answer = .error e) : e.isClass .deliveryFailed = false := by
  rcases answer with failure | ⟨id, bytes⟩
  · cases unheard
    exact other _ rfl
  · cases accepted : Session.accept id bytes with
    | ok packet =>
        rw [Session.heard, accepted] at unheard
        cases unheard
    | error cause =>
        rw [Session.heard, accepted] at unheard
        cases unheard
        rw [Session.accept] at accepted
        split at accepted
        · obtain ⟨rfl, _⟩ := Codec.decodePacket_error accepted
          rfl
        · cases accepted
          rfl

/-- A poll prints nothing and changes no collaborator of the session. -/
theorem process_polled (foreign : p.Foreign) {s : Session (Bench (Traced σ))}
    (given : s.transport? = some (transport p.traced))
    (uploads : s.uploader? = some (httpUploader p.traced)) (config : DeviceConfig) (timeoutMs : Int)
    (b : Bench (Traced σ)) : ∃ answer notes tracker b',
      run (Session.process (some config) timeoutMs) (s, b) =
        ⟨answer, notes, ({ s with tracker }, b')⟩ ∧ printed notes = [] ∧
      Polled b.uploader b.platform.http answer b'.uploader b'.platform.http := by
  rcases read : run ((transport p.traced).readInput ReportId.streamData.limit timeoutMs) b with
    ⟨answer, notes, b₁⟩
  obtain ⟨silent, uploader, http⟩ : printed notes = [] ∧ b₁.uploader = b.uploader ∧
      b₁.platform.http = b.platform.http := by
    have kept := (upkeep_account (R := fun lines u http =>
      lines = [] ∧ u = b.uploader ∧ http = b.platform.http) p).input false
      ReportId.streamData.limit timeoutMs [] b ⟨rfl, rfl, rfl⟩
    rw [read] at kept
    exact kept
  cases understood : Session.heard answer with
  | error e =>
      have other : e.isClass .deliveryFailed = false := by
        refine heard_fails (fun e failed => ?_) understood
        have fails := Connection.readInput_fails foreign ReportId.streamData.limit timeoutMs
          (b.connection, b.platform) e
        change (run ((transport p.traced).readInput ReportId.streamData.limit timeoutMs) b).answer =
          .error e → _ at fails
        rw [read] at fails
        exact fails failed
      refine ⟨_, _, s.tracker, _,
        Session.process_error (Session.readEvent_error given read understood), silent, ?_⟩
      rw [uploader, http]
      exact .unsent other
  | ok packet =>
      obtain ⟨record, taken⟩ := Session.readEvent_ok given read understood
      obtain ⟨answer', more, w, delivering, delivered, quiet⟩ := HttpUploader.deliver_delivered
        p.http config.dataUri config.authorization packet.payload b₁.uploader b₁.platform
      have outcome : run ((httpUploader p.traced).deliver config.dataUri config.authorization
          packet.payload) b₁ = ⟨answer', more, uploaderPart.set w b₁⟩ := run_within_of delivering
      have forwarded : run (Session.forward config packet) (s.taken packet, b₁) =
          ⟨answer'.map some, more, (s.taken packet, uploaderPart.set w b₁)⟩ :=
        Session.forward_some uploads outcome
      refine ⟨_, _, (s.taken packet).tracker, _, Session.process_ok taken forwarded, ?_, ?_⟩
      · simp [silent, quiet]
      · have polled := Polled.of_delivered foreign (s.event packet) delivered
        rw [uploader, http] at polled
        cases answer' with
        | ok status => exact polled
        | error e => exact polled

/-! ## Accounts -/

/-- The counts of a bridge and of an uploader agree with each other, with the packets told of and
    with the record of what was sent. -/
structure Agree (stats : BridgeStats) (uploads : UploadStats) (events : List PacketEvent)
    (calls : List HttpCall) : Prop where
  packets : stats.packets = uploads.chunksUploaded + uploads.uploadFailures
  failures : stats.deliveryFailures = uploads.uploadFailures
  bytes : stats.bytes = uploads.bytesUploaded
  posts : calls.countP HttpCall.isPost = stats.packets
  /-- The packets told of are those uploaded, in order. -/
  uploaded : calls.filterMap HttpCall.uploaded? = events.map (·.packet.payload)
  chunks : events.length = uploads.chunksUploaded
  lengths : (events.map (·.packet.payload.length)).sum = stats.bytes

namespace Agree

variable {stats stats' : BridgeStats} {uploads : UploadStats} {events : List PacketEvent}
  {calls : List HttpCall}

theorem same (agree : Agree stats uploads events calls) (packets : stats'.packets = stats.packets)
    (bytes : stats'.bytes = stats.bytes)
    (failures : stats'.deliveryFailures = stats.deliveryFailures) :
    Agree stats' uploads events calls where
  packets := packets.trans agree.packets
  failures := failures.trans agree.failures
  bytes := bytes.trans agree.bytes
  posts := agree.posts.trans packets.symm
  uploaded := agree.uploaded
  chunks := agree.chunks
  lengths := agree.lengths.trans bytes.symm

theorem success (agree : Agree stats uploads events calls) {event : PacketEvent}
    {request : PostRequest} {status : Int} (body : request.body = event.packet.payload)
    (success : HttpUploader.isSuccess status = true) :
    Agree { stats with
        packets := stats.packets + 1
        bytes := stats.bytes + event.packet.payload.length }
      (uploads.success status event.packet.payload.length) (events ++ [event])
      (calls ++ [.post request (.ok status)]) where
  packets := by
    have := agree.packets
    simp only [UploadStats.success]
    omega
  failures := agree.failures
  bytes := congrArg (· + event.packet.payload.length) agree.bytes
  posts := by
    rw [List.countP_append, agree.posts]
    rfl
  uploaded := by
    have taken : (HttpCall.post request (.ok status)).uploaded? = some event.packet.payload := by
      rw [HttpCall.uploaded?, if_pos success, body]
    rw [List.filterMap_append, agree.uploaded, List.map_append, List.filterMap_cons, taken]
    rfl
  chunks := by
    rw [List.length_append, agree.chunks]
    rfl
  lengths := by
    rw [List.map_append, List.sum_append, agree.lengths]
    simp

theorem failure (agree : Agree stats uploads events calls) {request : PostRequest}
    {answer : Except Failure Int} (status : Int)
    (lost : (HttpCall.post request answer).uploaded? = none) :
    Agree { stats with
        packets := stats.packets + 1
        deliveryFailures := stats.deliveryFailures + 1 }
      (uploads.failure status) events (calls ++ [.post request answer]) where
  packets := by
    have := agree.packets
    simp only [UploadStats.failure]
    omega
  failures := congrArg (· + 1) agree.failures
  bytes := agree.bytes
  posts := by
    rw [List.countP_append, agree.posts]
    rfl
  uploaded := by
    rw [List.filterMap_append, agree.uploaded, List.filterMap_cons, lost]
    exact List.append_nil _
  chunks := agree.chunks
  lengths := agree.lengths

theorem close (agree : Agree stats uploads events calls) (answer : Except Failure Unit) :
    Agree stats uploads events (calls ++ [.close answer]) where
  packets := agree.packets
  failures := agree.failures
  bytes := agree.bytes
  posts := by
    rw [List.countP_append, agree.posts]
    rfl
  uploaded := by
    rw [List.filterMap_append, agree.uploaded]
    exact List.append_nil _
  chunks := agree.chunks
  lengths := agree.lengths

/-- What a bridge survives it counts as its uploader does. -/
theorem survived {κ : Type} {b : Bridge κ} {tracker : Tracker} {u u' : HttpUploader}
    {http' : List HttpCall} {e : Failure} {mishap : Mishap} {stopping : Bool} {tracker' : Tracker}
    (agree : Agree (b.stats tracker) u.stats events calls)
    (polled : Polled u calls (.error e) u' http') (survivable : e.mishap? = some mishap) :
    Agree (({ b with stopping }.counting mishap).stats tracker') u'.stats events http' := by
  cases polled with
  | unsent other =>
      cases mishap with
      | idle => exact agree.same rfl rfl rfl
      | ignored => exact agree.same rfl rfl rfl
      | undelivered =>
          rw [Failure.deliveryFailed_mishap, survivable] at other
          cases other
  | undelivered status failed lost =>
      cases (Failure.mishap_undelivered failed).symm.trans survivable
      exact (agree.failure status lost).same rfl rfl rfl
  | broken foreign =>
      rw [Failure.mishap_foreign foreign] at survivable
      cases survivable

end Agree

/-! ## Runs -/

/-- A bridge in the course of its run: its accounts agree, and after some first lines there is one
    for each packet told of. -/
structure Tallied (p : Platform σ) (first lines : List String)
    (pipeline : Pipeline Unit (Bench (Traced σ))) : Prop where
  callbacks : pipeline.bridge.callbacks = [()]
  transport : pipeline.session.transport? = some (transport p.traced)
  uploader : pipeline.session.uploader? = some (httpUploader p.traced)
  closed : pipeline.session.closed = false
  accounts : ∃ events, lines = first ++ events.map packetLine ∧
    Agree pipeline.stats pipeline.world.uploader.stats events pipeline.world.platform.http

variable {first : List String}

theorem dispatch_printPacket {callbacks : List Unit} (told : callbacks = [()])
    (event : PacketEvent) (pipeline : Pipeline Unit (Bench (Traced σ))) :
    run (Pipeline.dispatch printPacket event callbacks) pipeline =
      ⟨.ok (), [.line (packetLine event)], pipeline⟩ := by
  subst told
  rfl

theorem survive_printed (e : Failure) (pipeline : Pipeline Unit (Bench (Traced σ))) :
    printed (run (Pipeline.survive e) pipeline).notes = [] :=
  Pipeline.survive_upholds (P := fun lines _ => lines = []) e [] pipeline rfl

/-- Whatever becomes of its packet, a step that returns keeps the accounts in agreement. -/
theorem step_tallied (foreign : p.Foreign) :
    Yields (Tallied p first) (Pipeline.step printPacket) fun _ => Tallied p first := by
  intro lines ⟨b, s, w⟩ event? notes pipeline tallied ran
  obtain ⟨events, shown, agree⟩ := tallied.accounts
  cases given : b.config? with
  | none =>
      rw [Pipeline.step_unpolled given] at ran
      cases ran
  | some config =>
      obtain ⟨answer, more, tracker, w', processed, silent, polled⟩ := process_polled foreign
        tallied.transport tallied.uploader config b.readTimeoutMs w
      obtain ⟨stopping, heeded⟩ := b.heed_stopping more
      have via : run (Pipeline.viaSession (Session.process (some config) b.readTimeoutMs))
          ⟨b, s, w⟩ = ⟨answer, more, ⟨{ b with stopping }, { s with tracker }, w'⟩⟩ := by
        rw [Pipeline.run_viaSession, processed, heeded]
      rcases w' with ⟨connection, u', world, native, http'⟩
      cases answer with
      | ok event =>
          -- With an uploader there is an event only once its chunk has been uploaded.
          cases polled with
          | uploaded body success =>
              rw [Pipeline.step_ok given via,
                run_bind_ok (dispatch_printPacket tallied.callbacks _ _)] at ran
              cases ran
              refine ⟨tallied.callbacks, tallied.transport, tallied.uploader, tallied.closed,
                events ++ [event], ?_, (agree.success body success).same rfl rfl rfl⟩
              simp [shown, silent]
      | error e =>
          have quiet := survive_printed e
            ⟨{ b with stopping }, { s with tracker }, ⟨connection, u', world, native, http'⟩⟩
          obtain ⟨rest, survived⟩ := Pipeline.survive_run (b := { b with stopping })
            (s := { s with tracker }) (w := ⟨connection, u', world, native, http'⟩) e
          rw [survived] at quiet
          rw [Pipeline.step_error given via, survived] at ran
          cases survivable : e.mishap? with
          | none =>
              rw [survivable] at ran
              cases ran
          | some mishap =>
              rw [survivable] at ran quiet
              cases ran
              have unprinted : lines ++ printed (more ++ rest) =
                  first ++ events.map packetLine := by
                rw [printed_append, silent, quiet, List.append_nil, List.append_nil, shown]
              have told : ({ b with stopping }.counting mishap).callbacks = [()] := by
                cases mishap <;> exact tallied.callbacks
              exact ⟨told, tallied.transport, tallied.uploader, tallied.closed, events, unprinted,
                agree.survived polled survivable⟩

theorem clock_tallied (foreign : p.Foreign) :
    Upholds (Tallied p first) (Pipeline.viaWorld (p.traced.clock.within platformPart)) := by
  intro lines ⟨b, s, w⟩ tallied
  have silent := foreign.silent w.platform.world
  obtain ⟨stopping, heeded⟩ := b.heed_stopping (run p.clock w.platform.world).notes
  change Tallied p first (lines ++ printed (run p.clock w.platform.world).notes)
    ⟨b.heed (run p.clock w.platform.world).notes, s, _⟩
  rw [silent, List.append_nil, heeded]
  exact ⟨tallied.callbacks, tallied.transport, tallied.uploader, tallied.closed, tallied.accounts⟩

/-- A finished run answers with the counts of its bridge. -/
def Counted (p : Platform σ) (first : List String) (result : RunResult) (lines : List String)
    (pipeline : Pipeline Unit (Bench (Traced σ))) : Prop :=
  Tallied p first lines pipeline ∧ ∀ stats, result = .finished stats → pipeline.stats = stats

theorem pump_counted (foreign : p.Foreign) (limits : RunLimits) (began : Rat) (rounds : Nat) :
    Yields (Tallied p first)
      (Pipeline.pump (p.traced.clock.within platformPart) printPacket limits began rounds)
      (Counted p first) := by
  -- The accounts agree before each round, so they do when the loop is over.
  induction rounds with
  | zero =>
      intro lines pipeline result notes pipeline' tallied ran
      cases ran
      rw [printed_nil, List.append_nil]
      exact ⟨tallied, nofun⟩
  | succ rounds ih =>
      have asked : Upholds (Tallied p first) _ :=
        Pipeline.isOver_upholds (clock_tallied foreign) limits began
      refine asked.yields.bind fun ended => ?_
      cases ended with
      | true =>
          intro lines pipeline result notes pipeline' tallied ran
          change (⟨.ok (RunResult.finished pipeline.stats), [], pipeline⟩ : Outcome _ _) = _ at ran
          cases ran
          rw [printed_nil, List.append_nil]
          refine ⟨tallied, ?_⟩
          rintro _ ⟨⟩
          rfl
      | false => exact (step_tallied foreign).bind fun _ => ih

theorem run_counted (foreign : p.Foreign) (limits : RunLimits) (rounds : Nat) :
    Yields (Tallied p first)
      (Pipeline.run (p.traced.clock.within platformPart) printPacket limits rounds)
      (Counted p first) := by
  refine Upholds.get.yields.bind fun _ => (Upholds.ofCause _).yields.bind fun _ => ?_
  exact (clock_tallied foreign).yields.bind fun began => pump_counted foreign limits began rounds

/-! ## The command -/

/-- Accounts on which nothing stands yet, with what is printed before their first entry. -/
def Unused (first lines : List String) (u : HttpUploader) (http : List HttpCall) : Prop :=
  u.stats = .zero ∧ lines = first ∧ http = []

theorem line_unused (text : String) :
    Yields (Opening p [()] (Unused first)) (Act.line text) fun _ =>
      Opening p [()] (Unused (first ++ [text])) := by
  rintro lines pipeline _ _ _ ⟨blank, transport, uploader, closed, zero, rfl, none⟩ ⟨⟩
  exact ⟨blank, transport, uploader, closed, zero, rfl, none⟩

theorem Opening.tallied {lines : List String} {pipeline : Pipeline Unit (Bench (Traced σ))}
    (opening : Opening p [()] (Unused first) lines pipeline) : Tallied p first lines pipeline := by
  obtain ⟨blank, transport, uploader, closed, zero, printed, none⟩ := opening
  refine ⟨blank.callbacks, transport, uploader, closed, [], by simpa using printed, ?_⟩
  rw [zero, none]
  exact ⟨blank.packets, blank.deliveryFailures, blank.bytes, blank.packets.symm, rfl, rfl,
    blank.bytes.symm⟩

/-- The lines before the first packet of a run with uploads. -/
def heading (config : DeviceConfig) : List String :=
  [s!"Device:    {config.identifier}", s!"Data URI:  {config.dataUri}", "Upload:    on"]

/-- A run that is finished, with everything printed up to its last packet. -/
def Finished (result : RunResult) (lines : List String) (u : HttpUploader)
    (http : List HttpCall) : Prop :=
  ∀ stats, result = .finished stats → ∃ config events,
    lines = heading config ++ events.map packetLine ∧ Agree stats u.stats events http

theorem runBridge_finished (foreign : p.Foreign) (limits : RunLimits) (rounds : Nat) :
    Yields (Opening p [()] (Unused [])) (runBridge p.traced true limits rounds) fun result =>
      Bridged p.traced true fun lines _ b => Account (Finished result) lines b := by
  rw [runBridge]
  refine Upholds.get.yields.bind fun _ => (Upholds.ofCause _).yields.bind fun config => ?_
  refine (line_unused _).bind fun _ => (line_unused _).bind fun _ => ?_
  refine (line_unused _).bind fun _ => ?_
  intro lines pipeline result notes pipeline' opening ran
  obtain ⟨tallied, counted⟩ := run_counted foreign limits rounds lines pipeline result notes
    pipeline' (Opening.tallied opening) ran
  refine ⟨tallied.transport, tallied.uploader, tallied.closed, ?_⟩
  intro stats finished
  obtain ⟨events, shown, agree⟩ := tallied.accounts
  rw [counted stats finished] at agree
  exact ⟨config, events, shown, agree⟩

theorem relay_finished (foreign : p.Foreign) (settings : Settings)
    (uploads : (settings .upload).isSet = true) (limits : RunLimits) (rounds : Nat) :
    Yields (Account fun lines _ http => lines = [] ∧ http = [])
      (relay p.traced settings limits rounds) fun result => Account (Finished result) := by
  rw [relay, uploads]
  refine withUploader_yields settings ?_ ?_
  · exact withDevice_yields settings (inBridge_yields settings
      (runBridge_finished foreign limits rounds))
  · intro result lines u http answer finished stats done
    obtain ⟨config, events, shown, agree⟩ := finished stats done
    exact ⟨config, events, shown, agree.close answer⟩

/-- A run that has come to its end has printed both of its accounts last. -/
def Reported (ending : Ending) (lines : List String) (u : HttpUploader)
    (http : List HttpCall) : Prop :=
  ∀ code, ending = .exit code → ∃ config stats events,
    lines = heading config ++ events.map packetLine ++ [statsLine stats, uploadLine u.stats] ∧
      Agree stats u.stats events http

theorem streamCommand_reported (foreign : p.Foreign) (tree : FileTree) (a : Arguments)
    (settings : Settings) (uploads : (settings .upload).isSet = true) (rounds : Nat) :
    Yields (Account fun lines _ http => lines = [] ∧ http = [])
      (streamCommand p.traced tree a settings rounds) fun ending => Account (Reported ending) := by
  have set : Yields (Account (σ := σ) fun lines _ http => lines = [] ∧ http = [])
      (setUpLogFile tree a.verbose settings)
      fun _ => Account fun lines _ http => lines = [] ∧ http = [] := by
    intro lines b refusal? notes b' unused ran
    rcases setUpLogFile_cases tree a.verbose settings b with
      ⟨e, refused⟩ | ⟨_, _, done, silent, _⟩
    · rw [refused] at ran
      cases ran
    · rw [done] at ran
      cases ran
      rw [silent, List.append_nil]
      exact unused
  rw [streamCommand]
  refine set.bind fun refusal? => ?_
  have logging : Platform.Foreign { p with logRefusal? := refusal? } :=
    ⟨foreign.read, foreign.setNonblocking, foreign.close, foreign.post, foreign.silent⟩
  refine (relay_finished logging settings uploads a.options.limits rounds).bind fun result => ?_
  cases result with
  | unfinished =>
      intro lines b ending notes b' _ ran
      cases ran
      rintro code ⟨⟩
  | finished stats =>
      intro lines b ending notes b' finished ran
      dsimp only at ran
      rw [if_pos uploads] at ran
      cases ran
      intro code _
      obtain ⟨config, events, rfl, agree⟩ := finished stats rfl
      exact ⟨config, stats, events, rfl, agree⟩

/-- A run with uploads that comes to its end prints two accounts that agree, after one line for each
    packet that was uploaded. -/
theorem streamCommand_accounts (foreign : p.Foreign) (tree : FileTree) (a : Arguments)
    (settings : Settings) (uploads : (settings .upload).isSet = true) (rounds : Nat) (s : σ)
    {code : Nat} {notes : List Note} {b : Bench (Traced σ)}
    (ran : run (streamCommand p.traced tree a settings rounds) (Bench.new (Traced.new s)) =
      ⟨.ok (.exit code), notes, b⟩) :
    ∃ config stats events,
      printed notes = heading config ++ events.map packetLine ++
        [statsLine stats, uploadLine b.uploader.stats] ∧
      Agree stats b.uploader.stats events b.platform.http :=
  streamCommand_reported foreign tree a settings uploads rounds [] (Bench.new (Traced.new s))
    (.exit code) notes b ⟨rfl, rfl⟩ ran code rfl

theorem loopback_foreign : Platform.loopback.Foreign where
  read _ _ _ _ failed := InMemoryDevice.native_read_foreign failed
  setNonblocking _ _ _ failed := by cases failed
  close _ _ failed := by cases failed
  post _ _ _ failed := by cases failed
  silent _ := rfl

theorem streamCommand_accounts_loopback :
    let o := loopbackRun
      { InMemoryDevice.new ⟨0, "", "uri", "Name:value"⟩ with pending := [[1, 2, 3]] }
    Platform.loopback.Foreign ∧ (anyDevice .upload).isSet = true ∧
    o.answer.toOption = some (.exit 0) ∧ o.world.uploader.stats.bytesUploaded = 3 ∧
    ∃ config stats events,
      printed o.notes = heading config ++ events.map packetLine ++
        [statsLine stats, uploadLine o.world.uploader.stats] ∧
      Agree stats o.world.uploader.stats events o.world.platform.http := by
  intro o
  have answered : o.answer.toOption = some (.exit 0) := by decide +kernel
  refine ⟨loopback_foreign, rfl, answered, by decide +kernel, ?_⟩
  rcases ran : o with ⟨e | ending, notes, b⟩ <;> rw [ran] at answered <;> cases answered
  exact streamCommand_accounts loopback_foreign FileTree.empty firstPacket anyDevice rfl 3 _ ran

end Console

end ChunkRelay
