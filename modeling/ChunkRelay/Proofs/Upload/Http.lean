import ChunkRelay.Proofs.Device.Calls
import ChunkRelay.Proofs.Upkeep
import ChunkRelay.Upload.Http

/-! # What becomes of a delivery

A chunk is refused before anything is sent, or there is one request for it. A request that comes to
nothing for reasons of the network counts as a failure, as does one that is answered with another
status than a success. Any other failure of a request is passed on and counted nowhere.
-/

namespace ChunkRelay

/-- The chunk that the call has brought to where it was to go. -/
def HttpCall.uploaded? : HttpCall → Option (List UInt8)
  | post request (.ok status) => if HttpUploader.isSuccess status then some request.body else none
  | _ => none

/-- The counts after a request for so many bytes has been answered. -/
def UploadStats.answered (stats : UploadStats) (bytes : Nat) : Except Failure Int → UploadStats
  | .ok status =>
    if HttpUploader.isSuccess status then stats.success status bytes else stats.failure status
  | .error e => if e.isRequestFault then stats.failure 0 else stats

namespace HttpUploader

open Act

variable {σ : Type} {client : HttpClient σ}

/-- What a delivery answers and leaves behind. -/
inductive Delivered (client : HttpClient σ) (payload : List UInt8) (u : HttpUploader)
    (t : Traced σ) : Except Failure Int → HttpUploader × Traced σ → Prop where
  | refused {e : Failure} (other : e.isClass .deliveryFailed = false) :
      Delivered client payload u t (.error e) (u, t)
  | uploaded {request : PostRequest} {status : Int} (body : request.body = payload)
      (answered : (client.post request t.world).answer = .ok status)
      (success : isSuccess status = true) :
      Delivered client payload u t (.ok status)
        ({ u with stats := u.stats.success status payload.length },
          (client.traced.post request t).world)
  | rejected {request : PostRequest} {status : Int} (uri : String) (body : request.body = payload)
      (answered : (client.post request t.world).answer = .ok status)
      (failure : isSuccess status = false) (writable : Numeral.isWritable status = true) :
      Delivered client payload u t (.error (.caused (.httpStatus status uri payload.length)))
        ({ u with stats := u.stats.failure status }, (client.traced.post request t).world)
  | untold {request : PostRequest} {status : Int} (body : request.body = payload)
      (answered : (client.post request t.world).answer = .ok status)
      (failure : isSuccess status = false) (tooLong : Numeral.isWritable status = false) :
      Delivered client payload u t (.error (.defect .numberTooLong))
        ({ u with stats := u.stats.failure status }, (client.traced.post request t).world)
  | unanswered {request : PostRequest} {e : Failure} (reason uri : String)
      (body : request.body = payload)
      (failed : (client.post request t.world).answer = .error e)
      (network : e.isRequestFault = true) :
      Delivered client payload u t (.error (.caused (.noResponse reason uri payload.length)))
        ({ u with stats := u.stats.failure 0 }, (client.traced.post request t).world)
  | broken {request : PostRequest} {e : Failure} (body : request.body = payload)
      (failed : (client.post request t.world).answer = .error e)
      (other : e.isRequestFault = false) :
      Delivered client payload u t (.error e) (u, (client.traced.post request t).world)

theorem parse_refused {authorization : String} {cause : Cause}
    (refused : AuthHeader.parse authorization = .error cause) :
    cause = .authorizationFormat authorization.length := by
  rw [AuthHeader.parse] at refused
  dsimp only at refused
  split at refused
  · cases refused
    rfl
  · split at refused
    · cases refused
      rfl
    · cases refused

theorem timeoutSeconds_refused {timeoutMs : Int} {e : Failure}
    (refused : timeoutSeconds timeoutMs = .error e) : e = .defect .timeoutTooLarge := by
  rw [timeoutSeconds] at refused
  split at refused
  · cases refused
    rfl
  · cases refused

/-- What is done with a request for a chunk. -/
def send (client : HttpClient σ) (uri : String) (payload : List UInt8) (request : PostRequest) :
    Act (HttpUploader × σ) Int := do
  let status ← tryCatch ((client.post request).act.within Focus.snd) fun e => do
    if e.isRequestFault then
      count (·.failure 0)
      Act.log .warning .uploader s!"UPLOAD_FAILED uri={uri} err={e.message}"
      Act.failWith (.noResponse e.message uri payload.length)
    else throw e
  if isSuccess status then
    count (·.success status payload.length)
    Act.log (if (← get).1.verbose then .info else .debug) .uploader
      s!"CHUNK_UPLOADED bytes={payload.length} status={status}"
    pure status
  else
    count (·.failure status)
    Act.logNumber .warning .uploader status s!"UPLOAD_HTTP_ERROR uri={uri} status={status}"
    Act.failWith (.httpStatus status uri payload.length)

/-- The request for a chunk, if nothing stands against sending it. -/
def due (u : HttpUploader) (uri authorization : String) (payload : List UInt8) :
    Except Failure PostRequest :=
  if uri.isEmpty then .error (.caused .uriEmpty)
  else
    match AuthHeader.parse authorization, timeoutSeconds u.timeoutMs with
    | .error cause, _ => .error (.caused cause)
    | .ok _, .error e => .error e
    | .ok auth, .ok timeout => .ok ⟨uri, payload, headers auth, timeout⟩

section Due

variable {u : HttpUploader} {uri authorization : String} {payload : List UInt8}

theorem due_error {e : Failure} (refused : due u uri authorization payload = .error e) :
    (uri = "" ∧ e = .caused .uriEmpty) ∨
    (uri ≠ "" ∧
      AuthHeader.parse authorization = .error (.authorizationFormat authorization.length) ∧
      e = .caused (.authorizationFormat authorization.length)) ∨
    (uri ≠ "" ∧ (∃ auth, AuthHeader.parse authorization = .ok auth) ∧
      timeoutSeconds u.timeoutMs = .error (.defect .timeoutTooLarge) ∧
      e = .defect .timeoutTooLarge) := by
  rw [due] at refused
  split at refused
  · rename_i empty
    cases refused
    exact Or.inl ⟨by simpa using empty, rfl⟩
  · rename_i addressed
    have addressed : uri ≠ "" := by simpa using addressed
    split at refused
    · rename_i parsed
      cases refused
      obtain rfl := parse_refused parsed
      exact Or.inr (Or.inl ⟨addressed, parsed, rfl⟩)
    · rename_i parsed timed
      cases refused
      obtain rfl := timeoutSeconds_refused timed
      exact Or.inr (Or.inr ⟨addressed, ⟨_, parsed⟩, timed, rfl⟩)
    · cases refused

theorem due_ok {request : PostRequest} (sent : due u uri authorization payload = .ok request) :
    uri ≠ "" ∧ ∃ auth timeout, AuthHeader.parse authorization = .ok auth ∧
      timeoutSeconds u.timeoutMs = .ok timeout ∧
      request = ⟨uri, payload, headers auth, timeout⟩ := by
  rw [due] at sent
  split at sent
  · cases sent
  · rename_i addressed
    have addressed : uri ≠ "" := by simpa using addressed
    split at sent
    · cases sent
    · cases sent
    · rename_i parsed timed
      cases sent
      exact ⟨addressed, _, _, parsed, timed, rfl⟩

theorem due_refused {e : Failure} (refused : due u uri authorization payload = .error e) :
    e.isClass .deliveryFailed = false := by
  rcases due_error refused with ⟨_, rfl⟩ | ⟨_, _, rfl⟩ | ⟨_, _, _, rfl⟩ <;> rfl

theorem deliver_refused {e : Failure} (refused : due u uri authorization payload = .error e)
    (s : σ) :
    run (deliver client uri authorization payload) (u, s) = ⟨.error e, [], (u, s)⟩ := by
  rw [deliver]
  rcases due_error refused with
    ⟨rfl, rfl⟩ | ⟨addressed, parsed, rfl⟩ | ⟨addressed, ⟨auth, parsed⟩, timed, rfl⟩
  · rfl
  · rw [if_neg (by simpa using addressed), parsed]
    rfl
  · rw [if_neg (by simpa using addressed), parsed, run_bind_ok (run_ofCause_ok _),
      run_bind_ok (run_get _)]
    dsimp only
    rw [timed]
    rfl

theorem deliver_sent {request : PostRequest} (sent : due u uri authorization payload = .ok request)
    (s : σ) :
    run (deliver client uri authorization payload) (u, s) =
      run (send client uri payload request) (u, s) := by
  obtain ⟨addressed, auth, timeout, parsed, timed, rfl⟩ := due_ok sent
  rw [deliver, if_neg (by simpa using addressed), parsed, run_bind_ok (run_ofCause_ok _),
    run_bind_ok (run_get _)]
  dsimp only
  rw [timed]
  rfl

end Due

/-- What a delivery tells once its request has been answered. A status may have too many digits for
    its error. -/
def told (uri : String) (bytes : Nat) : Except Failure Int → Except Failure Int
  | .ok status =>
    if isSuccess status then .ok status
    else if Numeral.isWritable status then .error (.caused (.httpStatus status uri bytes))
    else .error (.defect .numberTooLong)
  | .error e => .error (if e.isRequestFault then .caused (.noResponse e.message uri bytes) else e)

/-- A status that is no success is counted, whether or not it can be told. -/
theorem reject_run (uri : String) (bytes : Nat) {status : Int} (failure : isSuccess status = false)
    (u : HttpUploader) (s : σ) :
    run (do
      count (·.failure status)
      Act.logNumber .warning .uploader status s!"UPLOAD_HTTP_ERROR uri={uri} status={status}"
      (Act.failWith (.httpStatus status uri bytes) : Act (HttpUploader × σ) Int)) (u, s) =
        ⟨told uri bytes (.ok status), if Numeral.isWritable status then
          [.log ⟨.warning, Source.uploader.name,
            s!"UPLOAD_HTTP_ERROR uri={uri} status={status}"⟩] else [],
          ({ u with stats := u.stats.answered bytes (.ok status) }, s)⟩ := by
  have counted : run (count (·.failure status)) (u, s) =
      ⟨.ok (), [], ({ u with stats := u.stats.failure status }, s)⟩ := rfl
  rw [run_bind_ok counted, run_bind_ok (run_logNumber _ _ _ _), run_failWith, told,
    UploadStats.answered, failure, Failure.ofCause]
  cases writable : Numeral.isWritable status <;> simp [Cause.isWritable, writable]

theorem send_run (client : HttpClient σ) (uri : String) (payload : List UInt8)
    (request : PostRequest) (u : HttpUploader) (s : σ) :
    let answer := (client.post request s).answer
    ∃ notes, run (send client uri payload request) (u, s) = ⟨told uri payload.length answer, notes,
        ({ u with stats := u.stats.answered payload.length answer },
          (client.post request s).world)⟩ ∧ printed notes = [] := by
  intro answer
  have sent : run (((client.post request).act.within Focus.snd) : Act (HttpUploader × σ) Int)
      (u, s) = ⟨answer, if (client.post request s).stops then [.stopRequest] else [],
        (u, (client.post request s).world)⟩ := rfl
  rw [send, run_bind, run_tryCatch, sent]
  cases answer with
  | ok status =>
      cases success : isSuccess status with
      | true =>
          simp only [told, UploadStats.answered, success]
          refine ⟨_, rfl, ?_⟩
          rw [printed_append, printed_stops]
          rfl
      | false =>
          dsimp only
          rw [success, if_neg Bool.false_ne_true, reject_run uri payload.length success]
          refine ⟨_, rfl, ?_⟩
          rw [printed_append, printed_stops]
          split <;> rfl
  | error e =>
      cases network : e.isRequestFault <;> simp only [told, UploadStats.answered, network]
      all_goals
        refine ⟨_, rfl, ?_⟩
        rw [printed_append, printed_stops]
        rfl

theorem deliver_delivered (client : HttpClient σ) (uri authorization : String)
    (payload : List UInt8) (u : HttpUploader) (t : Traced σ) :
    ∃ answer notes w, run (deliver client.traced uri authorization payload) (u, t) =
        ⟨answer, notes, w⟩ ∧
      Delivered client payload u t answer w ∧ printed notes = [] := by
  cases sent : due u uri authorization payload with
  | error e => exact ⟨_, _, _, deliver_refused sent t, .refused (due_refused sent), rfl⟩
  | ok request =>
      obtain ⟨notes, ran, silent⟩ := send_run client.traced uri payload request u t
      obtain ⟨_, auth, timeout, _, _, rfl⟩ := due_ok sent
      rw [deliver_sent sent, ran]
      refine ⟨_, notes, _, rfl, ?_, silent⟩
      cases answered : (client.post ⟨uri, payload, headers auth, timeout⟩ t.world).answer with
      | ok status =>
          cases success : isSuccess status with
          | true =>
              simpa [HttpClient.traced, Call.asHttp, answered, told, UploadStats.answered, success]
                using Delivered.uploaded rfl answered success
          | false =>
              cases writable : Numeral.isWritable status
              · simpa [HttpClient.traced, Call.asHttp, answered, told, UploadStats.answered,
                  success, writable] using Delivered.untold rfl answered success writable
              · simpa [HttpClient.traced, Call.asHttp, answered, told, UploadStats.answered,
                  success, writable] using Delivered.rejected uri rfl answered success writable
      | error e =>
          cases network : e.isRequestFault
          · simpa [HttpClient.traced, Call.asHttp, answered, told, UploadStats.answered, network]
              using Delivered.broken rfl answered network
          · simpa [HttpClient.traced, Call.asHttp, answered, told, UploadStats.answered, network]
              using Delivered.unanswered e.message uri rfl answered network

end HttpUploader

end ChunkRelay
