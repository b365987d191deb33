import ChunkRelay.Proofs.Upload.Http
import Mathlib.Algebra.Ring.Int.Defs
import Mathlib.Algebra.Ring.Nat

/-! # The accounts of an uploader

What an uploader has counted is what became of its requests since its counts were last reset,
whatever else was done with it in between. A delivery makes one request or none. It makes none for
an empty address, a malformed authorization, or a timeout that no double can hold. A request that is
answered with a status too long to be told is counted like any other that has failed.
-/

namespace ChunkRelay

namespace HttpCall

/-- The status that the call is counted with, which is zero where no response came. -/
def status? : HttpCall → Option Int
  | post _ (.ok status) => some status
  | post _ (.error e) => if e.isRequestFault then some 0 else none
  | close _ => none

def isFailed : HttpCall → Bool
  | post _ (.ok status) => !HttpUploader.isSuccess status
  | post _ (.error e) => e.isRequestFault
  | close _ => false

end HttpCall

/-- Counts that are those of the given calls. -/
structure Tallied (calls : List HttpCall) (stats : UploadStats) : Prop where
  chunks : stats.chunksUploaded = (calls.filterMap HttpCall.uploaded?).length
  bytes : stats.bytesUploaded = ((calls.filterMap HttpCall.uploaded?).map List.length).sum
  failures : stats.uploadFailures = calls.countP HttpCall.isFailed
  lastStatus : stats.lastStatus = (calls.filterMap HttpCall.status?).getLast?.getD 0

theorem Tallied.post {calls : List HttpCall} {stats : UploadStats} (tallied : Tallied calls stats)
    (request : PostRequest) (answer : Except Failure Int) :
    Tallied (calls ++ [.post request answer]) (stats.answered request.body.length answer) := by
  obtain ⟨chunks, bytes, failures, lastStatus⟩ := tallied
  cases answer with
  | ok status =>
      cases success : HttpUploader.isSuccess status <;>
        constructor <;>
        simp [UploadStats.answered, UploadStats.success, UploadStats.failure,
          HttpCall.uploaded?, HttpCall.isFailed, HttpCall.status?, *]
  | error e =>
      have nothing : (HttpCall.post request (.error e)).uploaded? = none := rfl
      cases network : e.isRequestFault <;>
        constructor <;>
        simp [UploadStats.answered, UploadStats.failure, HttpCall.isFailed, HttpCall.status?, *]

namespace HttpUploader

open Act

variable {σ : Type} {client : HttpClient σ}

/-- What can be done with an uploader. -/
inductive Move where
  | deliver (uri authorization : String) (payload : List UInt8)
  | readStats
  | setTimeout (timeoutMs : Int)
  | setVerbose (verbose : Bool)
  | resetStats

def Move.act (client : HttpClient σ) : Move → Act (HttpUploader × Traced σ) Unit
  | deliver uri authorization payload =>
    discard (HttpUploader.deliver client.traced uri authorization payload)
  | readStats => discard do pure (← get).1.stats
  | setTimeout timeoutMs => do
    let u ← Act.ofExcept ((← get).1.setTimeout timeoutMs)
    modify fun v => (u, v.2)
  | setVerbose verbose => modify fun v => (v.1.setVerbose verbose, v.2)
  | resetStats => modify fun v => (v.1.resetStats, v.2)

/-- What has become of an uploader after the given moves. -/
def after (client : HttpClient σ) (v : HttpUploader × Traced σ) (moves : List Move) :
    HttpUploader × Traced σ :=
  moves.foldl (fun v move => (run (move.act client) v).world) v

/-! ## One delivery -/

/-- How a delivery goes. -/
inductive Handled (client : HttpClient σ) (uri authorization : String) (payload : List UInt8)
    (u : HttpUploader) (t : Traced σ) : Except Failure Int → HttpUploader × Traced σ → Prop where
  | unaddressed (empty : uri = "") :
      Handled client uri authorization payload u t (.error (.caused .uriEmpty)) (u, t)
  | unauthorized (addressed : uri ≠ "") (malformed : AuthHeader.parse authorization =
        .error (.authorizationFormat authorization.length)) :
      Handled client uri authorization payload u t
        (.error (.caused (.authorizationFormat authorization.length))) (u, t)
  | overlong {auth : AuthHeader} (addressed : uri ≠ "")
      (parsed : AuthHeader.parse authorization = .ok auth)
      (beyond : timeoutSeconds u.timeoutMs = .error (.defect .timeoutTooLarge)) :
      Handled client uri authorization payload u t (.error (.defect .timeoutTooLarge)) (u, t)
  | posted {auth : AuthHeader} {timeout : Binary64} {answer : Except Failure Int} {stops : Bool}
      {s : σ} (addressed : uri ≠ "") (parsed : AuthHeader.parse authorization = .ok auth)
      (timed : timeoutSeconds u.timeoutMs = .ok timeout)
      (sent : client.post ⟨uri, payload, headers auth, timeout⟩ t.world = ⟨answer, stops, s⟩) :
      Handled client uri authorization payload u t (told uri payload.length answer)
        ({ u with stats := u.stats.answered payload.length answer },
          { t with
            world := s
            http := t.http ++ [.post ⟨uri, payload, headers auth, timeout⟩ answer] })

theorem deliver_handled (client : HttpClient σ) (uri authorization : String)
    (payload : List UInt8) (u : HttpUploader) (t : Traced σ) :
    ∃ answer notes v, run (deliver client.traced uri authorization payload) (u, t) =
      ⟨answer, notes, v⟩ ∧ Handled client uri authorization payload u t answer v := by
  cases request : due u uri authorization payload with
  | error e =>
      refine ⟨_, _, _, deliver_refused request t, ?_⟩
      rcases due_error request with
        ⟨empty, rfl⟩ | ⟨addressed, malformed, rfl⟩ | ⟨addressed, ⟨auth, parsed⟩, beyond, rfl⟩
      · exact .unaddressed empty
      · exact .unauthorized addressed malformed
      · exact .overlong addressed parsed beyond
  | ok sent =>
      obtain ⟨addressed, auth, timeout, parsed, timed, rfl⟩ := due_ok request
      obtain ⟨notes, ran, _⟩ :=
        send_run client.traced uri payload ⟨uri, payload, headers auth, timeout⟩ u t
      exact ⟨_, notes, _, (deliver_sent request t).trans ran, .posted addressed parsed timed rfl⟩

/-! ## Runs -/

/-- Whatever was requested after `base` has been counted, and nothing else. -/
def Accounted (base : List HttpCall) (v : HttpUploader × Traced σ) : Prop :=
  ∃ calls, v.2.http = base ++ calls ∧ Tallied calls v.1.stats

theorem deliver_accounted {base : List HttpCall} {v : HttpUploader × Traced σ}
    (accounted : Accounted base v) (uri authorization : String) (payload : List UInt8) :
    Accounted base (run (deliver client.traced uri authorization payload) v).world := by
  obtain ⟨u, t⟩ := v
  obtain ⟨answer, notes, v, ran, handled⟩ := deliver_handled client uri authorization payload u t
  rw [ran]
  cases handled with
  | unaddressed | unauthorized | overlong => exact accounted
  | @posted auth timeout answer stops s addressed parsed timed sent =>
      obtain ⟨calls, grown, tallied⟩ := accounted
      refine ⟨calls ++ [.post ⟨uri, payload, headers auth, timeout⟩ answer], ?_, tallied.post _ _⟩
      rw [← List.append_assoc, ← grown]

theorem setTimeout_run (timeoutMs : Int) (u : HttpUploader) (t : Traced σ) :
    (run ((Move.setTimeout timeoutMs).act client) (u, t)).world =
      ({ u with timeoutMs := if 0 < timeoutMs then timeoutMs else u.timeoutMs }, t) := by
  rw [Move.act, run_bind_ok (run_get _)]
  dsimp only
  by_cases positive : 0 < timeoutMs
  · rw [HttpUploader.setTimeout, if_neg (by omega), if_pos positive, run_bind_ok (run_ofExcept _)]
    rfl
  · rw [HttpUploader.setTimeout, if_pos (by omega), if_neg positive]
    rfl

theorem Move.accounted {base : List HttpCall} {v : HttpUploader × Traced σ}
    (accounted : Accounted base v) {move : Move} (counts : move ≠ .resetStats) :
    Accounted base (run (move.act client) v).world := by
  obtain ⟨u, t⟩ := v
  cases move with
  | deliver uri authorization payload =>
      rw [act, run_discard]
      exact deliver_accounted accounted uri authorization payload
  | readStats => exact accounted
  | setTimeout timeoutMs =>
      rw [setTimeout_run]
      exact accounted
  | setVerbose verbose => exact accounted
  | resetStats => exact absurd rfl counts

theorem after_accounted {base : List HttpCall} {v : HttpUploader × Traced σ}
    (accounted : Accounted base v) {moves : List Move} (unreset : .resetStats ∉ moves) :
    Accounted base (after client v moves) := by
  induction moves generalizing v with
  | nil => exact accounted
  | cons move moves ih =>
      simp only [List.mem_cons, not_or] at unreset
      exact ih (Move.accounted accounted (Ne.symm unreset.1)) unreset.2

/-- The timeout that a move sets. -/
def Move.timeout? : Move → Option Int
  | setTimeout timeoutMs => if 0 < timeoutMs then some timeoutMs else none
  | _ => none

theorem Move.timeout (move : Move) (v : HttpUploader × Traced σ) :
    (run (move.act client) v).world.1.timeoutMs = move.timeout?.getD v.1.timeoutMs := by
  obtain ⟨u, t⟩ := v
  cases move with
  | deliver uri authorization payload =>
      obtain ⟨answer, notes, v, ran, handled⟩ :=
        deliver_handled client uri authorization payload u t
      rw [act, run_discard, ran]
      cases handled <;> rfl
  | setTimeout timeoutMs =>
      rw [setTimeout_run, timeout?]
      split <;> rfl
  | readStats | setVerbose | resetStats => rfl

theorem after_timeout (v : HttpUploader × Traced σ) (moves : List Move) :
    (after client v moves).1.timeoutMs =
      (moves.filterMap Move.timeout?).getLast?.getD v.1.timeoutMs := by
  induction moves generalizing v with
  | nil => rfl
  | cons move moves ih =>
      have started : after client v (move :: moves) =
        after client (run (move.act client) v).world moves := rfl
      rw [started, ih, move.timeout v]
      cases set : move.timeout? <;> simp [set, List.getLast?_cons]

/-- Since it was last reset, an uploader has counted each of its requests by what became of it. Each
    delivery adds one request or none, and tells what became of it unless the status has too many
    digits to be told. A reset of a new uploader changes nothing. -/
theorem after_tallied (client : HttpClient σ) (timeoutMs : Int) (verbose ownsClient : Bool)
    (t : Traced σ) (earlier later : List Move) (unreset : .resetStats ∉ later) :
    let start := (HttpUploader.new timeoutMs verbose ownsClient, t)
    let before := after client start earlier
    let v := after client start (earlier ++ .resetStats :: later)
    (∃ calls, v.2.http = before.2.http ++ calls ∧ Tallied calls v.1.stats) ∧
    v.1.timeoutMs = ((earlier ++ later).filterMap Move.timeout?).getLast?.getD timeoutMs ∧
    ∀ uri authorization payload,
      let o := run (deliver client.traced uri authorization payload) v
      Handled client uri authorization payload v.1 v.2 o.answer o.world := by
  intro start before v
  refine ⟨?calls, ?timeout, ?delivery⟩
  case calls =>
    have reset : Accounted before.2.http (run (Move.resetStats.act client) before).world :=
      ⟨[], by simp [Move.act], rfl, rfl, rfl, rfl⟩
    have split : v = after client (run (Move.resetStats.act client) before).world later := by
      simp only [v, before, after, List.foldl_append, List.foldl_cons]
    rw [split]
    exact after_accounted reset unreset
  case timeout =>
    rw [after_timeout, List.filterMap_append, List.filterMap_append]
    rfl
  case delivery =>
    intro uri authorization payload o
    obtain ⟨answer, notes, w, ran, handled⟩ :=
      deliver_handled client uri authorization payload v.1 v.2
    have whole : o = ⟨answer, notes, w⟩ := ran
    rw [whole]
    exact handled

/-- A client whose requests are answered as listed, and after that not at all. -/
def answering : HttpClient (List (Except Failure Int)) where
  post _
    | [] => ⟨.error (.fault .requestConnection ""), false, []⟩
    | answer :: later => ⟨answer, false, later⟩
  close answers := ⟨.ok (), false, answers⟩

theorem after_tallied_mixed :
    let t := Traced.new [.ok 202, .ok 200, .ok 299, .ok 300, .ok 199, .error (.fault .system "")]
    let earlier := [Move.deliver "u" "k:v" [1]]
    let later := [Move.deliver "" "k:v" [1], .deliver "u" "kv" [1], .setTimeout 5, .setTimeout 0,
      .deliver "u" "k:v" [1, 2], .deliver "u" "k:v" [3], .deliver "u" "k:v" [4],
      .deliver "u" "k:v" [5], .deliver "u" "k:v" [6], .deliver "u" "k:v" [7]]
    let before := after answering (.new 30000 false true, t) earlier
    let v := after answering (.new 30000 false true, t) (earlier ++ .resetStats :: later)
    .resetStats ∉ later ∧
      (∃ calls, v.2.http = before.2.http ++ calls ∧ Tallied calls v.1.stats) ∧
      v.1.timeoutMs = 5 ∧ before.2.http.length = 1 ∧ v.2.http.length = 7 ∧
      v.1.stats = ⟨2, 3, 3, 0⟩ := by
  intro t earlier later
  have unreset : .resetStats ∉ later := by simp [later]
  have counted := after_tallied answering 30000 false true t earlier later unreset
  have latest : ((earlier ++ later).filterMap Move.timeout?).getLast?.getD 30000 = 5 := rfl
  exact ⟨unreset, counted.1, counted.2.1.trans latest, by decide +kernel, by decide +kernel,
    by decide +kernel⟩

/-- More milliseconds than any double holds, though not more seconds. -/
def overlongMs : Int := 10 ^ 200 * 10 ^ 109

/-- Such a timeout is set all the same, and from then on nothing is sent. -/
theorem deliver_overlong :
    let v := after answering (.new 30000 false true, Traced.new [.ok 202]) [.setTimeout overlongMs]
    let o := run (deliver answering.traced "u" "k:v" [0x61]) v
    (∃ auth, AuthHeader.parse "k:v" = .ok auth) ∧ v.1.timeoutMs = overlongMs ∧
      Binary64.ofInt (overlongMs / 1000) ≠ .infinite false ∧
      o.answer = .error (.defect .timeoutTooLarge) ∧ o.world.2.http = [] := by
  intro v o
  have parsed : AuthHeader.parse "k:v" = .ok ⟨"k", "v"⟩ := by cbv
  have set : v.1.timeoutMs = overlongMs := rfl
  have overlong : Binary64.ofInt overlongMs = .infinite false := by decide +kernel
  have beyond : timeoutSeconds v.1.timeoutMs = .error (.defect .timeoutTooLarge) := by
    rw [set, timeoutSeconds, overlong]
  have refused : due v.1 "u" "k:v" [0x61] = .error (.defect .timeoutTooLarge) := by
    rw [due, if_neg (by decide), parsed, beyond]
  have ran : o = ⟨.error (.defect .timeoutTooLarge), [], v⟩ := deliver_refused refused v.2
  refine ⟨⟨_, parsed⟩, set, by decide +kernel, ?_, ?_⟩
  · rw [ran]
  · rw [ran]
    rfl

end HttpUploader

end ChunkRelay
