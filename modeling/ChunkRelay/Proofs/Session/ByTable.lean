import ChunkRelay.Proofs.Report.Canonical
import ChunkRelay.Proofs.Session.Exchanges

/-! # Sessions and the table of reports

A session calls the decoders of its reports itself, each with a limit of its own. It understands
every answer of its transport as the table of reports does, down to the failure that it raises, and
what it writes is what the table makes of the report.
-/

namespace ChunkRelay

open Act

variable {ω α β : Type}

/-- What an answer to a feature read stands for by the table of reports. -/
def ReportId.tabled (id : ReportId) (answer : Except Failure (List UInt8)) :
    Except Failure Report :=
  answer.bind fun bytes => Report.decode id.code bytes

/-- Reports are read one after another, and the first answer that is a failure or stands for no
    report is the last one. -/
inductive ReadThrough : List ReportId → List (Except Failure (List UInt8)) →
    Except Failure (List Report) → Prop where
  | done : ReadThrough [] [] (.ok [])
  | stopped {id ids answer e} : id.tabled answer = .error e →
      ReadThrough (id :: ids) [answer] (.error e)
  | went_on {id ids answer report answers rest} : id.tabled answer = .ok report →
      ReadThrough ids answers rest → ReadThrough (id :: ids) (answer :: answers)
        (rest.map (report :: ·))

/-- A value that fits into the bytes of its report. -/
def Report.Fits (report : Report) : Prop :=
  match report with
  | supportedFeatures value => 0 ≤ value ∧ value ≤ 0xFFFFFFFF
  | deviceIdentifier text | dataUri text | authorization text =>
    Codec.Carries report.id.limit text
  | streamControl _ | streamData _ => True

theorem Report.read_fits {id : ReportId} {bytes : List UInt8} {report : Report}
    (h : read id bytes = .ok report) : report.Fits := by
  cases id with
  | supportedFeatures =>
      rw [read_features] at h
      obtain ⟨n, found, rfl⟩ := ok_of_map h
      obtain ⟨out, encoded, _⟩ := Codec.encodeFeatures_decoded found
      rw [Codec.encodeFeatures] at encoded
      split at encoded
      · simp only [Fits]
        omega
      · cases encoded
  | deviceIdentifier | dataUri | authorization =>
      rw [read] at h
      obtain ⟨text, found, rfl⟩ := ok_of_map h
      exact Codec.decodeText_carried (ReportId.limit_pos _) found
  | streamControl | streamData =>
      rw [read] at h
      obtain ⟨_, _, rfl⟩ := ok_of_map h
      trivial

theorem ReadThrough.fit {ids : List ReportId} {answers : List (Except Failure (List UInt8))}
    {reports : List Report} (through : ReadThrough ids answers (.ok reports)) :
    ∀ report ∈ reports, report.Fits := by
  generalize outcome : Except.ok reports = result at through
  induction through generalizing reports with
  | done =>
      cases outcome
      nofun
  | stopped => cases outcome
  | @went_on id ids answer report answers rest tabled _ ih =>
      obtain ⟨later, rfl, rfl⟩ := ok_of_map outcome.symm
      refine List.forall_mem_cons.mpr ⟨?_, ih rfl⟩
      cases answer with
      | error e => cases tabled
      | ok bytes =>
          simp only [ReportId.tabled, Except.bind, Report.decode_code] at tabled
          cases found : Report.read id bytes with
          | error e =>
              rw [found] at tabled
              cases tabled
          | ok report =>
              rw [found] at tabled
              cases tabled
              exact Report.read_fits found

/-- The reports that a configuration is made of. -/
def DeviceConfig.reports (config : DeviceConfig) : List Report :=
  [.supportedFeatures config.features, .deviceIdentifier config.identifier,
    .dataUri config.dataUri, .authorization config.authorization]

namespace Session

/-- The record of feature reads that were answered so. -/
def featureReads (ids : List ReportId) (answers : List (Except Failure (List UInt8))) :
    List Exchange :=
  List.zipWith (fun id => .feature id.code id.limit requestTimeoutMs) ids answers

/-- With the reports `before` read already, the action reads the reports `ids`. It leaves the
    session alone, exchanges nothing else, and its answer comes to all of the reports. -/
def Reads (s : Session (Recorded ω)) (before : List Report) (ids : List ReportId)
    (x : Act (Session (Recorded ω) × Recorded ω) α) (reports : α → List Report) : Prop :=
  ∀ r, ∃ answers result, ReadThrough ids answers result ∧
    (run x (s, r)).answer.map reports = result.map (before ++ ·) ∧
    (run x (s, r)).world.1 = s ∧
    (run x (s, r)).world.2.exchanges = r.exchanges ++ featureReads ids answers

namespace Reads

variable {s : Session (Recorded ω)} {before : List Report} {reports : β → List Report}

theorem nil {level : Level} {source : Source} {message : String} {b : β}
    (all : reports b = before) :
    Reads s before [] (do log level source message; pure b) reports := by
  intro r
  refine ⟨[], .ok [], .done, ?_⟩
  rw [run_bind_ok (run_log _ _ _)]
  simp [all, Except.map, featureReads]

theorem cons {id : ReportId} {ids : List ReportId}
    {x : Act (Session (Recorded ω) × Recorded ω) α} {report : α → Report}
    {f : α → Act (Session (Recorded ω) × Recorded ω) β}
    (first : ∀ r, ∃ answer, (run x (s, r)).answer.map report = id.tabled answer ∧
      (run x (s, r)).world.1 = s ∧
      (run x (s, r)).world.2.exchanges =
        r.exchanges ++ [.feature id.code id.limit requestTimeoutMs answer])
    (later : ∀ a, Reads s (before ++ [report a]) ids (f a) reports) :
    Reads s before (id :: ids) (x >>= f) reports := by
  intro r
  obtain ⟨answer, tabled, same, exchanges⟩ := first r
  rcases ran : run x (s, r) with ⟨e | a, notes, ⟨s', r'⟩⟩ <;> rw [ran] at tabled same exchanges
  · refine ⟨[answer], .error e, .stopped tabled.symm, ?_⟩
    rw [run_bind_error ran]
    exact ⟨rfl, same, by simpa [featureReads] using exchanges⟩
  · obtain rfl : s' = s := same
    obtain ⟨answers, result, through, answered, same', exchanges'⟩ := later a r'
    refine ⟨answer :: answers, result.map (report a :: ·), .went_on tabled.symm through, ?_⟩
    rw [run_bind_ok ran]
    refine ⟨?_, same', ?_⟩
    · rw [Outcome.after_answer, answered]
      cases result <;> simp [Except.map]
    · rw [Outcome.after_world, exchanges', exchanges]
      simp [featureReads]

end Reads

variable {t : Transport ω} {s : Session (Recorded ω)}

theorem readFeature_recorded (given : s.transport? = some t.recorded) (id : ReportId)
    (r : Recorded ω) :
    ∃ answer notes w, run (readFeature id) (s, r) = ⟨answer, notes, (s, ⟨w,
      r.exchanges ++ [.feature id.code id.limit requestTimeoutMs answer]⟩)⟩ := by
  rw [readFeature_run given]
  exact ⟨_, _, _, rfl⟩

/-- A feature read whose answer is decoded as the table has it. -/
theorem readFeature_tabled (given : s.transport? = some t.recorded) (id : ReportId)
    {decode : List UInt8 → Except Failure α} {report : α → Report}
    (decoded : ∀ bytes, Report.read id bytes = (decode bytes).map report) (r : Recorded ω) :
    let x := readFeature id >>= fun bytes => Act.ofExcept (decode bytes)
    ∃ answer, (run x (s, r)).answer.map report = id.tabled answer ∧
      (run x (s, r)).world.1 = s ∧
      (run x (s, r)).world.2.exchanges =
        r.exchanges ++ [.feature id.code id.limit requestTimeoutMs answer] := by
  intro x
  obtain ⟨answer, notes, w, read⟩ := readFeature_recorded given id r
  refine ⟨answer, ?_⟩
  cases answer with
  | error e =>
      rw [run_bind_error read]
      exact ⟨rfl, rfl, rfl⟩
  | ok bytes =>
      have tabled : id.tabled (.ok bytes) = (decode bytes).map report := by
        rw [ReportId.tabled, ← decoded, ← Report.decode_code]
        rfl
      rw [run_bind_ok read, tabled]
      cases decode bytes <;> exact ⟨rfl, rfl, rfl⟩

theorem readConfig_reads (given : s.transport? = some t.recorded) :
    Reads s [] [.supportedFeatures, .deviceIdentifier, .dataUri, .authorization] readConfig
      DeviceConfig.reports := by
  refine .cons (readFeature_tabled given _ Report.read_features) fun features => ?_
  refine .cons (readFeature_tabled given _ fun _ => rfl) fun identifier => ?_
  refine .cons (readFeature_tabled given _ fun _ => rfl) fun dataUri => ?_
  refine .cons (readFeature_tabled given _ fun _ => rfl) fun authorization => ?_
  exact .nil rfl

theorem handleInput_tabled (v : Session ω × ω) (bytes : List UInt8) :
    (run (handleInput ReportId.streamData.code bytes) v).answer.map (Report.streamData ·.packet) =
      Report.decode ReportId.streamData.code bytes := by
  obtain ⟨s, w⟩ := v
  rw [Report.decode_code, Report.read]
  cases decoded : Codec.decodePacket bytes with
  | ok packet =>
      obtain ⟨record, handled⟩ := handleInput_ok (s := s) (w := w) decoded
      rw [handled]
      rfl
  | error e =>
      have refused : accept ReportId.streamData.code bytes = .error e := by
        rw [accept, if_pos rfl, decoded]
      rw [handleInput_refused refused]
      rfl

theorem switch_exchanges (given : s.transport? = some t.recorded) (on : Bool) (r : Recorded ω) :
    ∃ answer, (run (if on then enable else disable) (s, r)).world.2.exchanges =
      r.exchanges ++ [.output ReportId.streamControl.code (Codec.encodeControl on)
        requestTimeoutMs answer] := by
  rcases written : run (t.recorded.writeOutput ReportId.streamControl.code
    (Codec.encodeControl on) requestTimeoutMs) r with ⟨answer, notes, r'⟩
  refine ⟨answer, ?_⟩
  have record : r'.exchanges = r.exchanges ++ [.output ReportId.streamControl.code
      (Codec.encodeControl on) requestTimeoutMs answer] := by
    cases written
    rfl
  cases answer with
  | error e =>
      have failed := writeControl_error given written
      cases on
      · simpa [disable_error failed] using record
      · simpa [enable_error failed] using record
  | ok count =>
      have done := writeControl_ok given written
      cases on
      · simpa [disable_ok done] using record
      · simpa [enable_ok done] using record

/-- Whatever its transport answers, a session reads a configuration, a packet and writes control
    reports as the table of reports has them. -/
theorem decodes_byTable (t : Transport ω) (s : Session (Recorded ω)) (r : Recorded ω) :
    let s := { s with transport? := some t.recorded }
    (let ids := [ReportId.supportedFeatures, .deviceIdentifier, .dataUri, .authorization]
      let o := run readConfig (s, r)
      ∃ answers, ReadThrough ids answers (o.answer.map DeviceConfig.reports) ∧
        o.world.1 = s ∧ o.world.2.exchanges = r.exchanges ++ featureReads ids answers ∧
        ∀ config, o.answer = .ok config → 0 ≤ config.features ∧ config.features ≤ 0xFFFFFFFF ∧
          Codec.Carries 64 config.identifier ∧ Codec.Carries 128 config.dataUri ∧
          Codec.Carries 128 config.authorization) ∧
    (∀ bytes, (run (handleInput ReportId.streamData.code bytes) (s, r)).answer.map
        (Report.streamData ·.packet) =
      Report.decode ReportId.streamData.code bytes) ∧
    ∀ on, ∃ id bytes answer, (Report.streamControl on).encode = .ok (id, bytes) ∧
      (run (if on then enable else disable) (s, r)).world.2.exchanges =
        r.exchanges ++ [.output id bytes requestTimeoutMs answer] := by
  intro s
  refine ⟨?config, handleInput_tabled _, ?control⟩
  case config =>
    obtain ⟨answers, result, through, answered, same, exchanges⟩ :=
      readConfig_reads (s := s) (t := t) rfl r
    have whole : result.map ([] ++ ·) = result := by cases result <;> rfl
    rw [whole] at answered
    refine ⟨answers, answered ▸ through, same, exchanges, ?_⟩
    intro config ok
    rw [← answered, ok] at through
    have fit := through.fit
    simp only [DeviceConfig.reports, List.forall_mem_cons, Report.Fits] at fit
    obtain ⟨features, identifier, dataUri, authorization, _⟩ := fit
    exact ⟨features.1, features.2, identifier, dataUri, authorization⟩
  case control =>
    intro on
    obtain ⟨answer, exchanged⟩ := switch_exchanges (s := s) (t := t) rfl on r
    exact ⟨_, _, answer, rfl, exchanged⟩

end Session

end ChunkRelay
