import ChunkRelay.Proofs.Bridge.Course
import ChunkRelay.Proofs.Device.Connection
import ChunkRelay.Proofs.Session.Alike
import ChunkRelay.Proofs.Session.OverDevice

/-! # Devices behind the native library

A native library presents a device if its handle passes on what the device does, with the report id
in front of the bytes. A device that has nothing to send is presented by an empty answer. To a
session it makes no difference whether it is given such a device itself or a connection to it.
-/

namespace ChunkRelay

theorem windowTo_nat {α : Type} (items : List α) (n : Nat) : windowTo items n = items.take n := by
  rw [windowTo, boundAt, if_neg (by omega), Int.toNat_natCast, ← List.take_eq_take_min]

/-- The window that is left when the first item is taken off. -/
theorem window_tail {α : Type} (first : α) (items : List α) (n : Nat) :
    window (first :: items) 1 (1 + n) = windowTo items n := by
  have begins : boundAt (first :: items).length 1 = 1 := by
    rw [boundAt, if_neg (by omega), List.length_cons]
    omega
  have ends : boundAt (first :: items).length (1 + n) = boundAt items.length n + 1 := by
    rw [boundAt, boundAt, if_neg (by omega), if_neg (by omega), List.length_cons]
    omega
  rw [window, windowTo, begins, ends]
  rfl

/-- A part of a part. -/
def Focus.through {ω τ υ : Type} (outer : Focus ω τ) (inner : Focus τ υ) : Focus ω υ where
  get w := inner.get (outer.get w)
  set u w := outer.set (inner.set u (outer.get w)) w
  get_set u w := by rw [outer.get_set, inner.get_set]
  set_get w := by rw [inner.set_get, outer.set_get]
  set_set u u' w := by rw [outer.get_set, inner.set_set, outer.set_set]

namespace InMemoryDevice

open Act

variable {d d' : InMemoryDevice}

/-- A device that can answer every request of a session: it is open, its feature word fits into a
    report, and so do its chunks. -/
structure Ready (d : InMemoryDevice) : Prop where
  isOpen : d.isOpen = true
  inRange : 0 ≤ d.config.features ∧ d.config.features ≤ 0xFFFFFFFF
  sized : ∀ payload ∈ d.pending, IsChunk payload

namespace Ready

theorem readFeature (ready : Ready d) {id : ReportId} (kind : id.kind = .feature) :
    ∃ bytes, run (readFeature id.code id.limit) d = ⟨.ok bytes, [], d⟩ := by
  have text (id : ReportId) {report : Report} {value : String}
      (held : feature? d.config id.code = some report) (same : report.id = id)
      (written : report.write = Codec.encodeText value id.limit) :
      ∃ bytes, run (InMemoryDevice.readFeature id.code id.limit) d = ⟨.ok bytes, [], d⟩ := by
    rw [Codec.encodeText_eq id.limit_pos] at written
    have encoded : report.encode = .ok (id.code, (Utf8.encode value).take (id.limit - 1)) := by
      rw [Report.encode, written, same]
      rfl
    exact ⟨_, readFeature_run ready.isOpen held encoded
      ((List.length_take_le _ _).trans (Nat.sub_le _ _))⟩
  cases id with
  | supportedFeatures =>
      obtain ⟨bytes, encoded, length, _⟩ := Codec.decodeFeatures_encoded ready.inRange
      have written : (Report.supportedFeatures d.config.features).encode =
          .ok (ReportId.supportedFeatures.code, bytes) := by
        rw [Report.encode, Report.write, encoded]
        rfl
      exact ⟨bytes, readFeature_run ready.isOpen rfl written length.le⟩
  | deviceIdentifier => exact text .deviceIdentifier rfl rfl rfl
  | dataUri => exact text .dataUri rfl rfl rfl
  | authorization => exact text .authorization rfl rfl rfl
  | streamControl => cases kind
  | streamData => cases kind

theorem readInput (ready : Ready d) (timeoutMs : Int) :
    (∃ bytes d', run (readInput ReportId.streamData.limit timeoutMs) d =
        ⟨.ok (ReportId.streamData.code, bytes), [], d'⟩ ∧ Ready d') ∨ d.IsIdle := by
  cases streaming : d.streaming with
  | false => exact Or.inr (Or.inl streaming)
  | true =>
      rcases pending : d.pending with _ | ⟨payload, rest⟩
      · exact Or.inr (Or.inr pending)
      · have sized := ready.sized
        rw [pending, List.forall_mem_cons] at sized
        left
        exact ⟨_, _, readInput_sent ready.isOpen streaming pending sized.1.2
          (Nat.lt_succ_of_le sized.1.2) timeoutMs, ready.isOpen, ready.inRange, sized.2⟩

end Ready

end InMemoryDevice

/-- The handle of a native library, which works on some platform, stands for a device that is a part
    of this platform. It may answer a request with more bytes than were asked for. -/
structure NativeLibrary.Presents {τ : Type} (lib : NativeLibrary τ)
    (device : Focus τ InMemoryDevice) : Prop where
  feature : ∀ (id : Int) (limit : Nat) (t : τ) {bytes : List UInt8} {d : InMemoryDevice},
    Act.run (InMemoryDevice.readFeature id limit) (device.get t) = ⟨.ok bytes, [], d⟩ →
      ∃ whole, (lib.getFeature id (limit + 1) t).answer = .ok (UInt8.ofNat id.toNat :: whole) ∧
        windowTo whole limit = bytes ∧ device.get (lib.getFeature id (limit + 1) t).world = d
  output : ∀ (id : Int) (bytes : List UInt8) (t : τ) {count : Int} {d : InMemoryDevice},
    Act.run (InMemoryDevice.writeOutput id bytes) (device.get t) = ⟨.ok count, [], d⟩ →
      (lib.write (UInt8.ofNat id.toNat :: bytes) t).answer = .ok (count + 1) ∧
        device.get (lib.write (UInt8.ofNat id.toNat :: bytes) t).world = d
  input : ∀ (limit : Nat) (timeoutMs : Int) (t : τ) {id : Int} {bytes : List UInt8}
    {d : InMemoryDevice}, 0 < timeoutMs →
    Act.run (InMemoryDevice.readInput limit timeoutMs) (device.get t) = ⟨.ok (id, bytes), [], d⟩ →
      ∃ whole, (lib.read (limit + 1) (some timeoutMs) t).answer =
          .ok (UInt8.ofNat id.toNat :: whole) ∧
        windowTo whole limit = bytes ∧
        device.get (lib.read (limit + 1) (some timeoutMs) t).world = d
  silence : ∀ (limit : Nat) (timeoutMs : Int) (t : τ), 0 < timeoutMs →
    (device.get t).isOpen = true → (device.get t).IsIdle →
      (lib.read (limit + 1) (some timeoutMs) t).answer = .ok [] ∧
        device.get (lib.read (limit + 1) (some timeoutMs) t).world = device.get t

/-! ## A connection to the device -/

section Connected

open Act

variable {τ ρ : Type} {lib : NativeLibrary τ} {device : Focus τ InMemoryDevice}

/-- A device beside an open connection that lets all of the same device's reports through, each with
    the same world around it. -/
structure Shadows (device : Focus τ InMemoryDevice) (v : InMemoryDevice × ρ)
    (v' : (Connection × τ) × ρ) : Prop where
  device : device.get v'.1.2 = v.1
  ready : v.1.Ready
  isOpen : v'.1.1.isOpen = true
  unfiltered : v'.1.1.filter? = none
  around : v'.2 = v.2

theorem Shadows.change {v : InMemoryDevice × ρ} {v' : (Connection × τ) × ρ}
    (shadows : Shadows device v v') {d : InMemoryDevice} (ready : d.Ready) {t : τ}
    (same : device.get t = d) : Shadows device (d, v.2) ((v'.1.1, t), v'.2) :=
  ⟨same, ready, shadows.isOpen, shadows.unfiltered, shadows.around⟩

/-- Whether or not the timeout can be written, a connection says of a device that is silent what the
    device says itself. -/
theorem face_silence (timeoutMs : Int) :
    (Failure.ofCause (.nothingQueued timeoutMs)).face =
      (Failure.ofCause (.noReport timeoutMs)).face := by
  have same : (Cause.nothingQueued timeoutMs).isWritable =
      (Cause.noReport timeoutMs).isWritable := rfl
  rw [Failure.ofCause, Failure.ofCause, same]
  split <;> rfl

theorem NativeLibrary.Presents.alike (presents : lib.Presents device) :
    Transport.Alike (Shadows (ρ := ρ) device) (InMemoryDevice.transport.within .fst)
      ((Connection.transport lib).within .fst) where
  feature id kind := by
    intro ⟨d, r⟩ ⟨⟨c, t⟩, r'⟩ shadows
    obtain ⟨bytes, read⟩ := shadows.ready.readFeature kind
    have same : device.get t = d := shadows.device
    obtain ⟨whole, answered, cut, kept⟩ := presents.feature id.code id.limit t
      (by rw [same]; exact read)
    obtain ⟨notes, connected⟩ :=
      Connection.readFeature_ok shadows.isOpen shadows.unfiltered answered
    rw [window_tail, cut] at connected
    rw [Transport.within, Transport.within, run_within_of read, run_within_of connected]
    exact ⟨rfl, shadows.change shadows.ready kept⟩
  control enable := by
    intro ⟨d, r⟩ ⟨⟨c, t⟩, r'⟩ shadows
    have written := InMemoryDevice.writeControl_open shadows.ready.isOpen enable
    have same : device.get t = d := shadows.device
    obtain ⟨answered, kept⟩ := presents.output ReportId.streamControl.code
      (Codec.encodeControl enable) t (by rw [same]; exact written)
    obtain ⟨notes, connected⟩ := Connection.writeOutput_ok (by decide) shadows.isOpen
      shadows.unfiltered answered (by decide)
    rw [Transport.within, Transport.within, run_within_of written, run_within_of connected]
    refine ⟨rfl, shadows.change ?_ kept⟩
    exact ⟨shadows.ready.isOpen, shadows.ready.inRange, shadows.ready.sized⟩
  input timeoutMs positive := by
    intro ⟨d, r⟩ ⟨⟨c, t⟩, r'⟩ shadows
    have same : device.get t = d := shadows.device
    rcases shadows.ready.readInput timeoutMs with ⟨bytes, d', sent, ready⟩ | idle
    · obtain ⟨whole, answered, cut, kept⟩ := presents.input ReportId.streamData.limit timeoutMs t
        positive (by rw [same]; exact sent)
      obtain ⟨notes, connected⟩ :=
        Connection.readInput_answered positive shadows.isOpen shadows.unfiltered answered
      dsimp only at connected
      rw [window_tail, cut] at connected
      rw [Transport.within, Transport.within, run_within_of sent, run_within_of connected]
      exact ⟨rfl, shadows.change ready kept⟩
    · have silent := InMemoryDevice.readInput_idle shadows.ready.isOpen idle
        ReportId.streamData.limit timeoutMs
      rw [← same] at idle
      obtain ⟨answered, kept⟩ := presents.silence ReportId.streamData.limit timeoutMs t positive
        (by rw [same]; exact shadows.ready.isOpen) idle
      obtain ⟨notes, connected⟩ :=
        Connection.readInput_answered positive shadows.isOpen shadows.unfiltered answered
      rw [Transport.within, Transport.within, run_within_of silent, run_within_of connected]
      exact ⟨congrArg Except.error (face_silence timeoutMs),
        shadows.change shadows.ready (kept.trans same)⟩

theorem Uploader.alike (u : Uploader ρ) :
    Uploader.Alike (Shadows device) (u.within .snd) (u.within .snd) := by
  intro uri authorization payload ⟨d, r⟩ ⟨⟨c, t⟩, r'⟩ shadows
  obtain rfl : r' = r := shadows.around
  exact ⟨rfl, ⟨shadows.device, shadows.ready, shadows.isOpen, shadows.unfiltered, rfl⟩⟩

end Connected

/-! ## A library over nothing but the device -/

/-- What a call leaves behind that passes a request on to a device. Failures become faults. -/
def Outcome.asReply {ω α β : Type} (o : Outcome ω α) (pass : α → β) : Reply ω β :=
  ⟨(o.answer.map pass).mapError fun e => .fault .system e.message, false, o.world⟩

/-- A native library whose platform is a device. -/
def InMemoryDevice.native : NativeLibrary InMemoryDevice where
  openIds _ _ _ d := ⟨.ok (), false, { d with isOpen := true }⟩
  openPath _ d := ⟨.ok (), false, { d with isOpen := true }⟩
  close d := ⟨.ok (), false, { d with isOpen := false }⟩
  setNonblocking _ d := ⟨.ok (), false, d⟩
  read size timeoutMs? d :=
    if d.isOpen ∧ d.IsIdle then ⟨.ok [], false, d⟩
    else
      (Act.run (readInput (size - 1) (timeoutMs?.getD 0)) d).asReply fun (id, bytes) =>
        UInt8.ofNat id.toNat :: bytes
  write bytes d :=
    match bytes with
    | [] => ⟨.error (.fault .value "nothing to write"), false, d⟩
    | id :: rest => (Act.run (writeOutput id.toNat rest) d).asReply (· + 1)
  getFeature id size d :=
    (Act.run (readFeature id (size - 1)) d).asReply (UInt8.ofNat id.toNat :: ·)
  enumerate _ _ d := ⟨.ok [], false, d⟩

namespace InMemoryDevice

open Act

variable {d d' : InMemoryDevice} {limit : Nat} {bytes : List UInt8} {notes : List Note}

theorem readFeature_fits {id : Int}
    (read : run (readFeature id limit) d = ⟨.ok bytes, notes, d'⟩) : bytes.length ≤ limit := by
  cases isOpen : d.isOpen with
  | false =>
      rw [readFeature, run_bind_error (requireOpen_closed isOpen _)] at read
      cases read
  | true =>
      rw [readFeature, run_bind_ok (requireOpen_open isOpen _), run_bind_ok (run_get d)] at read
      cases held : feature? d.config id with
      | none =>
          rw [held] at read
          cases read
      | some report =>
          rw [held] at read
          dsimp only at read
          cases encoded : report.encode with
          | error cause =>
              rw [encoded] at read
              cases read
          | ok out =>
              rw [encoded] at read
              cases read
              rw [windowTo_nat]
              exact List.length_take_le _ _

theorem readInput_fits {id timeoutMs : Int}
    (read : run (readInput limit timeoutMs) d = ⟨.ok (id, bytes), notes, d'⟩) :
    bytes.length ≤ limit := by
  rcases readInput_cases d limit timeoutMs with
    ⟨payload, rest, isOpen, streaming, pending, fits⟩ | ⟨e, d', failed, _, _⟩
  · rw [readInput, run_bind_ok (requireOpen_open isOpen _), run_bind_ok (run_get d), streaming,
      pending] at read
    have encoded := Codec.encodePacket_eq ⟨d.next, payload, fits⟩
    dsimp only at encoded read
    rw [run_bind_ok (run_set _ _), encoded] at read
    cases read
    rw [windowTo_nat]
    exact List.length_take_le _ _
  · rw [failed] at read
    cases read

theorem writeOutput_code {id count : Int}
    (written : run (writeOutput id bytes) d = ⟨.ok count, notes, d'⟩) :
    id = ReportId.streamControl.code := by
  by_contra other
  cases isOpen : d.isOpen with
  | false =>
      rw [writeOutput, run_bind_error (requireOpen_closed isOpen _)] at written
      cases written
  | true =>
      rw [writeOutput, run_bind_ok (requireOpen_open isOpen _), if_pos other] at written
      cases written

theorem native_presents : native.Presents .whole where
  feature id limit d bytes d' read := by
    have answered : native.getFeature id (limit + 1) d =
        ⟨.ok (UInt8.ofNat id.toNat :: bytes), false, d'⟩ := by
      change (run (readFeature id (limit + 1 - 1)) d).asReply _ = _
      rw [Int.add_sub_cancel]
      change run (readFeature id limit) d = _ at read
      rw [read]
      rfl
    rw [answered]
    exact ⟨bytes, rfl, windowTo_whole (readFeature_fits read), rfl⟩
  output id bytes d count d' written := by
    obtain rfl := writeOutput_code written
    have answered : native.write (UInt8.ofNat ReportId.streamControl.code.toNat :: bytes) d =
        ⟨.ok (count + 1), false, d'⟩ := by
      change (run (writeOutput ReportId.streamControl.code bytes) d).asReply _ = _
      change run (writeOutput ReportId.streamControl.code bytes) d = _ at written
      rw [written]
      rfl
    rw [answered]
    exact ⟨rfl, rfl⟩
  input limit timeoutMs d id bytes d' _ read := by
    have answered : native.read (limit + 1) (some timeoutMs) d =
        ⟨.ok (UInt8.ofNat id.toNat :: bytes), false, d'⟩ := by
      change run (readInput limit timeoutMs) d = _ at read
      have sends : ¬(d.isOpen = true ∧ d.IsIdle) := by
        rintro ⟨isOpen, idle⟩
        rw [readInput_idle isOpen idle] at read
        cases read
      rw [native]
      dsimp only
      rw [if_neg sends, Int.add_sub_cancel, Option.getD_some, read]
      rfl
    rw [answered]
    exact ⟨bytes, rfl, windowTo_whole (readInput_fits read), rfl⟩
  silence limit timeoutMs d _ isOpen idle := by
    have answered : native.read (limit + 1) (some timeoutMs) d = ⟨.ok [], false, d⟩ :=
      if_pos ⟨isOpen, idle⟩
    rw [answered]
    exact ⟨rfl, rfl⟩

theorem native_read_foreign {size : Int} {timeoutMs? : Option Int} {e : Failure}
    (failed : (native.read size timeoutMs? d).answer = .error e) : e.isOperational = false := by
  rw [native] at failed
  dsimp only at failed
  split at failed
  · cases failed
  · rcases heard : run (readInput (size - 1) (timeoutMs?.getD 0)) d with
      ⟨e' | report, notes, d'⟩ <;> rw [heard] at failed
    · cases failed
      rfl
    · cases failed

end InMemoryDevice

/-- A platform without time, whose network takes whatever is sent. -/
def Platform.loopback : Platform InMemoryDevice where
  native := InMemoryDevice.native
  http := { post := fun _ d => ⟨.ok 200, false, d⟩, close := fun d => ⟨.ok (), false, d⟩ }
  clock := pure 0

end ChunkRelay
