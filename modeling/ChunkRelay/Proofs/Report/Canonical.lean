import ChunkRelay.Report.Table
import ChunkRelay.Proofs.Report.Codec

/-! # The report format

Every number and every byte string either stands for a report or is refused for one of two reasons:
the number is no report's id, or the bytes are too few or hold an unknown mode. A report that was
read has a canonical form of its own: it can be written within its limit, and what is written is
read as the same report.
-/

namespace ChunkRelay

theorem ok_of_map {f : α → β} {x : Except ε α} {b : β} (h : x.map f = .ok b) :
    ∃ a, x = .ok a ∧ f a = b := by
  cases x with
  | error e => cases h
  | ok a => exact ⟨a, rfl, Except.ok.inj h⟩

theorem ReportId.ofCode?_code (id : ReportId) : ReportId.ofCode? id.code = some id := by
  cases id <;> rfl

theorem ReportId.code_of_ofCode? {code : Int} {id : ReportId}
    (h : ReportId.ofCode? code = some id) : id.code = code := by
  simpa using List.find?_some h

theorem ReportId.code_injective {a b : ReportId} (h : a.code = b.code) : a = b := by
  have same := ReportId.ofCode?_code a
  rw [h, ReportId.ofCode?_code b] at same
  exact (Option.some.inj same).symm

theorem ReportId.limit_pos (id : ReportId) : 0 < id.limit := by
  cases id <;> decide

namespace Report

theorem decode_code (id : ReportId) (bytes : List UInt8) :
    decode id.code bytes = read id bytes := by
  rw [decode, ofId, ReportId.ofCode?_code]
  rfl

theorem decode_unknown {code : Int} (unknown : ReportId.ofCode? code = none) (bytes : List UInt8) :
    decode code bytes = .error (.caused (.unknownReport code)) := by
  rw [decode, ofId, unknown]
  rfl

theorem read_features (bytes : List UInt8) :
    read .supportedFeatures bytes =
      (Codec.decodeFeatures bytes).map fun n : Nat => supportedFeatures n := by
  rw [read]
  cases Codec.decodeFeatures bytes <;> rfl

/-- Bytes that hold no report of the kind that the number stands for. -/
def IsMalformed (code : Int) (bytes : List UInt8) : Prop :=
  (code = ReportId.supportedFeatures.code ∧ bytes.length < 4) ∨
  (code = ReportId.streamControl.code ∧
    (bytes = [] ∨ ∃ mode rest, bytes = mode :: rest ∧ mode ≠ 0 ∧ mode ≠ 1)) ∨
  (code = ReportId.streamData.code ∧ bytes = [])

theorem read_error {id : ReportId} {bytes : List UInt8} {e : Failure}
    (h : read id bytes = .error e) :
    e.errorClass? = some .malformedReport ∧ IsMalformed id.code bytes := by
  cases id with
  | supportedFeatures =>
      rw [read_features] at h
      cases found : Codec.decodeFeatures bytes with
      | ok n => simp [found, Except.map] at h
      | error e' =>
          obtain rfl : e' = e := by simpa [found, Except.map] using h
          obtain ⟨rfl, short⟩ := Codec.decodeFeatures_error found
          exact ⟨rfl, Or.inl ⟨rfl, short⟩⟩
  | deviceIdentifier | dataUri | authorization =>
      rw [read, Codec.decodeText_eq (ReportId.limit_pos _)] at h
      cases h
  | streamControl =>
      cases found : Codec.decodeControl bytes with
      | ok enabled => simp [read, found, Except.map] at h
      | error e' =>
          obtain rfl : e' = e := by simpa [read, found, Except.map] using h
          rcases Codec.decodeControl_error found with
            ⟨rfl, rfl⟩ | ⟨mode, rest, rfl, bytes_eq, other⟩
          · exact ⟨rfl, Or.inr (Or.inl ⟨rfl, Or.inl rfl⟩)⟩
          · exact ⟨rfl, Or.inr (Or.inl ⟨rfl, Or.inr ⟨mode, rest, bytes_eq, other⟩⟩)⟩
  | streamData =>
      cases found : Codec.decodePacket bytes with
      | ok packet => simp [read, found, Except.map] at h
      | error e' =>
          obtain rfl : e' = e := by simpa [read, found, Except.map] using h
          obtain ⟨rfl, rfl⟩ := Codec.decodePacket_error found
          exact ⟨rfl, Or.inr (Or.inr ⟨rfl, rfl⟩)⟩

theorem read_malformed {id : ReportId} {bytes : List UInt8} (h : IsMalformed id.code bytes) :
    ∃ e, read id bytes = .error e := by
  rcases h with ⟨kind, short⟩ | ⟨kind, rfl | ⟨mode, rest, rfl, off, on⟩⟩ | ⟨kind, rfl⟩
  · obtain rfl := ReportId.code_injective kind
    exact ⟨_, by rw [read, Codec.decodeFeatures_short short]; rfl⟩
  · obtain rfl := ReportId.code_injective kind
    exact ⟨_, rfl⟩
  · obtain rfl := ReportId.code_injective kind
    exact ⟨_, by rw [read, Codec.decodeControl, if_neg on, if_neg off]; rfl⟩
  · obtain rfl := ReportId.code_injective kind
    exact ⟨_, rfl⟩

/-- A text that was read from a string report is written in less than the report's limit. -/
theorem text_canonical {id : ReportId} {bytes : List UInt8} {text : String}
    (h : Codec.decodeText bytes id.limit = .ok text) :
    ∃ out, Codec.encodeText text id.limit = .ok out ∧ out.length ≤ id.limit ∧
      Codec.decodeText out id.limit = .ok text := by
  have carried := Codec.decodeText_carried (ReportId.limit_pos id) h
  exact ⟨_, Codec.encodeText_carried carried, carried.fits.le, Codec.decodeText_encoded carried⟩

theorem read_canonical {id : ReportId} {bytes : List UInt8} {r : Report}
    (h : read id bytes = .ok r) :
    r.id = id ∧ ∃ out, r.write = .ok out ∧ out.length ≤ id.limit ∧ read id out = .ok r := by
  cases id with
  | supportedFeatures =>
      rw [read_features] at h
      obtain ⟨n, found, rfl⟩ := ok_of_map h
      obtain ⟨out, encoded, length, again⟩ := Codec.encodeFeatures_decoded found
      exact ⟨rfl, out, encoded, length.le, by rw [read_features, again]; rfl⟩
  | deviceIdentifier | dataUri | authorization =>
      rw [read] at h
      obtain ⟨text, found, rfl⟩ := ok_of_map h
      obtain ⟨out, encoded, length, again⟩ := text_canonical found
      exact ⟨rfl, out, encoded, length, by rw [read, again]; rfl⟩
  | streamControl =>
      obtain ⟨enabled, found, rfl⟩ := ok_of_map h
      exact ⟨rfl, _, rfl, le_refl 1, by rw [read, Codec.decodeControl_encoded]; rfl⟩
  | streamData =>
      obtain ⟨packet, found, rfl⟩ := ok_of_map h
      refine ⟨rfl, _, Codec.encodePacket_eq packet, ?_, ?_⟩
      · exact Nat.succ_le_succ packet.payload_le
      · rw [read, Codec.decodePacket_encoded]
        rfl

/-! ## Reports of any number -/

variable {code : Int} {bytes : List UInt8}

/-- A number is the id of one kind of report, or of none. -/
theorem decode_cases (code : Int) (bytes : List UInt8) :
    (isKnown code = false ∧ decode code bytes = .error (.caused (.unknownReport code)) ∧
      ∀ id : ReportId, id.code ≠ code) ∨
    ∃ id : ReportId, id.code = code ∧ isKnown code = true ∧ decode code bytes = read id bytes := by
  cases found : ReportId.ofCode? code with
  | none =>
      refine Or.inl ⟨by rw [isKnown, found]; rfl, decode_unknown found bytes, ?_⟩
      rintro id rfl
      rw [ReportId.ofCode?_code] at found
      cases found
  | some id =>
      obtain rfl := ReportId.code_of_ofCode? found
      exact Or.inr ⟨id, rfl, by rw [isKnown, found]; rfl, decode_code id bytes⟩

theorem decode_error {e : Failure} (raised : decode code bytes = .error e) :
    (e.errorClass? = some .wrongReport ∧ isKnown code = false) ∨
    (e.errorClass? = some .malformedReport ∧ IsMalformed code bytes) := by
  rcases decode_cases code bytes with ⟨unknown, refused, _⟩ | ⟨id, rfl, _, decoded⟩
  · obtain rfl := Except.error.inj (refused.symm.trans raised)
    exact Or.inl ⟨rfl, unknown⟩
  · exact Or.inr (read_error (decoded.symm.trans raised))

theorem decode_malformed (malformed : IsMalformed code bytes) :
    ∃ e, decode code bytes = .error e ∧ e.errorClass? = some .malformedReport := by
  rcases decode_cases code bytes with ⟨_, _, other⟩ | ⟨id, rfl, _, decoded⟩
  · rcases malformed with ⟨kind, _⟩ | ⟨kind, _⟩ | ⟨kind, _⟩ <;> exact absurd kind.symm (other _)
  · obtain ⟨e, raised⟩ := read_malformed malformed
    exact ⟨e, decoded.trans raised, (read_error raised).1⟩

/-- The fields of a stream report always make a packet. -/
theorem decode_stream (first : UInt8) (rest : List UInt8) :
    ∃ packet, StreamPacket.make (first &&& 0x1F).toNat (window (first :: rest) 1 64) = .ok packet ∧
      decode ReportId.streamData.code (first :: rest) = .ok (.streamData packet) := by
  obtain ⟨packet, made, decoded⟩ := Codec.make_decoded first rest
  refine ⟨packet, made, ?_⟩
  rw [decode_code, read, decoded]
  rfl

theorem decode_canonical {r : Report} (decoded : decode code bytes = .ok r) :
    ∃ out, r.encode = .ok (code, out) ∧
      (∃ id, ofId code = .ok id ∧ out.length ≤ id.limit) ∧ decode code out = .ok r := by
  rcases decode_cases code bytes with ⟨_, refused, _⟩ | ⟨id, rfl, _, readAs⟩
  · cases refused.symm.trans decoded
  · obtain ⟨rfl, out, written, length, again⟩ := read_canonical (readAs.symm.trans decoded)
    refine ⟨out, by rw [encode, written]; rfl, ⟨r.id, ?_, length⟩, (decode_code _ _).trans again⟩
    rw [ofId, ReportId.ofCode?_code]

/-- Reading sorts all numbers and bytes into unknown ids, malformed bytes and reports. The fields of
    a stream report always make a packet, so nothing else can be wrong with one. -/
theorem decode_total_canonical (code : Int) (bytes : List UInt8) :
    ((∃ e, decode code bytes = .error e ∧ e.errorClass? = some .wrongReport) ↔
      isKnown code = false) ∧
    ((∃ e, decode code bytes = .error e ∧ e.errorClass? = some .malformedReport) ↔
      IsMalformed code bytes) ∧
    (∀ e, decode code bytes = .error e →
      e.errorClass? = some .wrongReport ∨ e.errorClass? = some .malformedReport) ∧
    (∀ first rest, bytes = first :: rest → ∃ packet,
      StreamPacket.make (first &&& 0x1F).toNat (window bytes 1 64) = .ok packet ∧
        (code = ReportId.streamData.code → decode code bytes = .ok (.streamData packet))) ∧
    ∀ r, decode code bytes = .ok r →
      ∃ out, r.encode = .ok (code, out) ∧
        (∃ id, ofId code = .ok id ∧ out.length ≤ id.limit) ∧ decode code out = .ok r := by
  refine ⟨⟨?_, ?_⟩, ⟨?_, decode_malformed⟩, ?_, ?_, fun _ => decode_canonical⟩
  · rintro ⟨e, raised, wrong⟩
    rcases decode_error raised with ⟨_, unknown⟩ | ⟨malformed, _⟩
    · exact unknown
    · cases wrong.symm.trans malformed
  · intro unknown
    rcases decode_cases code bytes with ⟨_, refused, _⟩ | ⟨id, _, known, _⟩
    · exact ⟨_, refused, rfl⟩
    · cases unknown.symm.trans known
  · rintro ⟨e, raised, malformed⟩
    rcases decode_error raised with ⟨wrong, _⟩ | ⟨_, bad⟩
    · cases malformed.symm.trans wrong
    · exact bad
  · intro e raised
    exact (decode_error raised).imp And.left And.left
  · rintro first rest rfl
    obtain ⟨packet, made, decoded⟩ := decode_stream first rest
    exact ⟨packet, made, by rintro rfl; exact decoded⟩

end Report

end ChunkRelay
