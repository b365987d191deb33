import ChunkRelay.Proofs.Session.OverDevice

/-! # Configurations read back

A configuration that a device in memory holds is read back with its feature word as it is and its
texts cut: each ends before its first NUL and before the first character that does not fit into the
report as a whole. What has been read back once is read back unchanged from then on.
-/

namespace ChunkRelay

/-- The longest start of a text, up to its first NUL, with at most `n` bytes. -/
structure LongestStart (n : Nat) (text cut : String) : Prop where
  starts : cut.toList <+: text.toList.takeWhile (· ≠ '\x00')
  fits : (Utf8.encode cut).length ≤ n
  longest : ∀ start, start <+: text.toList.takeWhile (· ≠ '\x00') →
    (Utf8.encodeChars start).length ≤ n → start <+: cut.toList

namespace LongestStart

variable {n : Nat} {text cut : String}

theorem carried (h : LongestStart n text cut) : Codec.Carries (n + 1) cut := by
  refine ⟨Nat.lt_succ_of_le h.fits, ?_⟩
  intro nul
  simpa using List.mem_takeWhile_imp (h.starts.subset nul)

theorem unchanged (h : LongestStart n text cut) (carries : Codec.Carries (n + 1) text) :
    cut = text := by
  have starts := h.starts
  have longest := h.longest text.toList (by simp only [carries.untilZero, List.prefix_rfl])
    (Nat.le_of_lt_succ carries.fits)
  rw [carries.untilZero] at starts
  exact String.toList_inj.mp (starts.eq_of_length_le longest.length_le)

end LongestStart

namespace Codec

theorem decodeText_cut {limit : Nat} (room : 0 < limit) (text : String) :
    ∃ cut, decodeText ((Utf8.encode text).take (limit - 1)) limit = .ok cut ∧
      LongestStart (limit - 1) text cut := by
  refine ⟨_, decodeText_eq room _, ?_⟩
  have kept : (Utf8.decodeDropping ((((Utf8.encode text).take (limit - 1)).take
      (limit - 1)).takeWhile (· ≠ 0))).toList =
      Utf8.fitting (limit - 1) (text.toList.takeWhile (· ≠ '\x00')) := by
    rw [List.take_take, Nat.min_self, ← List.take_takeWhile, Utf8.encode,
      Utf8.encodeChars_untilZero, Utf8.decodeDropping_cut]
  constructor
  · rw [kept]
    exact Utf8.fitting_starts _ _
  · rw [Utf8.encode, kept]
    exact Utf8.fitting_fits _ _
  · intro start isStart fits
    rw [kept]
    exact Utf8.fitting_longest isStart fits

end Codec

namespace Session

open Act

variable {ω : Type} {s : Session ω} {w : ω} {part : Focus ω InMemoryDevice}

theorem deviceText_ok (id : ReportId) {report : Report} {text : String}
    (given : s.transport? = some (InMemoryDevice.transport.within part))
    (isOpen : (part.get w).isOpen = true)
    (held : InMemoryDevice.feature? (part.get w).config id.code = some report)
    (kind : report.id = id) (written : report.write = Codec.encodeText text id.limit) :
    ∃ cut, run (readText id) (s, w) = ⟨.ok cut, [], (s, w)⟩ ∧
      LongestStart (id.limit - 1) text cut := by
  rw [Codec.encodeText_eq id.limit_pos] at written
  obtain ⟨cut, decoded, longest⟩ := Codec.decodeText_cut id.limit_pos text
  have encoded : report.encode = .ok (id.code, (Utf8.encode text).take (id.limit - 1)) := by
    rw [Report.encode, written, kind]
    rfl
  have fits : ((Utf8.encode text).take (id.limit - 1)).length ≤ id.limit :=
    (List.length_take_le _ _).trans (Nat.sub_le _ _)
  exact ⟨cut, readText_ok given (deviceFeature_ok isOpen held encoded fits) decoded, longest⟩

/-- A configuration as reading it back leaves it. -/
structure ReadBack (held config : DeviceConfig) : Prop where
  features : config.features = held.features
  identifier : LongestStart 63 held.identifier config.identifier
  dataUri : LongestStart 127 held.dataUri config.dataUri
  authorization : LongestStart 127 held.authorization config.authorization

theorem readConfig_device (given : s.transport? = some (InMemoryDevice.transport.within part))
    (isOpen : (part.get w).isOpen = true)
    (inRange : 0 ≤ (part.get w).config.features ∧ (part.get w).config.features ≤ 0xFFFFFFFF) :
    ∃ config record, run readConfig (s, w) = ⟨.ok config, [.log record], (s, w)⟩ ∧
      ReadBack (part.get w).config config := by
  obtain ⟨bytes, encoded, length, decoded⟩ := Codec.decodeFeatures_encoded inRange
  have written : (Report.supportedFeatures (part.get w).config.features).encode =
      .ok (ReportId.supportedFeatures.code, bytes) := by
    rw [Report.encode, Report.write, encoded]
    rfl
  have word := readFeatures_ok given (deviceFeature_ok isOpen rfl written length.le) decoded
  obtain ⟨identifier, readIdentifier, cutIdentifier⟩ :=
    deviceText_ok .deviceIdentifier given isOpen rfl rfl rfl
  obtain ⟨uri, readUri, cutUri⟩ := deviceText_ok .dataUri given isOpen rfl rfl rfl
  obtain ⟨auth, readAuth, cutAuth⟩ := deviceText_ok .authorization given isOpen rfl rfl rfl
  obtain ⟨record, read⟩ := readConfig_ok word readIdentifier readUri readAuth
  exact ⟨_, record, read, Int.toNat_of_nonneg inRange.1, cutIdentifier, cutUri, cutAuth⟩

/-- Reading back succeeds whatever the texts, changes nothing on either side, and loses only what
    does not fit; so a second round loses nothing more. -/
theorem readConfig_longest_starts
    (given : s.transport? = some (InMemoryDevice.transport.within part))
    (isOpen : (part.get w).isOpen = true)
    (inRange : 0 ≤ (part.get w).config.features ∧ (part.get w).config.features ≤ 0xFFFFFFFF) :
    ∃ config record, run readConfig (s, w) = ⟨.ok config, [.log record], (s, w)⟩ ∧
      ReadBack (part.get w).config config ∧
      (Codec.Carries 64 (part.get w).config.identifier →
        config.identifier = (part.get w).config.identifier) ∧
      (Codec.Carries 128 (part.get w).config.dataUri →
        config.dataUri = (part.get w).config.dataUri) ∧
      (Codec.Carries 128 (part.get w).config.authorization →
        config.authorization = (part.get w).config.authorization) ∧
      ∀ v, (part.get v).isOpen = true → (part.get v).config = config →
        ∃ record, run readConfig (s, v) = ⟨.ok config, [.log record], (s, v)⟩ := by
  obtain ⟨config, record, read, back⟩ := readConfig_device given isOpen inRange
  refine ⟨config, record, read, back, back.identifier.unchanged, back.dataUri.unchanged,
    back.authorization.unchanged, ?_⟩
  intro v opened holds
  have again := readConfig_device given opened (by rw [holds, back.features]; exact inRange)
  rw [holds] at again
  obtain ⟨second, record, reread, twice⟩ := again
  have same : second = config := by
    obtain ⟨features, identifier, dataUri, authorization⟩ := second
    rw [DeviceConfig.mk.injEq]
    exact ⟨twice.features, twice.identifier.unchanged back.identifier.carried,
      twice.dataUri.unchanged back.dataUri.carried,
      twice.authorization.unchanged back.authorization.carried⟩
  exact ⟨record, same ▸ reread⟩

/-- An open device whose identifier is cut inside its last character and whose authorization goes on
    after a NUL. -/
def overfullDevice : InMemoryDevice :=
  { InMemoryDevice.new
      { features := 0xFFFFFFFF
        identifier := String.ofList (List.replicate 62 'a' ++ ['é'])
        dataUri := "https://example/data"
        authorization := "Name:value\x00rest" } with
    isOpen := true }

theorem readConfig_overfull :
    let part : Focus (InMemoryDevice × Unit) InMemoryDevice := Focus.fst
    let s := Session.new (some (InMemoryDevice.transport.within part)) none
    (0 ≤ overfullDevice.config.features ∧ overfullDevice.config.features ≤ 0xFFFFFFFF) ∧
    ∃ config record,
      run readConfig (s, (overfullDevice, ())) =
        ⟨.ok config, [.log record], (s, (overfullDevice, ()))⟩ ∧
      ReadBack overfullDevice.config config ∧
      config.dataUri = overfullDevice.config.dataUri := by
  have inRange : 0 ≤ overfullDevice.config.features ∧
      overfullDevice.config.features ≤ 0xFFFFFFFF := by decide
  have carries : Codec.Carries 128 overfullDevice.config.dataUri :=
    ⟨by decide, by decide⟩
  obtain ⟨config, record, read, back, _, uri, _⟩ :=
    readConfig_longest_starts (s := .new (some (InMemoryDevice.transport.within .fst)) none)
      (w := (overfullDevice, ())) rfl rfl inRange
  exact ⟨inRange, config, record, read, back, uri carries⟩

end Session

end ChunkRelay
