import ChunkRelay.Report.Codec
import ChunkRelay.Proofs.Failure
import ChunkRelay.Proofs.Text.Utf8

/-! # Contents of reports read back

What each decoder accepts, and which bytes its encoder gives for what was decoded. The bytes need
not be the ones that were read: surplus bytes, reserved bits and broken characters are gone, and
what is left is read back as the same value.
-/

namespace ChunkRelay

theorem windowTo_whole {α : Type} {items : List α} {n : Nat} (fits : items.length ≤ n) :
    windowTo items n = items := by
  rw [windowTo, boundAt, if_neg (by omega)]
  exact List.take_of_length_le (by omega)

namespace Sequence

theorem wrap_val (n : Sequence) : wrap n.val = n := by
  apply Fin.ext
  simp only [wrap]
  omega

end Sequence

namespace Codec

/-! ## Features -/

theorem decodeFeatures_error {bytes : List UInt8} {e : Failure}
    (h : decodeFeatures bytes = .error e) :
    e = .caused (.featuresTooShort bytes.length) ∧ bytes.length < 4 := by
  rcases bytes with _ | ⟨a, _ | ⟨b, _ | ⟨c, _ | ⟨d, rest⟩⟩⟩⟩
  all_goals simp [decodeFeatures] at h
  all_goals exact ⟨h.symm, by simp⟩

theorem decodeFeatures_short {bytes : List UInt8} (short : bytes.length < 4) :
    decodeFeatures bytes = .error (.caused (.featuresTooShort bytes.length)) := by
  rcases bytes with _ | ⟨a, _ | ⟨b, _ | ⟨c, _ | ⟨d, rest⟩⟩⟩⟩
  all_goals first
    | rfl
    | (simp only [List.length_cons] at short; omega)

theorem encodeFeatures_decoded {bytes : List UInt8} {n : Nat} (h : decodeFeatures bytes = .ok n) :
    ∃ out, encodeFeatures n = .ok out ∧ out.length = 4 ∧ decodeFeatures out = .ok n := by
  rcases bytes with _ | ⟨a, _ | ⟨b, _ | ⟨c, _ | ⟨d, rest⟩⟩⟩⟩
  all_goals simp only [decodeFeatures, Except.ok.injEq, reduceCtorEq] at h
  have ha := a.toNat_lt
  have hb := b.toNat_lt
  have hc := c.toNat_lt
  have hd := d.toNat_lt
  refine ⟨[a, b, c, d], ?_, rfl, by rw [decodeFeatures, h]⟩
  rw [encodeFeatures, if_pos (by omega), Int.toNat_natCast]
  dsimp only
  rw [Utf8.ofNat_eq (b := a) (by omega), Utf8.ofNat_eq (b := b) (by omega),
    Utf8.ofNat_eq (b := c) (by omega), Utf8.ofNat_eq (b := d) (by omega)]

theorem decodeFeatures_encoded {value : Int} (inRange : 0 ≤ value ∧ value ≤ 0xFFFFFFFF) :
    ∃ out, encodeFeatures value = .ok out ∧ out.length = 4 ∧
      decodeFeatures out = .ok value.toNat := by
  refine ⟨_, by rw [encodeFeatures, if_pos inRange], rfl, ?_⟩
  simp only [decodeFeatures, Except.ok.injEq]
  rw [Utf8.toNat_ofNat (by omega), Utf8.toNat_ofNat (by omega), Utf8.toNat_ofNat (by omega),
    Utf8.toNat_ofNat (by omega)]
  omega

/-! ## Texts -/

/-- A text that a string report of at most `limit` bytes can carry as it is. -/
structure Carries (limit : Nat) (text : String) : Prop where
  fits : (Utf8.encode text).length < limit
  unended : '\x00' ∉ text.toList

section Text

variable {limit : Nat} {text : String}

theorem decodeText_eq (room : 0 < limit) (bytes : List UInt8) :
    decodeText bytes limit =
      .ok (Utf8.decodeDropping ((bytes.take (limit - 1)).takeWhile (· ≠ 0))) := by
  rw [decodeText, if_neg (by omega)]
  rw [show ((limit : Int) - 1).toNat = limit - 1 by omega]

theorem encodeText_eq (room : 0 < limit) (text : String) :
    encodeText text limit = .ok ((Utf8.encode text).take (limit - 1)) := by
  rw [encodeText, if_neg (by omega)]
  rw [show ((limit : Int) - 1).toNat = limit - 1 by omega]

theorem zero_not_mem_untilZero (bytes : List UInt8) : 0 ∉ bytes.takeWhile (· ≠ 0) := by
  intro h
  simpa using List.mem_takeWhile_imp h

theorem decodeText_carried {bytes : List UInt8} (room : 0 < limit)
    (h : decodeText bytes limit = .ok text) : Carries limit text := by
  rw [decodeText_eq room] at h
  obtain rfl := Except.ok.inj h
  have kept := Utf8.encode_decodeDropping_sublist ((bytes.take (limit - 1)).takeWhile (· ≠ 0))
  constructor
  · calc
      (Utf8.encode _).length ≤ ((bytes.take (limit - 1)).takeWhile (· ≠ 0)).length := kept.length_le
      _ ≤ (bytes.take (limit - 1)).length := (List.takeWhile_sublist _).length_le
      _ ≤ limit - 1 := List.length_take_le _ _
      _ < limit := by omega
  · intro nul
    apply zero_not_mem_untilZero (bytes.take (limit - 1))
    apply kept.subset
    exact List.mem_flatMap.mpr ⟨_, nul, by rw [Utf8.encodeChar_zero]; simp⟩

theorem Carries.room (h : Carries limit text) : 0 < limit := by
  have := h.fits
  omega

theorem Carries.untilZero (h : Carries limit text) :
    text.toList.takeWhile (· ≠ '\x00') = text.toList := by
  rw [List.takeWhile_eq_self_iff]
  intro c member
  have other : c ≠ '\x00' := fun same => h.unended (same ▸ member)
  simpa using other

theorem encodeText_carried (h : Carries limit text) :
    encodeText text limit = .ok (Utf8.encode text) := by
  rw [encodeText_eq h.room, List.take_of_length_le (by have := h.fits; omega)]

theorem decodeText_encoded (h : Carries limit text) :
    decodeText (Utf8.encode text) limit = .ok text := by
  have noZero : (Utf8.encode text).takeWhile (· ≠ 0) = Utf8.encode text := by
    rw [Utf8.encode, Utf8.encodeChars_untilZero, h.untilZero]
  rw [decodeText_eq h.room, List.take_of_length_le (by have := h.fits; omega), noZero,
    Utf8.decodeDropping_encode]

/-- A text as it may be read off bytes that are kept: it ends nowhere early, some of the bytes write
    it, and of bytes that end inside a character nothing else is lost. -/
structure ReadOff (kept : List UInt8) (text : String) : Prop where
  unended : '\x00' ∉ text.toList
  within : (Utf8.encode text).Sublist kept
  whole : ∀ (written : String) (c : Char) (start : List UInt8), start <+: Utf8.encodeChar c →
    start.length < (Utf8.encodeChar c).length → kept = Utf8.encode written ++ start →
    text = written

theorem decodeText_small {limit : Int} (small : limit < 1) (bytes : List UInt8) :
    decodeText bytes limit = .error (.ofCause (.textLimitTooSmall limit)) := if_pos small

/-- Whatever the bytes and their encoding, a limit that leaves room for the terminator is enough for
    them to be read, up to the limit or the first zero byte. Any other limit is refused by an error,
    unless the limit is too long for the error's message. -/
theorem decodeText_bounded_faithful (bytes : List UInt8) (limit : Int) :
    (limit < 1 ∧ ∃ e, decodeText bytes limit = .error e ∧ e.Quoting limit .invalidArgument) ∨
      (1 ≤ limit ∧ ∃ text, decodeText bytes limit = .ok text ∧
        ReadOff ((bytes.take (limit - 1).toNat).takeWhile (· ≠ 0)) text ∧
        (Utf8.encode text).length ≤ min bytes.length (limit - 1).toNat) := by
  by_cases small : limit < 1
  · exact Or.inl ⟨small, _, decodeText_small small bytes,
      Failure.quoting_ofCause rfl⟩
  · obtain ⟨n, rfl⟩ := Int.eq_ofNat_of_zero_le (show 0 ≤ limit by omega)
    have room : 0 < n := by omega
    have decoded := decodeText_eq room bytes
    have within := Utf8.encode_decodeDropping_sublist ((bytes.take (n - 1)).takeWhile (· ≠ 0))
    rw [show ((n : Int) - 1).toNat = n - 1 by omega]
    refine Or.inr ⟨by omega, _, decoded, ⟨?_, within, ?_⟩, ?_⟩
    · exact (decodeText_carried room decoded).unended
    · intro written c start isStart proper kept
      rw [kept, Utf8.decodeDropping_encode_start written isStart proper]
    · calc
        (Utf8.encode _).length ≤ ((bytes.take (n - 1)).takeWhile (· ≠ 0)).length := within.length_le
        _ ≤ (bytes.take (n - 1)).length := (List.takeWhile_sublist _).length_le
        _ = min bytes.length (n - 1) := by rw [List.length_take, Nat.min_comm]

/-- A limit that is far below one is refused, but not by an error about the limit, because it has
    too many digits for the message. -/
theorem decodeText_unwritable :
    let limit : Int := -Numeral.leastUnwritable
    limit < 1 ∧ decodeText [] limit = .error (.defect .numberTooLong) ∧
      (Failure.defect .numberTooLong).errorClass? ≠ some .invalidArgument := by
  intro limit
  have small : limit < 1 := by
    have large := Numeral.leastUnwritable_large
    omega
  have tooLong : (Cause.textLimitTooSmall limit).isWritable = false :=
    (Numeral.isWritable_neg _).trans Numeral.isWritable_leastUnwritable
  refine ⟨small, ?_, nofun⟩
  rw [decodeText_small small, Failure.ofCause_unwritable tooLong]

end Text

/-! ## Stream control -/

theorem decodeControl_encoded (enable : Bool) :
    decodeControl (encodeControl enable) = .ok enable := by
  cases enable <;> rfl

theorem decodeControl_error {bytes : List UInt8} {e : Failure}
    (h : decodeControl bytes = .error e) :
    (e = .caused .controlEmpty ∧ bytes = []) ∨
    (∃ mode rest, e = .caused (.controlUnknown mode) ∧ bytes = mode :: rest ∧
      mode ≠ 0 ∧ mode ≠ 1) := by
  rcases bytes with _ | ⟨mode, rest⟩
  · left
    exact ⟨(Except.error.inj h).symm, rfl⟩
  · right
    simp only [decodeControl] at h
    split_ifs at h with on off
    exact ⟨mode, rest, (Except.error.inj h).symm, rfl, off, on⟩

/-! ## Stream data -/

theorem decodePacket_error {bytes : List UInt8} {e : Failure}
    (h : decodePacket bytes = .error e) : e = .caused .streamDataEmpty ∧ bytes = [] := by
  rcases bytes with _ | ⟨first, rest⟩
  · exact ⟨(Except.error.inj h).symm, rfl⟩
  · simp [decodePacket] at h

theorem sequenceBits_toNat (first : UInt8) : (first &&& 0x1F).toNat = first.toNat % 32 := by
  rw [UInt8.toNat_and]
  exact Nat.and_two_pow_sub_one_eq_mod first.toNat 5

/-- The fields that are read are within the limits of a packet, whatever the bytes. -/
theorem make_decoded (first : UInt8) (rest : List UInt8) :
    ∃ packet, StreamPacket.make (first &&& 0x1F).toNat (window (first :: rest) 1 64) = .ok packet ∧
      decodePacket (first :: rest) = .ok packet := by
  have shown : window (first :: rest) 1 64 = rest.take maxChunkLength := by
    rw [window, boundAt, boundAt, if_neg (by omega), if_neg (by omega)]
    rw [show min (Int.toNat 1) (first :: rest).length = 1 by simp]
    rw [← List.take_eq_take_min]
    rfl
  refine ⟨⟨Sequence.wrap first.toNat, rest.take maxChunkLength, List.length_take_le _ _⟩, ?_, rfl⟩
  have small : (0 : Int) ≤ ((first.toNat % 32 : Nat) : Int) ∧
      ((first.toNat % 32 : Nat) : Int) ≤ 31 := by omega
  rw [StreamPacket.make, sequenceBits_toNat, shown, dif_pos small,
    dif_pos (List.length_take_le _ _)]
  congr 2

theorem encodePacket_eq (packet : StreamPacket) :
    encodePacket packet.sequence.val packet.payload =
      .ok (UInt8.ofNat packet.sequence.val :: packet.payload) := by
  rw [encodePacket, if_neg (Nat.not_lt.mpr packet.payload_le), Sequence.wrap_val]

theorem decodePacket_encoded (packet : StreamPacket) :
    decodePacket (UInt8.ofNat packet.sequence.val :: packet.payload) = .ok packet := by
  obtain ⟨sequence, payload, payload_le⟩ := packet
  have number := Utf8.toNat_ofNat (show sequence.val < 0x100 by omega)
  simp only [decodePacket, number, Sequence.wrap_val, List.take_of_length_le payload_le]

end Codec

end ChunkRelay
