import ChunkRelay.Failure
import ChunkRelay.Report.Packet
import ChunkRelay.Text.Utf8
import ChunkRelay.Text.Window

/-! # Contents of reports

How each kind of report lays out its value in bytes. The report id is not part of the bytes.
Numbers are little-endian. Texts are UTF-8, cut to one byte less than the report's limit, and end
at the first zero byte; what the cut leaves of a character is dropped on reading.
-/

namespace ChunkRelay.Codec

/-- The feature word of a features report; bytes after the fourth do not count. -/
def decodeFeatures : List UInt8 → Except Failure Nat
  | a :: b :: c :: d :: _ =>
    .ok (a.toNat + b.toNat * 0x100 + c.toNat * 0x10000 + d.toNat * 0x1000000)
  | bytes => .error (.ofCause (.featuresTooShort bytes.length))

def encodeFeatures (value : Int) : Except Failure (List UInt8) :=
  if 0 ≤ value ∧ value ≤ 0xFFFFFFFF then
    let n := value.toNat
    .ok [UInt8.ofNat (n % 0x100), UInt8.ofNat (n / 0x100 % 0x100),
      UInt8.ofNat (n / 0x10000 % 0x100), UInt8.ofNat (n / 0x1000000)]
  else .error (.ofCause (.featuresOutOfRange value))

/-- The text of a string report of at most `limit` bytes, one of which is for its terminator. -/
def decodeText (bytes : List UInt8) (limit : Int) : Except Failure String :=
  if limit < 1 then .error (.ofCause (.textLimitTooSmall limit))
  else .ok (Utf8.decodeDropping ((bytes.take (limit - 1).toNat).takeWhile (· ≠ 0)))

/-- The bytes of a text in a string report of at most `limit` bytes. -/
def encodeText (text : String) (limit : Int) : Except Failure (List UInt8) :=
  if limit < 1 then .error (.ofCause (.textLimitTooSmall limit))
  else .ok ((Utf8.encode text).take (limit - 1).toNat)

def encodeControl (enable : Bool) : List UInt8 := [if enable then 1 else 0]

def decodeControl : List UInt8 → Except Failure Bool
  | [] => .error (.ofCause .controlEmpty)
  | mode :: _ =>
    if mode = 1 then .ok true
    else if mode = 0 then .ok false
    else .error (.ofCause (.controlUnknown mode))

/-- The packet of a stream report. The upper three bits of its first byte are reserved, and bytes
after the chunk's limit do not count. -/
def decodePacket : List UInt8 → Except Failure StreamPacket
  | [] => .error (.ofCause .streamDataEmpty)
  | first :: rest =>
    .ok ⟨Sequence.wrap first.toNat, rest.take maxChunkLength, List.length_take_le _ _⟩

/-- The stream report of a sequence number, counted modulo 32, and a chunk. -/
def encodePacket (sequence : Int) (payload : List UInt8) : Except Failure (List UInt8) :=
  if payload.length > maxChunkLength then .error (.ofCause (.chunkTooLong payload.length))
  else .ok (UInt8.ofNat (Sequence.wrap sequence).val :: payload)

end ChunkRelay.Codec
