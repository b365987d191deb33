/-! # UTF-8

Encoding of texts and two tolerant decoders. Both cut the bytes into pieces, each one character
or one maximal invalid subpart: the longest start of a well-formed character that the bytes
carry on, or a single byte that starts none. One decoder drops the invalid pieces, the other
writes U+FFFD for each. A strict decoder accepts only bytes without invalid pieces.
-/

namespace ChunkRelay.Utf8

def encodeChar (c : Char) : List UInt8 :=
  let v := c.toNat
  if v < 0x80 then [UInt8.ofNat v]
  else if v < 0x800 then
    [UInt8.ofNat (0xC0 + v / 0x40), UInt8.ofNat (0x80 + v % 0x40)]
  else if v < 0x10000 then
    [UInt8.ofNat (0xE0 + v / 0x1000), UInt8.ofNat (0x80 + v / 0x40 % 0x40),
      UInt8.ofNat (0x80 + v % 0x40)]
  else
    [UInt8.ofNat (0xF0 + v / 0x40000), UInt8.ofNat (0x80 + v / 0x1000 % 0x40),
      UInt8.ofNat (0x80 + v / 0x40 % 0x40), UInt8.ofNat (0x80 + v % 0x40)]

def encodeChars (text : List Char) : List UInt8 := text.flatMap encodeChar

/-- The bytes of a text. -/
def encode (text : String) : List UInt8 := encodeChars text.toList

/-- What the first byte of a character announces: the bits it carries, the range of the second
byte, and how many bytes follow after that one. -/
structure Lead where
  bits : Nat
  low : Nat
  high : Nat
  more : Nat
  deriving Repr, DecidableEq

/-- The announcement of a first byte of two or more, or nothing where no character starts. The
narrowed second bytes keep out overlong forms, surrogates and values above U+10FFFF. -/
def lead? (b : Nat) : Option Lead :=
  if b < 0xC2 then none
  else if b < 0xE0 then some ⟨b - 0xC0, 0x80, 0xBF, 0⟩
  else if b = 0xE0 then some ⟨0, 0xA0, 0xBF, 1⟩
  else if b = 0xED then some ⟨0xD, 0x80, 0x9F, 1⟩
  else if b < 0xF0 then some ⟨b - 0xE0, 0x80, 0xBF, 1⟩
  else if b = 0xF0 then some ⟨0, 0x90, 0xBF, 2⟩
  else if b < 0xF4 then some ⟨b - 0xF0, 0x80, 0xBF, 2⟩
  else if b = 0xF4 then some ⟨4, 0x80, 0x8F, 2⟩
  else none

/-- Read `more` continuation bytes, the first of them between `low` and `high`. The answer is the
value where all are there, and how many were taken. -/
def tail (value low high more : Nat) : List UInt8 → Option Nat × Nat
  | [] => (none, 0)
  | b :: rest =>
    if low ≤ b.toNat ∧ b.toNat ≤ high then
      let value := value * 0x40 + (b.toNat - 0x80)
      match more with
      | 0 => (some value, 1)
      | more + 1 =>
        let (value?, taken) := tail value 0x80 0xBF more rest
        (value?, taken + 1)
    else (none, 0)

/-- The piece that starts with byte `b`: its character unless it is invalid, and the number of
bytes after `b` that belong to it. -/
def piece (b : UInt8) (rest : List UInt8) : Option Char × Nat :=
  if b.toNat < 0x80 then (some (Char.ofNat b.toNat), 0)
  else
    match lead? b.toNat with
    | none => (none, 0)
    | some l =>
      let (value?, taken) := tail l.bits l.low l.high l.more rest
      (value?.map Char.ofNat, taken)

def pieces : List UInt8 → List (Option Char)
  | [] => []
  | b :: rest => (piece b rest).1 :: pieces (rest.drop (piece b rest).2)
termination_by bytes => bytes.length
decreasing_by simp only [List.length_drop, List.length_cons]; omega

/-- The text of the valid pieces. -/
def decodeDropping (bytes : List UInt8) : String :=
  String.ofList ((pieces bytes).filterMap id)

/-- The text of all pieces, with U+FFFD for each invalid one. -/
def decodeReplacing (bytes : List UInt8) : String :=
  String.ofList ((pieces bytes).map (·.getD (Char.ofNat 0xFFFD)))

/-- The text of the bytes if all pieces are valid. -/
def decode? (bytes : List UInt8) : Option String :=
  ((pieces bytes).mapM id).map String.ofList

end ChunkRelay.Utf8
