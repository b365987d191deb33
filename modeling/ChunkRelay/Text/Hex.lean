/-! # Hexadecimal text of integers

Report ids, feature words and device ids are written in lower-case hexadecimal. The sign of a
negative number counts towards the requested width and stands before the filling zeros.
-/

namespace ChunkRelay.Hex

/-- `n` in hexadecimal, filled with zeros to `width` characters, a minus sign included. -/
def padded (width : Nat) (n : Int) : String :=
  let sign := if n < 0 then ['-'] else []
  let digits := Nat.toDigits 16 n.natAbs
  String.ofList (sign ++ List.replicate (width - sign.length - digits.length) '0' ++ digits)

/-- A report id as messages show it: the mark `0x` and at least two characters. -/
def reportId (id : Int) : String := "0x" ++ padded 2 id

/-- A 32-bit word as messages show it: the mark `0x` and at least eight characters. -/
def word (n : Int) : String := "0x" ++ padded 8 n

end ChunkRelay.Hex
