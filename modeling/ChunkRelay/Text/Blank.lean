/-! # Blank characters

The characters that count as white space around header names, header values and numerals, and
stripping them from both ends of a text.
-/

namespace ChunkRelay

/-- White space of any script: controls that separate, the spaces and the line and paragraph
separators. -/
def isBlank (c : Char) : Bool :=
  let v := c.toNat
  (0x09 ≤ v && v ≤ 0x0D) || (0x1C ≤ v && v ≤ 0x20) || v == 0x85 || v == 0xA0 || v == 0x1680
    || (0x2000 ≤ v && v ≤ 0x200A) || v == 0x2028 || v == 0x2029 || v == 0x202F || v == 0x205F
    || v == 0x3000

/-- The white space that a numeral of ASCII characters may carry at its ends. -/
def isAsciiBlank (c : Char) : Bool :=
  let v := c.toNat
  (0x09 ≤ v && v ≤ 0x0D) || v == 0x20

/-- Drop the characters of a class at both ends. -/
def stripWhere (p : Char → Bool) (text : List Char) : List Char :=
  (((text.dropWhile p).reverse).dropWhile p).reverse

def strip (text : List Char) : List Char := stripWhere isBlank text

end ChunkRelay
