import ChunkRelay.Text.Hex
import ChunkRelay.Text.Printable

/-! # Quoted text

How messages show a text or a byte string unambiguously: between single quotes, or between double
quotes if it holds a single quote and no double one. The quote in use, the backslash and the
usual controls are escaped by name, everything else that does not print by its number.
-/

namespace ChunkRelay.Quoted

def quoteFor (text : List Char) : Char :=
  if text.contains '\x27' && !text.contains '\x22' then '\x22' else '\x27'

/-- A code point by its number, in the shortest of the three numbered forms. -/
def numbered (v : Nat) : List Char :=
  if v < 0x100 then '\\' :: 'x' :: (Hex.padded 2 v).toList
  else if v < 0x10000 then '\\' :: 'u' :: (Hex.padded 4 v).toList
  else '\\' :: 'U' :: (Hex.padded 8 v).toList

/-- One character between the quotes `quote`, given whether it prints. -/
def escape (quote : Char) (prints : Char → Bool) (c : Char) : List Char :=
  if c = quote || c = '\\' then ['\\', c]
  else if c = '\n' then ['\\', 'n']
  else if c = '\r' then ['\\', 'r']
  else if c = '\t' then ['\\', 't']
  else if prints c then [c]
  else numbered c.toNat

def text (s : String) : String :=
  let cs := s.toList
  let quote := quoteFor cs
  String.ofList (quote :: cs.flatMap (escape quote isPrintable) ++ [quote])

/-- A byte string in quotes, marked by a leading `b`. -/
def bytes (bs : List UInt8) : String :=
  let cs := bs.map fun b => Char.ofNat b.toNat
  let quote := quoteFor cs
  let prints := fun c : Char => isPrintable c && c.toNat < 0x80
  String.ofList ('b' :: quote :: cs.flatMap (escape quote prints) ++ [quote])

end ChunkRelay.Quoted
