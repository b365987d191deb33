import ChunkRelay.Text.Quoted

/-! # Raw texts

A surrogate pair writes a character as two numbers, and either of them alone is no character. An
escape in a settings file may write such a half nevertheless. A raw text holds code points of both
kinds. It can be shown and compared but not encoded, and two halves beside each other do not become
a character.
-/

namespace ChunkRelay

/-- A text that may hold halves of surrogate pairs. -/
structure RawText where
  codePoints : List Nat
  deriving Repr, DecidableEq

namespace RawText

def isHalf (v : Nat) : Bool := 0xD800 ≤ v && v < 0xE000

def ofChars (chars : List Char) : RawText := ⟨chars.map (·.toNat)⟩

def chars? (t : RawText) : Option (List Char) :=
  if t.codePoints.any isHalf then none else some (t.codePoints.map Char.ofNat)

def isText (t : RawText) (text : String) : Bool := t.codePoints = text.toList.map (·.toNat)

/-- The characters of a text, with a character that none of the rules for scalars knows in place of
every half. -/
def softened (t : RawText) : List Char :=
  t.codePoints.map fun v => Char.ofNat (if isHalf v then 0xFFFD else v)

/-- A text in quotes. Halves are escaped by their number. -/
def quoted (t : RawText) : String :=
  let quote := Quoted.quoteFor (t.codePoints.map Char.ofNat)
  String.ofList (quote :: t.codePoints.flatMap (fun v =>
    if isHalf v then Quoted.numbered v
    else Quoted.escape quote isPrintable (Char.ofNat v)) ++ [quote])

/-- Whether a path fails for a half rather than for a NUL character, of which it may have both. The
parts of a path are looked at one after the other, and in each of them halves come first. -/
def isRefusedForHalf (t : RawText) : Bool :=
  let tail := t.codePoints.dropWhile fun v => v ≠ 0 && !isHalf v
  (tail.takeWhile (· ≠ '/'.toNat)).any isHalf

/-- What is said about a text that cannot be encoded: the first run of halves in it. -/
def encodingRefusal (t : RawText) : String :=
  let start := (t.codePoints.takeWhile (!isHalf ·)).length
  let run := (t.codePoints.drop start).takeWhile isHalf
  let place :=
    if run.length = 1 then
      " '" ++ String.ofList (run.flatMap Quoted.numbered) ++ s!"' in position {start}"
    else s!"s in position {start}-{start + run.length - 1}"
  "'utf-8' codec can't encode character" ++ place ++ ": surrogates not allowed"

/-- The code points with pairs of halves put together. -/
def joinPairs : List Nat → List Nat
  | a :: b :: rest =>
    if 0xD800 ≤ a && a < 0xDC00 && 0xDC00 ≤ b && b < 0xE000 then
      ((a - 0xD800) * 0x400 + (b - 0xDC00) + 0x10000) :: joinPairs rest
    else a :: joinPairs (b :: rest)
  | rest => rest

/-- A text as it is passed on in sixteen-bit units: pairs of halves are characters there. -/
def joined (t : RawText) : String :=
  String.ofList (softened ⟨joinPairs t.codePoints⟩)

end RawText

end ChunkRelay
