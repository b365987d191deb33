import ChunkRelay.Failure

/-! # Reading places in a YAML text

A cursor is a place in a text: what is still to be read, and where that stands. Lines count
because keys end with them, columns because they nest blocks.

The classes of characters that end words and lines are the same for all tokens. The end of the
text counts with them.
-/

namespace ChunkRelay.Yaml

/-- Why a text is no document: it breaks the rules of the format, or a scalar in it has no value. -/
inductive Problem where
  | malformed
  | unfit (defect : Defect)
  deriving Repr, DecidableEq

structure Cursor where
  rest : List Char
  /-- How many characters the whole text has. -/
  size : Nat
  /-- How many characters stand before. -/
  index : Nat
  line : Nat
  column : Nat
  deriving Repr, DecidableEq

/-- The character that may open a text and takes no column. -/
def byteOrderMark : Char := Char.ofNat 0xFEFF

/-- Characters that end a line. Carriage returns are read as line feeds before. -/
def isBreak (c : Char) : Bool :=
  c = '\n' || c.toNat = 0x85 || c.toNat = 0x2028 || c.toNat = 0x2029

def isSpaceOrTab (c : Char) : Bool := c = ' ' || c = '\t'

def endsLine : Option Char → Bool
  | none => true
  | some c => isBreak c

/-- Whether a word ends here, where tabs are not welcome. -/
def endsWord : Option Char → Bool
  | none => true
  | some c => c = ' ' || isBreak c

/-- Whether a word ends here, tabs included. -/
def endsWordOrTab : Option Char → Bool
  | none => true
  | some c => isSpaceOrTab c || isBreak c

namespace Cursor

def new (text : List Char) : Cursor := ⟨text, text.length, 0, 0, 0⟩

/-- The character at a distance from the place. -/
def peek (c : Cursor) (distance : Nat) : Option Char := c.rest[distance]?

def next? (c : Cursor) : Option Char := c.rest.head?

def startsWith (c : Cursor) (chars : List Char) : Bool := chars.isPrefixOf c.rest

def forward (c : Cursor) : Cursor :=
  match c.rest with
  | [] => c
  | ch :: rest =>
    if isBreak ch then { c with rest, index := c.index + 1, line := c.line + 1, column := 0 }
    else
      { c with
        rest
        index := c.index + 1
        column := if ch = byteOrderMark then c.column else c.column + 1 }

def skip (c : Cursor) : Nat → Cursor
  | 0 => c
  | count + 1 => c.forward.skip count

/-- The characters from here on that belong to a class. -/
def run (c : Cursor) (p : Char → Bool) : List Char := c.rest.takeWhile p

/-- The first place from here on whose character does not belong to a class. -/
def past (c : Cursor) (p : Char → Bool) : Cursor := c.skip (c.run p).length

/-- Whether a line starts here that separates documents. -/
def atSeparator (c : Cursor) : Bool :=
  (c.startsWith ['-', '-', '-'] || c.startsWith ['.', '.', '.']) && endsWordOrTab (c.peek 3)

/-- The place after spaces and a comment. -/
def pastComment (c : Cursor) : Cursor :=
  let c := c.past (· = ' ')
  if c.next? = some '#' then c.past (!isBreak ·) else c

end Cursor

/-- A reader of a part of the text. -/
abbrev Reader := StateT Cursor (Except Problem)

namespace Reader

def refuse {α : Type} : Reader α := throw .malformed

def require (condition : Bool) : Reader Unit := if condition then pure () else refuse

def many (p : Char → Bool) : Reader (List Char) := do
  let c ← get
  set (c.past p)
  pure (c.run p)

/-- Read the characters that belong to a class, of which there has to be one. -/
def oneOrMore (p : Char → Bool) : Reader (List Char) := do
  let chars ← many p
  require !chars.isEmpty
  pure chars

def skip (count : Nat) : Reader Unit := modify (·.skip count)

/-- More rounds than there are characters. -/
def rounds : Reader Nat := do pure ((← get).size + 1)

/-- Read a line break if there is one. The break that most texts use stands for those that are
only another way to write it. -/
def lineBreak : Reader (List Char) := do
  let c ← get
  match c.next? with
  | none => pure []
  | some ch =>
    if isBreak ch then do
      set c.forward
      pure [if ch.toNat = 0x85 then '\n' else ch]
    else pure []

/-- Skip what may stand at the end of a line: spaces, a comment and the line break. -/
def lineEnd : Reader Unit := do
  modify Cursor.pastComment
  require (endsLine (← get).next?)
  let _ ← lineBreak

end Reader

end ChunkRelay.Yaml
