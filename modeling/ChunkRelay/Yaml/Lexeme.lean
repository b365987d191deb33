import ChunkRelay.Text.RawText
import ChunkRelay.Text.Utf8
import ChunkRelay.Yaml.Cursor

/-! # The texts of tokens

Readers for what a single token holds: names, tags, directives and the texts of scalars in quotes,
without quotes and in blocks. A line break inside a scalar is folded: a single one counts as a
space, and of several the first is dropped.
-/

namespace ChunkRelay.Yaml

/-- Characters of the names of anchors, directives and tag handles. -/
def isNameChar (c : Char) : Bool := c.isAlphanum || c = '-' || c = '_'

def isAddressChar (c : Char) : Bool :=
  c.isAlphanum || "-;/?:@&=+$,_.!~*'()[]%".contains c

namespace Reader

def next? : Reader (Option Char) := do pure (← get).next?

def expect (c : Char) : Reader Unit := do
  require ((← next?) = some c)
  skip 1

def hexDigits (count : Nat) : Reader Nat := do
  let digits := (← get).rest.take count
  match digits.mapM (Numeral.digitOf? 16) with
  | some values =>
    require (values.length = count)
    skip count
    pure (values.foldl (fun n d => n * 16 + d) 0)
  | none => refuse

/-- The name of an anchor or an alias after its mark. -/
def anchorName : Reader String := do
  skip 1
  let name ← oneOrMore isNameChar
  let after ← next?
  require (endsWordOrTab after || (after.map fun c => "?:,]\x7d%@\x60".contains c).getD false)
  pure (String.ofList name)

/-! ## Tags and directives -/

/-- The bytes written as pairs of hexadecimal digits after percent signs. -/
def escapedBytes : Nat → Reader (List UInt8)
  | 0 => pure []
  | fuel + 1 => do
    if (← next?) = some '%' then
      skip 1
      let byte ← hexDigits 2
      pure (UInt8.ofNat byte :: (← escapedBytes fuel))
    else pure []

/-- The pieces of an address, escaped and not. -/
def addressPieces : Nat → Reader (List Char)
  | 0 => pure []
  | fuel + 1 => do
    let plain ← many fun c => isAddressChar c && c ≠ '%'
    if (← next?) = some '%' then
      match Utf8.decode? (← escapedBytes (← rounds)) with
      | some text => pure (plain ++ text.toList ++ (← addressPieces fuel))
      | none => refuse
    else pure plain

def address : Reader String := do
  let chars ← addressPieces (← rounds)
  require !chars.isEmpty
  pure (String.ofList chars)

/-- A handle: an exclamation mark alone, or a name between two of them. -/
def tagHandle : Reader String := do
  expect '!'
  if (← next?) = some ' ' then pure "!"
  else
    let name ← many isNameChar
    expect '!'
    pure (String.ofList ('!' :: name ++ ['!']))

/-- A tag: its handle, unless the address is given in full, and the rest of it. -/
def tag : Reader (Option String × String) := do
  let c ← get
  let result ←
    if c.peek 1 = some '<' then do
      skip 2
      let full ← address
      expect '>'
      pure (none, full)
    else if endsWordOrTab (c.peek 1) then do
      skip 1
      pure (none, "!")
    else if ((c.rest.drop 1).takeWhile fun ch => !endsWord (some ch)).contains '!' then do
      let handle ← tagHandle
      pure (some handle, ← address)
    else do
      skip 1
      pure (some "!", ← address)
  require (endsWord (← next?))
  pure result

def number : Reader Nat := do
  let digits ← oneOrMore Char.isDigit
  if Numeral.maxDigits < digits.length then throw (.unfit .scalarUnfit)
  pure (digits.foldl (fun n c => n * 10 + (c.toNat - '0'.toNat)) 0)

inductive Directive where
  | version (major : Nat)
  /-- A handle that stands for the start of an address. -/
  | handle (name start : String)
  | other
  deriving Repr, DecidableEq

/-- The end of a word, and then spaces. -/
def wordEnd : Reader Unit := do
  require (endsWord (← next?))
  modify (·.past (· = ' '))

/-- A directive, which takes a line of its own. -/
def directive : Reader Directive := do
  skip 1
  let name ← oneOrMore isNameChar
  wordEnd
  let result ←
    match String.ofList name with
    | "YAML" => do
      let major ← number
      expect '.'
      let _ ← number
      wordEnd
      pure (.version major)
    | "TAG" => do
      let handle ← tagHandle
      require ((← next?) = some ' ')
      wordEnd
      let start ← address
      wordEnd
      pure (.handle handle start)
    | _ => do
      modify (·.past (!isBreak ·))
      pure .other
  lineEnd
  pure result

/-! ## Scalars -/

/-- Read line breaks, with what `blanks` says may stand before and between them. Where a separator
of documents must not follow a break, `none` is answered as soon as one does. -/
def breaks (blanks : Char → Bool) : Nat → Reader (Option (List Char))
  | 0 => pure (some [])
  | fuel + 1 => do
    if (← get).atSeparator then pure none
    else
      modify (·.past blanks)
      match ← lineBreak with
      | [] => pure (some [])
      | first => pure ((← breaks blanks fuel).map (first ++ ·))

/-- What a run of line breaks stands for. -/
def fold (first : List Char) (more : List Char) : List Char :=
  (if first ≠ ['\n'] then first else if more.isEmpty then [' '] else []) ++ more

/-- What stands between two words of a scalar in quotes. -/
def quotedGap : Reader (List Char) := do
  let blanks ← many isSpaceOrTab
  match ← lineBreak with
  | [] => pure blanks
  | first =>
    match ← breaks isSpaceOrTab (← rounds) with
    | some more => pure (fold first more)
    | none => refuse

/-- The characters with an escape of one letter. -/
def namedEscapes : List (Char × Nat) :=
  [('0', 0), ('a', 7), ('b', 8), ('t', 9), ('\t', 9), ('n', 10), ('v', 11), ('f', 12), ('r', 13),
    ('e', 27), (' ', 32), ('\x22', 34), ('\\', 92), ('/', 47), ('N', 0x85), ('_', 0xA0),
    ('L', 0x2028), ('P', 0x2029)]

/-- How many digits follow the letter of a numbered escape. -/
def escapeDigits? (c : Char) : Option Nat :=
  if c = 'x' then some 2 else if c = 'u' then some 4 else if c = 'U' then some 8 else none

/-- A code point by its number, which may not be too great. -/
def numbered (n : Nat) : Reader Nat :=
  if 0x7FFFFFFF < n then throw (.unfit .scalarTooGreat)
  else if 0x10FFFF < n then throw (.unfit .scalarUnfit)
  else pure n

/-- What an escape after its backslash stands for. A break that is escaped stands for nothing. -/
def escaped : Reader (List Nat) := do
  match ← next? with
  | none => refuse
  | some c =>
    match namedEscapes.lookup c, escapeDigits? c with
    | some n, _ => do
      skip 1
      pure [n]
    | none, some count => do
      skip 1
      pure [← numbered (← hexDigits count)]
    | none, none => do
      require (isBreak c)
      let _ ← lineBreak
      match ← breaks isSpaceOrTab (← rounds) with
      | some more => pure (more.map (·.toNat))
      | none => refuse

/-- The rest of a scalar in quotes, and its closing quote. In single quotes a quote is written
twice, in double ones there are escapes. `before` has the code points so far, the last one first. -/
def quotedRest (quote : Char) (before : List Nat) : Nat → Reader RawText
  | 0 => refuse
  | fuel + 1 => do
    let c ← get
    match c.next? with
    | none => refuse
    | some ch => do
      if ch = quote && !(quote = '\x27' && c.peek 1 = some quote) then do
        skip 1
        pure ⟨before.reverse⟩
      else
        let piece ←
          if ch = quote then do
            skip 2
            pure [quote.toNat]
          else if ch = '\\' && quote = '\x22' then do
            skip 1
            escaped
          else if isSpaceOrTab ch || isBreak ch then do
            pure ((← quotedGap).map (·.toNat))
          else do
            skip 1
            pure [ch.toNat]
        quotedRest quote (piece.reverse ++ before) fuel

def quoted (quote : Char) : Reader RawText := do
  skip 1
  quotedRest quote [] (← rounds)

def isFlowMark (c : Char) : Bool := ",[]\x7b\x7d".contains c

/-- A word of a scalar without quotes. A colon is part of it unless a word ends there. -/
def plainWord (flow : Bool) : List Char → List Char
  | [] => []
  | c :: rest =>
    let after := rest.head?
    let ends := endsWordOrTab (some c)
      || (c = ':' && (endsWordOrTab after || (flow && (after.map isFlowMark).getD false)))
      || (flow && (isFlowMark c || c = '?'))
    if ends then [] else c :: plainWord flow rest

/-- What stands between two words of a scalar without quotes, and whether lines were ended. -/
def plainGap : Reader (List Char × Bool) := do
  let blanks ← many (· = ' ')
  match ← lineBreak with
  | [] => pure (blanks, false)
  | first =>
    match ← breaks (· = ' ') (← rounds) with
    | some more => pure (fold first more, true)
    | none => pure ([], true)

/-- The words of a scalar without quotes, and whether it ended a line. In block style every line
of it has to reach the given column. -/
def plainWords (flow : Bool) (column : Nat) : Nat → Reader (List Char × Bool)
  | 0 => pure ([], false)
  | fuel + 1 => do
    let word := plainWord flow (← get).rest
    skip word.length
    let (gap, ended) ← plainGap
    let c ← get
    if gap.isEmpty || c.next? = some '#' || (!flow && c.column < column)
      || (plainWord flow c.rest).isEmpty then
      pure (word, ended)
    else
      let (more, ended) ← plainWords flow column fuel
      pure (word ++ gap ++ more, ended)

def plain (flow : Bool) (column : Nat) : Reader (List Char × Bool) := do
  plainWords flow column (← rounds)

/-- What becomes of the breaks at the end of a block scalar. -/
inductive Chomping where
  /-- One is kept. -/
  | clip
  | strip
  | keep
  deriving Repr, DecidableEq

/-- The chomping that a sign in a header asks for. -/
def chomping? (c : Option Char) : Option Chomping :=
  if c = some '+' then some .keep else if c = some '-' then some .strip else none

/-- The chomping in a header. -/
def chompingMark : Reader (Option Chomping) := do
  let mark := chomping? (← next?)
  skip (if mark.isSome then 1 else 0)
  pure mark

/-- The indentation in a header, a single digit other than zero. -/
def indentationMark : Reader (Option Nat) := do
  match ← next? with
  | some c =>
    if c.isDigit then
      require (c ≠ '0')
      skip 1
      pure (some (c.toNat - '0'.toNat))
    else pure none
  | none => pure none

/-- The header of a block scalar: its two marks come in either order. -/
def blockHeader : Reader (Chomping × Option Nat) := do
  let early ← chompingMark
  let indentation ← indentationMark
  let late ← if early.isNone && indentation.isSome then chompingMark else pure none
  require (endsWord (← next?))
  lineEnd
  pure ((early.or late).getD .clip, indentation)

/-- Skip spaces up to a column. -/
def indentTo (column : Nat) : Reader Unit := do
  let c ← get
  skip (min (c.run (· = ' ')).length (column - c.column))

/-- The empty lines before a line of a block scalar, for a known indentation. -/
def emptyLines (column : Nat) : Nat → Reader (List Char)
  | 0 => pure []
  | fuel + 1 => do
    indentTo column
    match ← lineBreak with
    | [] => pure []
    | first => pure (first ++ (← emptyLines column fuel))

/-- The empty lines at the start of a block scalar, and the deepest column that spaces reach. -/
def leadingLines (deepest : Nat) : Nat → Reader (List Char × Nat)
  | 0 => pure ([], deepest)
  | fuel + 1 => do
    let spaces ← many (· = ' ')
    let column := (← get).column
    let deepest := if spaces.isEmpty then deepest else max deepest column
    match ← lineBreak with
    | [] => pure ([], deepest)
    | first => do
      let (more, deepest) ← leadingLines deepest fuel
      pure (first ++ more, deepest)

/-- The lines of a block scalar with the empty lines before the first one. The answer ends with
the break after the last line and the empty lines after it. -/
def blockLines (folded : Bool) (column : Nat) (before : List Char) :
    Nat → Reader (List Char × List Char × List Char)
  | 0 => pure ([], [], before)
  | fuel + 1 => do
    let c ← get
    if c.column ≠ column || c.next?.isNone then pure ([], [], before)
    else
      let startsFlush := !(c.next?.map isSpaceOrTab).getD false
      let text ← many (!isBreak ·)
      let ending ← lineBreak
      let empty ← emptyLines column (← rounds)
      let c ← get
      if c.column ≠ column || c.next?.isNone then pure (before ++ text, ending, empty)
      else
        let joins := folded && ending = ['\n'] && startsFlush
          && !(c.next?.map isSpaceOrTab).getD false
        let joint := if !joins then ending else if empty.isEmpty then [' '] else []
        let (rest, ending, empty) ← blockLines folded column empty fuel
        pure (before ++ text ++ joint ++ rest, ending, empty)

/-- A block scalar inside a block whose content has to reach the given column. -/
def block (folded : Bool) (column : Nat) : Reader (List Char) := do
  skip 1
  let (chomping, indentation) ← blockHeader
  let least := max 1 column
  let fuel ← rounds
  let (before, column) ← match indentation with
    | some n => do
      let column := least + n - 1
      pure (← emptyLines column fuel, column)
    | none => do
      let (before, deepest) ← leadingLines 0 fuel
      pure (before, max least deepest)
  let (text, ending, after) ← blockLines folded column before fuel
  pure (match chomping with
    | .strip => text
    | .clip => text ++ ending
    | .keep => text ++ ending ++ after)

end Reader

end ChunkRelay.Yaml
