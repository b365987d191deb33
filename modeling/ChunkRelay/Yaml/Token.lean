import ChunkRelay.Yaml.Lexeme

/-! # Tokens

A text as a sequence of tokens. Blocks are nested by indentation, so a token says where a block
starts and where it ends. What comes before a colon is known to be a key only when the colon is
reached. Until then the place where the key's token would have to stand is kept, one for each
level of flow collections, as long as the line and a limited distance last.

The text is read no further than it takes to know the next token. So what is wrong with the tokens
read so far shows before anything that is wrong with the text after them.
-/

namespace ChunkRelay.Yaml

inductive Token where
  | directive (directive : Reader.Directive)
  | documentStart
  | documentEnd
  | blockSequenceStart
  | blockMappingStart
  | blockEnd
  | flowSequenceStart
  | flowSequenceEnd
  | flowMappingStart
  | flowMappingEnd
  | blockEntry
  | flowEntry
  | key
  | value
  | alias (name : String)
  | anchor (name : String)
  | tag (handle? : Option String) (rest : String)
  | scalar (text : RawText) (plain : Bool)
  /-- The end of the text, after which no token comes. -/
  | textEnd
  deriving Repr, DecidableEq

/-- Where a key may have started. -/
structure KeyPlace where
  /-- How many tokens stand before. -/
  tokens : Nat
  /-- Whether nothing else than a key may stand there. -/
  required : Bool
  index : Nat
  line : Nat
  column : Nat
  deriving Repr, DecidableEq

structure Lexer where
  cursor : Cursor
  /-- The tokens read and not yet taken. -/
  queue : List Token
  /-- How many tokens have been taken. -/
  taken : Nat
  /-- Whether the text has come to its end. -/
  finished : Bool
  /-- The columns of the open blocks, the innermost first. -/
  indents : List Nat
  /-- The open flow collections, the innermost first and the block level last, each with the place
      where a key may have started. -/
  keys : List (Option KeyPlace)
  /-- Whether a key may start here. -/
  keyAllowed : Bool

namespace Lexer

/-- How far a key may reach. -/
def maxKeyLength : Nat := 1024

def new (text : List Char) : Lexer :=
  let cursor := Cursor.new text
  { cursor := if text.head? = some byteOrderMark then cursor.forward else cursor
    queue := []
    taken := 0
    finished := false
    indents := []
    keys := [none]
    keyAllowed := true }

def inFlow (l : Lexer) : Bool := l.keys.length > 1

def column (l : Lexer) : Nat := l.cursor.column

/-- The column that the content of the innermost block has to reach. -/
def contentColumn (l : Lexer) : Nat :=
  match l.indents with
  | [] => 0
  | column :: _ => column + 1

def push (token : Token) (l : Lexer) : Lexer := { l with queue := l.queue ++ [token] }

/-- Put a token where the key at a place starts. -/
def insertAt (place : KeyPlace) (token : Token) (l : Lexer) : Lexer :=
  { l with queue := l.queue.insertIdx (place.tokens - l.taken) token }

/-- Add a token that takes so many characters. -/
def pushOver (token : Token) (count : Nat) (l : Lexer) : Lexer :=
  { l.push token with cursor := l.cursor.skip count }

/-- Give up a place where a key may have started, which must not have been required. -/
def release (place? : Option KeyPlace) : Except Problem Unit :=
  match place? with
  | some place => if place.required then .error .malformed else .ok ()
  | none => .ok ()

/-- Give up the innermost place where a key may have started. -/
def releaseKey (l : Lexer) : Except Problem Lexer := do
  release (l.keys.headD none)
  pure { l with keys := none :: l.keys.drop 1 }

/-- Give up all places that are on another line or too far away. -/
def releaseStale (l : Lexer) : Except Problem Lexer := do
  let isStale := fun place : KeyPlace =>
    place.line ≠ l.cursor.line || l.cursor.index > place.index + maxKeyLength
  let keys ← l.keys.mapM fun place? =>
    if (place?.map isStale).getD false then do
      release place?
      pure none
    else pure place?
  pure { l with keys }

/-- Take note that a key may start here. -/
def markKey (l : Lexer) : Except Problem Lexer := do
  if l.keyAllowed then
    let l ← l.releaseKey
    let place : KeyPlace :=
      { tokens := l.taken + l.queue.length
        required := !l.inFlow && l.indents.head? = some l.column
        index := l.cursor.index
        line := l.cursor.line
        column := l.column }
    pure { l with keys := some place :: l.keys.drop 1 }
  else pure l

/-- Whether a block opens at a column. -/
def opensBlock (l : Lexer) (column : Nat) : Bool :=
  match l.indents with
  | [] => true
  | innermost :: _ => innermost < column

/-- Open a block here if the indentation asks for one, outside of flow collections. -/
def openBlock (token : Token) (l : Lexer) : Except Problem Lexer :=
  if l.inFlow then .ok l
  else if !l.keyAllowed then .error .malformed
  else if l.opensBlock l.column then
    .ok { l.push token with indents := l.column :: l.indents }
  else .ok l

/-- Close the blocks that a predicate on their column names, from the innermost on. Flow collections
have to come to their end first. -/
def closeBlocks (closes : Nat → Bool) (l : Lexer) : Lexer :=
  if l.inFlow then l
  else
    let closed := (l.indents.takeWhile closes).length
    { l with
      queue := l.queue ++ List.replicate closed Token.blockEnd
      indents := l.indents.dropWhile closes }

/-- Run a reader at the current place. -/
def reading (x : Reader α) (l : Lexer) : Except Problem (α × Lexer) := do
  let (a, cursor) ← x.run l.cursor
  pure (a, { l with cursor })

/-- Skip blanks, comments and line breaks before a token. In a block, a new line may start with a
key. -/
def skipBlanks (l : Lexer) : Nat → Lexer
  | 0 => l
  | fuel + 1 =>
    let cursor := l.cursor.pastComment
    match cursor.next? with
    | some c =>
      if isBreak c then
        { l with cursor := cursor.forward, keyAllowed := l.keyAllowed || !l.inFlow }.skipBlanks fuel
      else { l with cursor }
    | none => { l with cursor }

/-- The start of a document or of a directive ends all blocks. -/
def topLevel (l : Lexer) : Except Problem Lexer := do
  let l ← (l.closeBlocks fun _ => true).releaseKey
  pure { l with keyAllowed := false }

def separator (token : Token) (l : Lexer) : Except Problem Lexer := do
  pure ((← l.topLevel).pushOver token 3)

/-- The start of a flow collection, which may itself be a key. -/
def openFlow (token : Token) (l : Lexer) : Except Problem Lexer := do
  let l ← l.markKey
  pure { l.pushOver token 1 with keys := none :: l.keys, keyAllowed := true }

def closeFlow (token : Token) (l : Lexer) : Except Problem Lexer := do
  let l ← l.releaseKey
  if l.inFlow then pure { l.pushOver token 1 with keys := l.keys.drop 1, keyAllowed := false }
  else throw .malformed

/-- A mark after which a key may start. -/
def entry (token : Token) (keyAllowed : Bool) (l : Lexer) : Except Problem Lexer := do
  let l ← l.releaseKey
  pure { l.pushOver token 1 with keyAllowed }

/-- The colon between a key and its value. A key that has been read already gets its token now,
and the start of its block before that. -/
def colon (l : Lexer) : Except Problem Lexer := do
  match l.keys with
  | some place :: outer =>
    let l := { l.insertAt place .key with keys := none :: outer, keyAllowed := false }
    let l :=
      if !l.inFlow && l.opensBlock place.column then
        { l.insertAt place .blockMappingStart with indents := place.column :: l.indents }
      else l
    pure (l.pushOver .value 1)
  | _ => do
    let l ← l.openBlock .blockMappingStart
    entry .value (!l.inFlow) l

/-- A token that may be a key or a part of one. -/
def keyPart (x : Reader Token) (l : Lexer) : Except Problem Lexer := do
  let l ← l.markKey
  let (token, l) ← l.reading x
  pure { l.push token with keyAllowed := false }

def plainScalar (l : Lexer) : Except Problem Lexer := do
  let l ← l.markKey
  let ((text, ended), l) ← l.reading (Reader.plain l.inFlow l.contentColumn)
  pure { l.push (.scalar (.ofChars text) true) with keyAllowed := ended }

def blockScalar (folded : Bool) (l : Lexer) : Except Problem Lexer := do
  let l ← l.releaseKey
  let (text, l) ← l.reading (Reader.block folded l.contentColumn)
  pure { l.push (.scalar (.ofChars text) false) with keyAllowed := true }

def quotedScalar (quote : Char) (l : Lexer) : Except Problem Lexer :=
  l.keyPart do pure (.scalar (← Reader.quoted quote) false)

/-- Whether a scalar without quotes may start with a character that has the given one after it. -/
def startsPlain (inFlow : Bool) (c : Char) (after : Option Char) : Bool :=
  !(isSpaceOrTab c || isBreak c || "-?:,[]\x7b\x7d#&*!|>'\x22%@\x60".contains c)
    || (!endsWordOrTab after && (c = '-' || (!inFlow && (c = '?' || c = ':'))))

/-- Read the token that starts with the given character. -/
def token (c : Char) (l : Lexer) : Except Problem Lexer :=
  let after := l.cursor.peek 1
  let atSeparator := l.column = 0 && l.cursor.atSeparator
  let isMark := endsWordOrTab after
  if c = '%' && l.column = 0 then do
    let (directive, l) ← (← l.topLevel).reading Reader.directive
    pure (l.push (.directive directive))
  else if c = '-' && atSeparator then l.separator .documentStart
  else if c = '.' && atSeparator then l.separator .documentEnd
  else if c = '[' then l.openFlow .flowSequenceStart
  else if c = '\x7b' then l.openFlow .flowMappingStart
  else if c = ']' then l.closeFlow .flowSequenceEnd
  else if c = '\x7d' then l.closeFlow .flowMappingEnd
  else if c = ',' then l.entry .flowEntry true
  else if c = '-' && isMark then do (← l.openBlock .blockSequenceStart).entry .blockEntry true
  else if c = '?' && (l.inFlow || isMark) then do
    (← l.openBlock .blockMappingStart).entry .key (!l.inFlow)
  else if c = ':' && (l.inFlow || isMark) then l.colon
  else if c = '*' then l.keyPart do pure (.alias (← Reader.anchorName))
  else if c = '&' then l.keyPart do pure (.anchor (← Reader.anchorName))
  else if c = '!' then l.keyPart do
    let (handle?, rest) ← Reader.tag
    pure (.tag handle? rest)
  else if c = '|' && !l.inFlow then l.blockScalar false
  else if c = '>' && !l.inFlow then l.blockScalar true
  else if c = '\x27' || c = '\x22' then l.quotedScalar c
  else if startsPlain l.inFlow c after then l.plainScalar
  else .error .malformed

/-- Read the next token, with the ends of blocks before it. -/
def readOn (l : Lexer) : Except Problem Lexer := do
  let l ← (l.skipBlanks (l.cursor.size + 1)).releaseStale
  let l := l.closeBlocks (l.column < ·)
  match l.cursor.next? with
  | some c => l.token c
  | none => do
    let l ← l.topLevel
    pure { l.push .textEnd with finished := true }

/-- Whether the next token may turn out to stand after the start of a key. -/
def mayBeKey (l : Lexer) : Bool :=
  l.keys.any fun place? => place?.any fun place => place.tokens = l.taken

/-- Read on until the next token is known. -/
def settle (l : Lexer) : Nat → Except Problem Lexer
  | 0 => .error .malformed
  | fuel + 1 =>
    if l.finished then .ok l
    else if l.queue.isEmpty then do (← l.readOn).settle fuel
    else do
      let l ← l.releaseStale
      if l.mayBeKey then (← l.readOn).settle fuel else pure l

/-- The next token, if the text has not come to its end. -/
def next? (l : Lexer) : Except Problem (Option Token × Lexer) := do
  let l ← l.settle (l.cursor.size + 2)
  pure (l.queue.head?, l)

def skip (l : Lexer) : Lexer := { l with queue := l.queue.drop 1, taken := l.taken + 1 }

end Lexer

end ChunkRelay.Yaml
