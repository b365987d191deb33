import ChunkRelay.Yaml.Tag
import ChunkRelay.Yaml.Token

/-! # Documents

A document as a graph of nodes: scalars, sequences and mappings, each with a tag that says what it
is to become. A node may be given a name, by which it can be used again later, even inside itself.
So nodes refer to each other by their numbers.
-/

namespace ChunkRelay.Yaml

abbrev NodeId : Type := Nat

inductive NodeContent where
  | scalar (text : RawText)
  | sequence (items : List NodeId)
  | mapping (entries : List (NodeId × NodeId))
  deriving Repr, DecidableEq

structure Node where
  tag : Tag
  content : NodeContent
  deriving Repr, DecidableEq

structure Document where
  nodes : Array Node
  root : NodeId
  deriving Repr, DecidableEq

/-! ## Reading documents -/

/-- A document that is being read: its tokens, the nodes so far, and the nodes that have names. -/
structure Reading where
  lexer : Lexer
  nodes : Array Node
  named : List (String × NodeId)

abbrev NodeReader := StateT Reading (Except Problem)

namespace NodeReader

def next? : NodeReader (Option Token) := do
  let r ← get
  let (token?, lexer) ← r.lexer.next?
  set { r with lexer }
  pure token?

def skip : NodeReader Unit := modify fun r => { r with lexer := r.lexer.skip }

/-- Skip the next token if it is the given one. -/
def skipIf (token : Token) : NodeReader Bool := do
  if (← next?) = some token then
    skip
    pure true
  else pure false

/-- Skip the next token, which has to be the given one. -/
def expect (token : Token) : NodeReader Unit := do
  if ← skipIf token then pure () else throw .malformed

/-- Whether the next token is one of the given ones. -/
def isNext (tokens : List Token) : NodeReader Bool := do
  pure ((← next?).any tokens.contains)

/-- More rounds than there are tokens. -/
def rounds : NodeReader Nat := do pure (2 * (← get).lexer.cursor.size + 8)

def add (tag : Tag) (content : NodeContent) : NodeReader NodeId := do
  let r ← get
  set { r with nodes := r.nodes.push ⟨tag, content⟩ }
  pure r.nodes.size

/-- The node that stands where none is written. -/
def empty : NodeReader NodeId := add .null (.scalar ⟨[]⟩)

/-- A node, or the empty one if one of the given tokens is next. -/
def orEmpty (tokens : List Token) (node : NodeReader NodeId) : NodeReader NodeId := do
  if ← isNext tokens then empty else node

/-- The items of a sequence up to where there is no further one; `stops` may follow an item that
is left out. -/
def blockItems (stops : List Token) (node : NodeReader NodeId) : Nat → NodeReader (List NodeId)
  | 0 => throw .malformed
  | fuel + 1 => do
    if ← skipIf .blockEntry then
      let item ← orEmpty stops node
      pure (item :: (← blockItems stops node fuel))
    else pure []

/-- The value of a key, where it may be left out. -/
def valueOrEmpty (stops : List Token) (node : NodeReader NodeId) : NodeReader NodeId := do
  if ← skipIf .value then orEmpty stops node else empty

/-- The entries of a mapping in block style, up to where there is no further one. -/
def blockEntries (node : NodeReader NodeId) : Nat → NodeReader (List (NodeId × NodeId))
  | 0 => throw .malformed
  | fuel + 1 => do
    let stops := [Token.key, .value, .blockEnd]
    if ← skipIf .key then
      let key ← orEmpty stops node
      let value ← valueOrEmpty stops node
      pure ((key, value) :: (← blockEntries node fuel))
    else pure []

/-- The items of a flow collection up to its closing token. Commas stand between them, and one may
stand after the last. -/
def flowItems (close : Token) (item : NodeReader α) (first : Bool) : Nat → NodeReader (List α)
  | 0 => throw .malformed
  | fuel + 1 => do
    if ← skipIf close then pure []
    else
      if !first then expect .flowEntry
      if !first && (← skipIf close) then pure []
      else
        let a ← item
        pure (a :: (← flowItems close item false fuel))

/-- An entry of a mapping in flow style, where the value may be left out. -/
def flowEntry (close : Token) (node : NodeReader NodeId) : NodeReader (NodeId × NodeId) := do
  if ← skipIf .key then
    let key ← orEmpty [.value, .flowEntry, close] node
    pure (key, ← valueOrEmpty [.flowEntry, close] node)
  else
    let key ← node
    pure (key, ← empty)

/-- An item of a sequence in flow style, which may be an entry that stands for a mapping. -/
def flowItem (node : NodeReader NodeId) : NodeReader NodeId := do
  if ← isNext [.key] then
    let entry ← flowEntry .flowSequenceEnd node
    add .mapping (.mapping [entry])
  else node

/-- What stands before the content of a node: its name and its tag, in either order. -/
def properties : NodeReader (Option String × Option (Option String × String)) := do
  let name : NodeReader (Option String) := do
    match ← next? with
    | some (.anchor name) => do
      skip
      pure (some name)
    | _ => pure none
  let tag : NodeReader (Option (Option String × String)) := do
    match ← next? with
    | some (.tag handle? rest) => do
      skip
      pure (some (handle?, rest))
    | _ => pure none
  let early ← name
  let tag? ← tag
  let late ← if early.isNone && tag?.isSome then name else pure none
  pure (early.or late, tag?)

/-- The address of a tag. -/
def addressOf (handles : List (String × String)) (tag : Option String × String) :
    NodeReader String :=
  match tag with
  | (none, rest) => pure rest
  | (some handle, rest) =>
    match handles.lookup handle with
    | some start => pure (start ++ rest)
    | none => throw .malformed

/-- The tag that an address names, or a default where there is none. -/
def tagOr (default : Tag) (address? : Option String) : Tag :=
  match address? with
  | none | some "!" => default
  | some address => .ofAddress address

/-- Add a node whose content comes later, under the name that it has, which may not be taken. -/
def start (name? : Option String) (node : Node) : NodeReader NodeId := do
  let r ← get
  match name? with
  | some name => do
    if (r.named.lookup name).isSome then throw .malformed
    set { r with named := (name, r.nodes.size) :: r.named, nodes := r.nodes.push node }
  | none => set { r with nodes := r.nodes.push node }
  pure r.nodes.size

def fill (id : NodeId) (content : NodeContent) : NodeReader NodeId := do
  modify fun r => { r with nodes := r.nodes.modify id ({ · with content }) }
  pure id

def scalarTag (address? : Option String) (plain : Bool) (text : RawText) : Tag :=
  if address?.isNone && !plain then .text else tagOr (.ofScalar text) address?

/-- How many collections may be inside each other. -/
def maxDepth : Nat := 485

/-- A node, with as many further levels of nodes inside it as `depth` says. In block style it may
also be a block, or a sequence that is not indented further than the key it belongs to. -/
def node (handles : List (String × String)) (isBlock flush : Bool) : Nat → NodeReader NodeId
  | 0 => throw (.unfit .nestedTooDeep)
  | depth + 1 => do
    match ← next? with
    | some (.alias name) => do
      skip
      match (← get).named.lookup name with
      | some id => pure id
      | none => throw .malformed
    | _ => do
      let (name?, tag?) ← properties
      let address? ← tag?.mapM (addressOf handles)
      let sequence := fun items : NodeReader (List NodeId) => do
        let id ← start name? ⟨tagOr .sequence address?, .sequence []⟩
        fill id (.sequence (← items))
      let mapping := fun entries : NodeReader (List (NodeId × NodeId)) => do
        let id ← start name? ⟨tagOr .mapping address?, .mapping []⟩
        fill id (.mapping (← entries))
      let scalar := fun (plain : Bool) (text : RawText) =>
        start name? ⟨scalarTag address? plain text, .scalar text⟩
      let orEmptyScalar :=
        if name?.isSome || tag?.isSome then scalar true ⟨[]⟩ else throw .malformed
      let inBlock := node handles true false depth
      let inEntry := node handles true true depth
      let inFlow := node handles false false depth
      let count ← rounds
      match ← next?, isBlock with
      | some (.scalar text plain), _ => do
        skip
        scalar plain text
      | some .flowSequenceStart, _ => do
        skip
        sequence (flowItems .flowSequenceEnd (flowItem inFlow) true count)
      | some .flowMappingStart, _ => do
        skip
        mapping (flowItems .flowMappingEnd (flowEntry .flowMappingEnd inFlow) true count)
      | some .blockSequenceStart, true => do
        skip
        sequence do
          let items ← blockItems [.blockEntry, .blockEnd] inBlock count
          expect .blockEnd
          pure items
      | some .blockMappingStart, true => do
        skip
        mapping do
          let entries ← blockEntries inEntry count
          expect .blockEnd
          pure entries
      | some .blockEntry, _ =>
        if flush then
          sequence (blockItems [.blockEntry, .key, .value, .blockEnd] inBlock count)
        else orEmptyScalar
      | _, _ => orEmptyScalar

/-- The handles that every document may use. -/
def commonHandles : List (String × String) := [("!", "!"), ("!!", Tag.standard)]

/-- The directives before a document, and the handles that they declare. -/
def directives (versioned : Bool) (handles : List (String × String)) :
    Nat → NodeReader (List (String × String))
  | 0 => throw .malformed
  | fuel + 1 => do
    match ← next? with
    | some (.directive (.version major)) => do
      if versioned || major ≠ 1 then throw .malformed
      skip
      directives true handles fuel
    | some (.directive (.handle name start)) => do
      if (handles.lookup name).isSome then throw .malformed
      skip
      directives versioned ((name, start) :: handles) fuel
    | some (.directive .other) => do
      skip
      directives versioned handles fuel
    | _ => pure (handles ++ commonHandles)

/-- Skip tokens that end a document. -/
def documentEnds : Nat → NodeReader Unit
  | 0 => pure ()
  | fuel + 1 => do
    if ← skipIf .documentEnd then documentEnds fuel else pure ()

/-- The start of a document with what may be declared before it. -/
def documentStart : NodeReader (List (String × String)) := do
  let handles ← directives false [] (← rounds)
  expect .documentStart
  pure handles

def root : NodeReader NodeId := do
  match ← next? with
  | some (.directive _) | some .documentStart => do
    let handles ← documentStart
    match ← next? with
    | some (.directive _) | some .documentStart | some .documentEnd | some .textEnd => empty
    | _ => node handles true false maxDepth
  | _ => node commonHandles true false maxDepth

/-- The root of the only document of a text, if there is one. -/
def onlyRoot? : NodeReader (Option NodeId) := do
  if ← isNext [.textEnd] then pure none
  else
    let id ← root
    documentEnds (← rounds)
    if ← isNext [.textEnd] then pure (some id)
    else
      let _ ← documentStart
      throw .malformed

end NodeReader

/-- The only document of a text, if there is one. -/
def Document.ofText? (text : List Char) : Except Problem (Option Document) := do
  let (root?, reading) ← NodeReader.onlyRoot?.run ⟨.new text, #[], []⟩
  pure (root?.map fun root => ⟨reading.nodes, root⟩)

end ChunkRelay.Yaml
