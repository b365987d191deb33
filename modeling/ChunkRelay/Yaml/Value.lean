import ChunkRelay.Yaml.Document
import ChunkRelay.Yaml.Scalar

/-! # Documents as values

A document stands for a free-form value. Scalars become what their tag says, and mappings take in
the ones that they merge, whose entries come first and so give way to their own.

Collections are made empty and filled afterwards, the ones nearest to the root first. So of several
things that are wrong with a document the one nearest to the root counts, and of several such ones
the first. A node that is used twice becomes one value, and a collection may come to lie inside
itself.
-/

namespace ChunkRelay.Yaml

/-- What is in a collection that has been filled. -/
inductive Contents where
  | list (items : List NodeId)
  | pairs (entries : List (NodeId × NodeId))
  | map (entries : List (Data × NodeId))
  | set (keys : List Data)

/-- What a node has become: a value that does not change any more, or a collection. -/
inductive Made where
  | value (value : Data)
  | collection (contents : Contents)

/-- A document whose nodes are becoming values. -/
structure Building where
  /-- The nodes. Merging changes their entries. -/
  nodes : Array Node
  /-- What the nodes have become, as far as they have. -/
  made : Array (Option Made)
  /-- The collections that are still to be filled, the latest first. -/
  unfilled : List NodeId

abbrev Builder := StateT Building (Except Problem)

namespace Builder

def refuse {α : Type} : Builder α := throw .malformed

def node (id : NodeId) : Builder Node := do
  match (← get).nodes[id]? with
  | some node => pure node
  | none => refuse

def change (id : NodeId) (f : Node → Node) : Builder Unit :=
  modify fun b => { b with nodes := b.nodes.modify id f }

def entriesOf (id : NodeId) : Builder (List (NodeId × NodeId)) := do
  match (← node id).content with
  | .mapping entries => pure entries
  | _ => refuse

def itemsOf (id : NodeId) : Builder (List NodeId) := do
  match (← node id).content with
  | .sequence items => pure items
  | _ => refuse

/-! ## Merging -/

/-- As many steps as merging may take. -/
def maxMergeSteps : Nat := 1000000000

/-- Take in the mappings that a mapping merges, from the entry at `index` on, where `merged` has
been found before. Of several mappings in a sequence the last one's entries come first. The key that
stands for the value of a mapping is a text where it is only a key. -/
def mergeFrom (id : NodeId) (index : Nat) (merged : List (NodeId × NodeId)) :
    Nat → Builder Unit
  | 0 => throw (.unfit .nestedTooDeep)
  | fuel + 1 => do
    let entries ← entriesOf id
    let entriesWithin := fun inner : NodeId => do
      mergeFrom inner 0 [] fuel
      entriesOf inner
    match entries[index]? with
    | none => change id fun n => { n with content := .mapping (merged ++ entries) }
    | some (key, value) =>
      match (← node key).tag with
      | .merge => do
        change id fun n => { n with content := .mapping (entries.eraseIdx index) }
        let more ← match (← node value).content with
          | .mapping _ => entriesWithin value
          | .sequence items => do
            let all ← items.mapM fun item => do
              let _ ← entriesOf item
              entriesWithin item
            pure all.reverse.flatten
          | .scalar _ => refuse
        mergeFrom id index (merged ++ more) fuel
      | .value => do
        change key ({ · with tag := .text })
        mergeFrom id (index + 1) merged fuel
      | _ => mergeFrom id (index + 1) merged fuel

/-! ## Making -/

/-- Take note of what a node has become. -/
def make (id : NodeId) (made : Made) : Builder Unit :=
  modify fun b => { b with made := b.made.setIfInBounds id (some made) }

/-- Make an empty collection of a node, to be filled later. -/
def makeEmpty (id : NodeId) (contents : Contents) : Builder Unit := do
  make id (.collection contents)
  modify fun b => { b with unfilled := id :: b.unfilled }

/-- The text of a node where a scalar is wanted. Of a mapping it is the text of the entry that
stands for its value. -/
def scalarText (id : NodeId) : Nat → Builder RawText
  | 0 => throw (.unfit .nestedTooDeep)
  | fuel + 1 => do
    match (← node id).content with
    | .scalar text => pure text
    | .sequence _ => refuse
    | .mapping entries =>
      match ← entries.findM? fun entry => do pure ((← node entry.1).tag = .value) with
      | some (_, value) => scalarText value fuel
      | none => refuse

/-- Make a value of a node that is to become a scalar. Only what is written as a scalar can be a
point in time. -/
def makeScalar (id : NodeId) : Builder Unit := do
  let n ← node id
  let text ← scalarText id ((← get).nodes.size + 1)
  match n.tag, n.content with
  | .timestamp, .mapping _ => throw (.unfit .scalarNotText)
  | tag, _ =>
    match Scalar.value id tag text with
    | .ok value => make id (.value value)
    | .error problem => throw problem

/-- Make a value of a node, unless it has become one before. -/
def construct (id : NodeId) : Builder Unit := do
  if ((← get).made[id]?.bind fun made? => made?).isNone then
    match (← node id).tag with
    | .sequence | .pairs => makeEmpty id (.list [])
    | .mapping => makeEmpty id (.map [])
    | .set => makeEmpty id (.set [])
    | .merge | .value | .unknown => refuse
    | .null | .bool | .int | .float | .binary | .timestamp | .text => makeScalar id

/-- The key that a node becomes. Collections are no keys. -/
def key (id : NodeId) : Builder Data := do
  construct id
  match (← get).made[id]? with
  | some (some (.value value)) => pure value
  | _ => refuse

/-- The keys of a mapping with the nodes of their values, merges included. -/
def mapping (id : NodeId) : Builder (List (Data × NodeId)) := do
  let _ ← entriesOf id
  mergeFrom id 0 [] maxMergeSteps
  (← entriesOf id).foldlM
    (fun entries (keyNode, valueNode) => do
      let k ← key keyNode
      construct valueNode
      pure (Data.insert k valueNode entries))
    []

/-- The only entry of a mapping, as nodes that have become values. -/
def pair (id : NodeId) : Builder (NodeId × NodeId) := do
  match ← entriesOf id with
  | [(first, second)] => do
    construct first
    construct second
    pure (first, second)
  | _ => refuse

def fill (id : NodeId) : Builder Unit := do
  let contents ← match (← node id).tag with
    | .pairs => do pure (.pairs (← (← itemsOf id).mapM pair))
    | .mapping => do pure (.map (← mapping id))
    | .set => do pure (.set ((← mapping id).map (·.1)))
    | _ => do
      let items ← itemsOf id
      items.forM construct
      pure (.list items)
  make id (.collection contents)

/-- Fill all collections, level by level. -/
def fillAll : Nat → Builder Unit
  | 0 => pure ()
  | levels + 1 => do
    match (← get).unfilled with
    | [] => pure ()
    | batch => do
      modify ({ · with unfilled := [] })
      batch.reverse.forM fill
      fillAll levels

end Builder

namespace Made

/-- The values of nodes that have been worked out. -/
abbrev Known := Array (Option Data)

/-- The value of a node, given the collections around it. A collection inside itself is not written
out again. -/
def resolve (made : Array (Option Made)) (around : List NodeId) (id : NodeId) :
    Nat → StateM Known Data
  | 0 => pure .null
  | fuel + 1 => do
    match (← get)[id]? with
    | some (some data) => pure data
    | _ =>
      match made[id]? with
      | some (some (.value data)) => pure data
      | some (some (.collection contents)) =>
        if around.contains id then
          pure (.again (match contents with | .map _ => true | _ => false))
        else
          let within := fun inner : NodeId => resolve made (id :: around) inner fuel
          let data ← match contents with
            | .list items => do pure (.list (← items.mapM within))
            | .pairs entries => do
              pure (.list (← entries.mapM fun (first, second) => do
                pure (.list [← within first, ← within second])))
            | .map entries => do
              pure (.map (← entries.mapM fun (key, inner) => do pure (key, ← within inner)))
            | .set keys => pure (.set keys)
          modify (·.setIfInBounds id (some data))
          pure data
      | _ => pure .null

end Made

def Document.value (document : Document) : Except Problem Data := do
  let count := document.nodes.size
  let build : Builder Unit := do
    Builder.construct document.root
    Builder.fillAll (count + 1)
  let (_, b) ← build.run ⟨document.nodes, Array.replicate count none, []⟩
  let resolved := Made.resolve b.made [] document.root (count + 1)
  pure (resolved.run (Array.replicate count none)).1

/-- Characters that a text may hold. -/
def isAllowed (c : Char) : Bool :=
  let v := c.toNat
  v = 0x09 || v = 0x0A || v = 0x0D || (0x20 ≤ v && v ≤ 0x7E) || v = 0x85
    || (0xA0 ≤ v && v ≤ 0xFFFD) || 0x10000 ≤ v

/-- The value that a text stands for, null if it holds no document. -/
def parse (text : List Char) : Except Problem Data := do
  if text.all isAllowed then
    match ← Document.ofText? text with
    | some document => document.value
    | none => pure .null
  else throw .malformed

end ChunkRelay.Yaml
