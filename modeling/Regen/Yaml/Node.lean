import Regen.Yaml.Scalar
import Regen.Yaml.Token

/-!
# Nodes of a YAML document

A text holds at most one document, which is a graph of nodes: scalars, sequences and mappings with
their kinds. A node stands by its number, and the parts of a collection stand by theirs. An alias
is the number of the node with its anchor, so a node may be a part of several others, and of
itself.
-/

namespace Regen.Yaml

/-- The number of a node. -/
abbrev Ref := Nat

inductive Node where
  | scalar (kind : Kind) (text : String)
  /-- A text by its code points, some of which are surrogates. -/
  | codes (cs : List Nat)
  | sequence (kind : Kind) (items : List Ref)
  | mapping (kind : Kind) (entries : Array (Ref × Ref))

instance : Inhabited Node := ⟨.scalar .null ""⟩

/-- Nodes by their numbers. -/
abbrev Graph := Array Node

/-- What is left to read, with the nodes so far and the anchors and the tag handles of the
    document. -/
structure Progress where
  tokens : List Token
  nodes : Graph
  anchors : List (String × Ref)
  handles : List (String × String)

abbrev Reading := StateT Progress (Except Fault)

namespace Reading

def peek : Reading Token := do
  match (← get).tokens with
  | .fault f :: _ => throw f
  | t :: _ => return t
  | [] => return .streamEnd

def drop : Reading Unit := modify fun p => { p with tokens := p.tokens.tail }

def skip (t : Token) : Reading Bool := do
  if (← peek) = t then
    drop
    return true
  else return false

def need (t : Token) : Reading Unit := do
  if !(← skip t) then throw .unexpected

/-! ### Properties -/

/-- The handles that every document has. -/
def commonHandles : List (String × String) := [("!", "!"), ("!!", tagRoot)]

/-- What stands in front of a node. -/
structure Properties where
  anchor : Option String
  tag : Option String

def fullTag (handle : Option String) (suffix : String) : Reading String := do
  match handle with
  | none => return suffix
  | some h =>
    match (← get).handles.lookup h with
    | some start => return start ++ suffix
    | none => throw .unexpected

def anchor? : Reading (Option String) := do
  match ← peek with
  | .anchor a =>
    drop
    return some a
  | _ => return none

/-- The handle and the suffix of a tag. -/
def tag? : Reading (Option (Option String × String)) := do
  match ← peek with
  | .tag h s =>
    drop
    return some (h, s)
  | _ => return none

/-- An anchor and a tag in either order. -/
def properties : Reading Properties := do
  let first ← anchor?
  let tag ← tag?
  let anchor ← if first.isNone && tag.isSome then anchor? else pure first
  match tag with
  | some (h, s) => return ⟨anchor, some (← fullTag h s)⟩
  | none => return ⟨anchor, none⟩

def Properties.kind (p : Properties) (default : Kind) : Kind :=
  match p.tag with
  | some t => if t = "!" then default else .ofTag t
  | none => default

/-- The kind of a scalar: by its tag, by its form when it is plain, else a text. -/
def Properties.scalarKind (p : Properties) (text : String) (plain : Bool) : Kind :=
  p.kind (if (plain && p.tag.isNone) || p.tag = some "!" then Scalar.kindOf text else .text)

/-! ### Nodes -/

/-- A new node. An anchor stands once in a document. -/
def add (anchor : Option String) (n : Node) : Reading Ref := do
  let p ← get
  let r := p.nodes.size
  match anchor with
  | none => set { p with nodes := p.nodes.push n }
  | some a =>
    if (p.anchors.lookup a).isSome then throw .repeatedAnchor
    set { p with nodes := p.nodes.push n, anchors := (a, r) :: p.anchors }
  return r

def put (r : Ref) (n : Node) : Reading Unit :=
  modify fun p => { p with nodes := p.nodes.setIfInBounds r n }

def addEmpty : Reading Ref := add none (.scalar .null "")

/-- How block collections may stand in place of a node. -/
inductive Context where
  | flow
  | block
  /-- A block sequence may stand at the column of the mapping around it. -/
  | entry
  deriving DecidableEq

/-- So many collections may stand in one another. -/
def maxDepth : Nat := 480

/-- A sequence with its properties, given how its items are read in the room that is left. -/
def addSequence (p : Properties) (room : Nat) (items : Nat → Reading (List Ref)) : Reading Ref := do
  let kind := p.kind .sequence
  let r ← add p.anchor (.sequence kind [])
  match room with
  | 0 => throw (.value .tooDeep)
  | room + 1 =>
    put r (.sequence kind (← items room))
    return r

def addMapping (p : Properties) (room : Nat) (entries : Nat → Reading (List (Ref × Ref))) :
    Reading Ref := do
  let kind := p.kind .mapping
  let r ← add p.anchor (.mapping kind #[])
  match room with
  | 0 => throw (.value .tooDeep)
  | room + 1 =>
    put r (.mapping kind (← entries room).toArray)
    return r

mutual

/-- A node with at most `room` collections in one another. -/
def readNode : Nat → (room : Nat) → Context → Reading Ref
  | 0, _, _ => throw .unexpected
  | fuel + 1, room, context => do
    match ← peek with
    | .alias a =>
      drop
      match (← get).anchors.lookup a with
      | some r => return r
      | none => throw .undefinedAlias
    | _ =>
      let p ← properties
      let t ← peek
      if context = .entry ∧ t = .blockEntry then
        addSequence p room fun room => readBareEntries fuel room
      else match t with
      | .scalar text plain =>
        drop
        add p.anchor (.scalar (p.scalarKind text plain) text)
      | .codes cs =>
        drop
        let kind := p.kind .text
        let text := String.ofList (Text.ofCodes cs)
        add p.anchor (if kind = .text then .codes cs else .scalar kind text)
      | .flowSequenceStart =>
        drop
        addSequence p room fun room => readFlowItems fuel room true
      | .flowMappingStart =>
        drop
        addMapping p room fun room => readFlowEntries fuel room true
      | .blockSequenceStart =>
        if context = .flow then throw .unexpected
        drop
        addSequence p room fun room => readBlockEntries fuel room
      | .blockMappingStart =>
        if context = .flow then throw .unexpected
        drop
        addMapping p room fun room => readBlockPairs fuel room
      | _ =>
        if p.anchor.isNone && p.tag.isNone then throw .unexpected
        add p.anchor (.scalar (p.kind .null) "")

/-- A node, or an empty one when one of the given tokens stands in its place. -/
def readUnless : Nat → (room : Nat) → Context → List Token → Reading Ref
  | 0, _, _, _ => throw .unexpected
  | fuel + 1, room, context, stops => do
    if stops.contains (← peek) then addEmpty else readNode fuel room context

/-- The entries of a block sequence up to and with its end. -/
def readBlockEntries : Nat → (room : Nat) → Reading (List Ref)
  | 0, _ => throw .unexpected
  | fuel + 1, room => do
    if ← skip .blockEntry then
      let n ← readUnless fuel room .block [.blockEntry, .blockEnd]
      return n :: (← readBlockEntries fuel room)
    else
      need .blockEnd
      return []

/-- The entries of a block sequence that has no end of its own. -/
def readBareEntries : Nat → (room : Nat) → Reading (List Ref)
  | 0, _ => throw .unexpected
  | fuel + 1, room => do
    if ← skip .blockEntry then
      let n ← readUnless fuel room .block [.blockEntry, .key, .value, .blockEnd]
      return n :: (← readBareEntries fuel room)
    else return []

/-- The entries of a block mapping up to and with its end. -/
def readBlockPairs : Nat → (room : Nat) → Reading (List (Ref × Ref))
  | 0, _ => throw .unexpected
  | fuel + 1, room => do
    if ← skip .key then
      let k ← readUnless fuel room .entry [.key, .value, .blockEnd]
      let v ← if ← skip .value then readUnless fuel room .entry [.key, .value, .blockEnd]
        else addEmpty
      return (k, v) :: (← readBlockPairs fuel room)
    else
      need .blockEnd
      return []

/-- The items of a flow sequence up to and with its end. -/
def readFlowItems : Nat → (room : Nat) → (first : Bool) → Reading (List Ref)
  | 0, _, _ => throw .unexpected
  | fuel + 1, room, first => do
    if ← skip .flowSequenceEnd then return []
    if !first then need .flowEntry
    if ← skip .key then
      let n ← addMapping ⟨none, none⟩ room fun room => do
        let k ← readUnless fuel room .flow [.value, .flowEntry, .flowSequenceEnd]
        let v ← if ← skip .value then readUnless fuel room .flow [.flowEntry, .flowSequenceEnd]
          else addEmpty
        return [(k, v)]
      return n :: (← readFlowItems fuel room false)
    else if ← skip .flowSequenceEnd then return []
    else
      let n ← readNode fuel room .flow
      return n :: (← readFlowItems fuel room false)

/-- The entries of a flow mapping up to and with its end. -/
def readFlowEntries : Nat → (room : Nat) → (first : Bool) → Reading (List (Ref × Ref))
  | 0, _, _ => throw .unexpected
  | fuel + 1, room, first => do
    if ← skip .flowMappingEnd then return []
    if !first then need .flowEntry
    if ← skip .key then
      let k ← readUnless fuel room .flow [.value, .flowEntry, .flowMappingEnd]
      let v ← if ← skip .value then readUnless fuel room .flow [.flowEntry, .flowMappingEnd]
        else addEmpty
      return (k, v) :: (← readFlowEntries fuel room false)
    else if ← skip .flowMappingEnd then return []
    else
      let k ← readNode fuel room .flow
      return (k, ← addEmpty) :: (← readFlowEntries fuel room false)

end

/-! ### Documents -/

/-- The directives in front of a document. -/
def readDirectives : Nat → (versioned : Bool) → Reading Unit
  | 0, _ => return ()
  | fuel + 1, versioned => do
    match ← peek with
    | .version major =>
      if versioned || major ≠ 1 then throw .unexpected
      drop
      readDirectives fuel true
    | .tagHandle handle start =>
      if ((← get).handles.lookup handle).isSome then throw .unexpected
      modify fun p => { p with handles := (handle, start) :: p.handles }
      drop
      readDirectives fuel versioned
    | .otherDirective =>
      drop
      readDirectives fuel versioned
    | _ => return ()

def isDirective : Token → Bool
  | .version _ | .tagHandle _ _ | .otherDirective => true
  | _ => false

def skipDocumentEnds : Nat → Reading Unit
  | 0 => return ()
  | fuel + 1 => do
    if ← skip .documentEnd then skipDocumentEnds fuel

/-- The node of the only document; nothing when there is none. -/
def readDocument : Reading (Option Ref) := do
  let size := (← get).tokens.length
  let readRoot := readNode (4 * size + 4) maxDepth .block
  let t ← peek
  if t = .streamEnd then return none
  let node ←
    if !(isDirective t || t = .documentStart) then
      modify fun p => { p with handles := commonHandles }
      readRoot
    else do
      readDirectives size false
      need .documentStart
      modify fun p => { p with handles := p.handles ++ commonHandles }
      let t ← peek
      if isDirective t || [.documentStart, .documentEnd, .streamEnd].contains t then addEmpty
      else readRoot
  let _ ← skip .documentEnd
  skipDocumentEnds size
  if (← peek) ≠ .streamEnd then
    modify fun p => { p with handles := [] }
    readDirectives size false
    need .documentStart
    throw .severalDocuments
  return some node

end Reading

/-- The nodes of the document that a text holds, and the number of the outermost one. -/
def read (text : String) : Except Fault (Option (Graph × Ref)) := do
  let (root, p) ← Reading.readDocument.run ⟨tokens text, #[], [], []⟩
  return root.map fun r => (p.nodes, r)

end Regen.Yaml
