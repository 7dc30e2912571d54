import VisualNovel.Yaml.Tag
import VisualNovel.Yaml.Token

/-!
# Nodes

The graph that the tokens of a document describe. A node that was given a name is one node however
often its name is used, also inside itself.
-/
namespace VisualNovel.Yaml

/-- What a node holds; other nodes are known by their numbers. -/
inductive Content where
  | scalar (value : String)
  | sequence (items : List Nat)
  | mapping (entries : List (Nat × Nat))
deriving DecidableEq, Inhabited, Repr

structure Node where
  tag : Tag
  content : Content
deriving DecidableEq, Inhabited, Repr

abbrev Graph := Array Node

/-- The type of a collection. -/
def collectionTag (tag : Option String) (standard : Tag) : Tag :=
  match tag with
  | some t => if t = "!" then standard else Tag.ofText t
  | none => standard

/-- The type of a scalar: by its tag, or by its form if it is plain or its tag is left open. -/
def scalarTag (tag : Option String) (value : String) (plain : Bool) : Tag :=
  match tag with
  | some t => if t = "!" then Tag.ofPlain value else Tag.ofText t
  | none => if plain then Tag.ofPlain value else .text

/-- What is left to read, the nodes so far, the numbers of those that have names, what tag handles
stand for, and how many collections are open. -/
structure Reading where
  scanner : Scanner
  nodes : Graph := #[]
  anchors : List (String × Nat) := []
  handles : List (String × String) := []
  depth : Nat := 0

abbrev Reader := StateT Reading (Except Failure)

namespace Reader

def fail {α : Type} : Reader α :=
  throw .malformed

def scanning {α : Type} (act : Scanning α) : Reader α := do
  let r ← get
  let (a, scanner) ← act r.scanner
  set { r with scanner }
  return a

def peek : Reader (Option Token) :=
  scanning Scanner.peek

def skip : Reader Unit :=
  scanning Scanner.skip

def accept (t : Token) : Reader Bool := do
  if (← peek) = some t then
    skip
    return true
  else return false

def expect (t : Token) : Reader Unit := do
  if !(← accept t) then fail

/-- Whether one of some tokens comes next. -/
def nextIn (ts : List Token) : Reader Bool := do
  match ← peek with
  | some t => return ts.contains t
  | none => return false

/-- Adds a node and gives it a name; a name is given once. -/
def add (anchor : Option String) (node : Node) : Reader Nat := do
  let r ← get
  let id := r.nodes.size
  let anchors ←
    match anchor with
    | some a => if (r.anchors.lookup a).isSome then fail else pure ((a, id) :: r.anchors)
    | none => pure r.anchors
  set { r with nodes := r.nodes.push node, anchors }
  return id

def addEmpty : Reader Nat :=
  add none ⟨Tag.ofPlain "", .scalar ""⟩

/-- How many collections may stand inside each other. -/
def nestingLimit : Nat := 490

/-- Adds a collection and then reads what it holds. -/
def addCollection (anchor : Option String) (tag : Tag) (start : Content) (content : Reader Content) :
    Reader Nat := do
  let id ← add anchor ⟨tag, start⟩
  let depth := (← get).depth
  if nestingLimit ≤ depth then throw .nesting
  modify fun r => { r with depth := depth + 1 }
  let content ← content
  modify fun r => { r with depth, nodes := r.nodes.setIfInBounds id ⟨tag, content⟩ }
  return id

def addSequence (anchor tag : Option String) (items : Reader (List Nat)) : Reader Nat :=
  addCollection anchor (collectionTag tag .sequence) (.sequence []) do return .sequence (← items)

def addMapping (anchor tag : Option String) (entries : Reader (List (Nat × Nat))) : Reader Nat :=
  addCollection anchor (collectionTag tag .mapping) (.mapping []) do return .mapping (← entries)

def takeAnchor : Reader (Option String) := do
  match ← peek with
  | some (.anchor name) =>
    skip
    return some name
  | _ => return none

def takeTag : Reader (Option TagText) := do
  match ← peek with
  | some (.tag t) =>
    skip
    return some t
  | _ => return none

def resolveTag (t : TagText) : Reader String := do
  match t.handle with
  | none => return t.suffix
  | some h =>
    match (← get).handles.lookup h with
    | some lead => return lead ++ t.suffix
    | none => fail

def takeProperties : Reader (Option String × Option String) := do
  let (anchor, tag) ←
    match ← takeAnchor with
    | some a => pure (some a, ← takeTag)
    | none =>
      match ← takeTag with
      | some t => pure (← takeAnchor, some t)
      | none => pure (none, none)
  match tag with
  | some t => return (anchor, some (← resolveTag t))
  | none => return (anchor, none)

mutual

/-- Reads a node. `block` allows collections by indentation, `flush` a sequence that is not
indented more than the mapping around it. -/
def read : (rounds : Nat) → (block flush : Bool) → Reader Nat
  | 0, _, _ => fail
  | n + 1, block, flush => do
    match ← peek with
    | some (.alias name) =>
      skip
      match (← get).anchors.lookup name with
      | some id => return id
      | none => fail
    | _ =>
      let (anchor, tag) ← takeProperties
      match ← peek with
      | some (.scalar value plain) =>
        skip
        add anchor ⟨scalarTag tag value plain, .scalar value⟩
      | some .flowSequenceStart =>
        addSequence anchor tag do
          skip
          readFlowSequence n true
      | some .flowMappingStart =>
        addMapping anchor tag do
          skip
          readFlowMapping n true
      | next =>
        if flush && next = some .entry then
          addSequence anchor tag (readFlush n)
        else if block && next = some .sequenceStart then
          addSequence anchor tag do
            skip
            readSequence n
        else if block && next = some .mappingStart then
          addMapping anchor tag do
            skip
            readMapping n
        else if anchor.isSome || tag.isSome then
          add anchor ⟨scalarTag tag "" true, .scalar ""⟩
        else fail

def readUnless : (rounds : Nat) → List Token → (block flush : Bool) → Reader Nat
  | 0, _, _, _ => fail
  | n + 1, ends, block, flush => do
    if ← nextIn ends then addEmpty else read n block flush

def readSequence : (rounds : Nat) → Reader (List Nat)
  | 0 => fail
  | n + 1 => do
    if ← accept .entry then
      let item ← readUnless n [.entry, .blockEnd] true false
      return item :: (← readSequence n)
    else
      expect .blockEnd
      return []

def readFlush : (rounds : Nat) → Reader (List Nat)
  | 0 => fail
  | n + 1 => do
    if ← accept .entry then
      let item ← readUnless n [.entry, .key, .value, .blockEnd] true false
      return item :: (← readFlush n)
    else return []

def readMapping : (rounds : Nat) → Reader (List (Nat × Nat))
  | 0 => fail
  | n + 1 => do
    if ← accept .key then
      let ends : List Token := [.key, .value, .blockEnd]
      let key ← readUnless n ends true true
      let value ← if ← accept .value then readUnless n ends true true else addEmpty
      return (key, value) :: (← readMapping n)
    else
      expect .blockEnd
      return []

def readFlowValue : (rounds : Nat) → (close : Token) → Reader Nat
  | 0, _ => fail
  | n + 1, close => do
    if ← accept .value then readUnless n [.flowEntry, close] false false else addEmpty

/-- Reads the rest of a sequence in brackets; `first` says that no comma is due. -/
def readFlowSequence : (rounds : Nat) → (first : Bool) → Reader (List Nat)
  | 0, _ => fail
  | n + 1, first => do
    if ← accept .flowSequenceEnd then return []
    if !first then
      expect .flowEntry
    if (← peek) = some .key then
      let item ← addMapping none none do
        skip
        let key ← readUnless n [.value, .flowEntry, .flowSequenceEnd] false false
        let value ← readFlowValue n .flowSequenceEnd
        return [(key, value)]
      return item :: (← readFlowSequence n false)
    else if ← accept .flowSequenceEnd then return []
    else
      let item ← read n false false
      return item :: (← readFlowSequence n false)

def readFlowMapping : (rounds : Nat) → (first : Bool) → Reader (List (Nat × Nat))
  | 0, _ => fail
  | n + 1, first => do
    if ← accept .flowMappingEnd then return []
    if !first then
      expect .flowEntry
    if ← accept .key then
      let key ← readUnless n [.value, .flowEntry, .flowMappingEnd] false false
      let value ← readFlowValue n .flowMappingEnd
      return (key, value) :: (← readFlowMapping n false)
    else if ← accept .flowMappingEnd then return []
    else
      let key ← read n false false
      let value ← addEmpty
      return (key, value) :: (← readFlowMapping n false)

end

def standardHandles : List (String × String) :=
  [("!", "!"), ("!!", Tag.standardLead)]

def readPragmas : (rounds : Nat) → (versioned : Bool) → List (String × String) →
    Reader (List (String × String))
  | 0, _, _ => fail
  | n + 1, versioned, handles => do
    match ← peek with
    | some (.pragma p) =>
      skip
      match p with
      | .version major =>
        if versioned || major ≠ 1 then fail
        readPragmas n true handles
      | .handle h lead =>
        if (handles.lookup h).isSome then fail
        readPragmas n versioned ((h, lead) :: handles)
      | .unknown => readPragmas n versioned handles
    | _ => return handles

def readStart (rounds : Nat) : Reader Unit := do
  let handles ← readPragmas rounds false []
  expect .documentStart
  modify fun r => { r with handles := handles ++ standardHandles }

def skipEnds : (rounds : Nat) → Reader Unit
  | 0 => fail
  | n + 1 => do
    if ← accept .documentEnd then skipEnds n

/-- Whether a document that was started explicitly is empty. -/
def atEmptyDocument : Reader Bool := do
  match ← peek with
  | none => return true
  | some (.pragma _) => return true
  | some t => return t = .documentStart || t = .documentEnd

/-- Reads a source that holds at most one document, and gives the number of its node. -/
def readDocument (rounds : Nat) : Reader (Option Nat) := do
  match ← peek with
  | none => return none
  | some t =>
    let explicit :=
      match t with
      | .pragma _ | .documentStart => true
      | _ => false
    if explicit then readStart rounds
    else modify fun r => { r with handles := standardHandles }
    let id ← if ← (if explicit then atEmptyDocument else pure false) then addEmpty
      else read rounds true false
    skipEnds rounds
    if (← peek).isNone then return some id
    else
      readStart rounds
      fail

end Reader

/-- The nodes of a source and the number of its document, if there is one. A character makes at most
a few tokens, and each token takes at most two rounds. -/
def Graph.ofSource (s : Source) : Except Failure (Graph × Option Nat) := do
  let scanner : Scanner := { cursor := .ofSource s }
  let (root, r) ← Reader.readDocument (16 * s.text.length + 32) { scanner }
  return (r.nodes, root)

end VisualNovel.Yaml
