import VisualNovel.Yaml.Leaf
import VisualNovel.Yaml.Node

/-!
# Values of documents

What the nodes of a document stand for. A node is read once, when it is first met. Leaves are read
at once, while a collection waits to be filled until everything on its level has been met; so of
several nodes that cannot be read the one nearest to the top is reported, and the first of those on
a level. To fill a mapping changes its node: it takes in the mappings that it merges, and its default
keys become plain texts. Nodes that are read later see the change.
-/
namespace VisualNovel.Yaml

open VisualNovel.Number
open VisualNovel.Text

/-- What a node stands for; the parts of a collection are known by their nodes. -/
inductive Value where
  | leaf (d : Datum)
  /-- The constant that is not a number. Unlike other values that are no numbers it equals itself. -/
  | notANumber
  | list (items : List Nat)
  | pairs (entries : List (Nat × Nat))
  | map (entries : List (Nat × Nat))
  | set
deriving Inhabited

def Value.isLeaf : Value → Bool
  | leaf _ | notANumber => true
  | _ => false

/-- Whether two values are equal as keys of a mapping. -/
def Value.sameKey : Value → Value → Bool
  | leaf a, leaf b => a.sameKey b
  | notANumber, notANumber => true
  | _, _ => false

def Value.unfilled? : Tag → Option Value
  | .sequence => some (.list [])
  | .orderedMap | .pairs => some (.pairs [])
  | .mapping => some (.map [])
  | .set => some .set
  | _ => none

/-- The values so far, and the collections that wait to be filled, the last one first. -/
structure Building where
  graph : Graph
  values : Array (Option Value)
  waiting : List Nat := []
  /-- How many nodes and entries there are, which bounds every descent. -/
  size : Nat

abbrev Builder := StateT Building (Except Failure)

namespace Builder

def malformed {α : Type} : Builder α :=
  throw .malformed

def node (id : Nat) : Builder Node := do
  return (← get).graph.getD id default

def value? (id : Nat) : Builder (Option Value) := do
  return ((← get).values[id]?).join

def setValue (id : Nat) (v : Value) : Builder Unit :=
  modify fun b => { b with values := b.values.setIfInBounds id (some v) }

def entries (id : Nat) : Builder (List (Nat × Nat)) := do
  match (← node id).content with
  | .mapping es => return es
  | _ => return []

def setEntries (id : Nat) (es : List (Nat × Nat)) : Builder Unit := do
  let n ← node id
  modify fun b => { b with graph := b.graph.setIfInBounds id { n with content := .mapping es } }

/-- Whether the key of an entry has a type. -/
def hasKeyTag (g : Graph) (t : Tag) (entry : Nat × Nat) : Bool :=
  (g.getD entry.1 default).tag = t

/-- The text that stands for a node where a scalar is wanted: its own, or that of its default
entry. -/
def scalarText : (depth : Nat) → (id : Nat) → Builder String
  | 0, _ => throw .nesting
  | n + 1, id => do
    match (← node id).content with
    | .scalar value => return value
    | .sequence _ => malformed
    | .mapping es =>
      match es.find? (hasKeyTag (← get).graph .default) with
      | some (_, v) => scalarText n v
      | none => malformed

def readLeaf (id : Nat) : Builder Value := do
  let n ← node id
  let text := scalarText ((← get).size + 1) id
  match n.tag with
  | .null =>
    let _ ← text
    return .leaf .null
  | .truth => return .leaf (.truth (← truthOf (← text)))
  | .integer => return .leaf (.integer (← integerOf (← text)))
  | .real =>
    match ← realOf (← text) with
    | some x => return .leaf (.real x)
    | none => return .notANumber
  | .binary => return .leaf (.bytes (← bytesOf (← text)))
  | .timestamp =>
    let s ← text
    match n.content with
    | .scalar _ => return .leaf (← timestampOf s)
    | _ => throw .timestampMapping
  | .text => return .leaf (.text (← text))
  | _ => malformed

def meet (id : Nat) : Builder Unit := do
  if (← value? id).isNone then
    match Value.unfilled? (← node id).tag with
    | some v =>
      setValue id v
      modify fun b => { b with waiting := id :: b.waiting }
    | none => setValue id (← readLeaf id)

/-- Takes the first merge entry out of a mapping and gives the node that it merges. -/
def takeMerge (id : Nat) : Builder (Option Nat) := do
  let g := (← get).graph
  match (← entries id).span fun e => !hasKeyTag g .merge e with
  | (front, (_, v) :: back) =>
    setEntries id (front ++ back)
    return some v
  | (_, []) => return none

def settleKeys (id : Nat) : Builder Unit := do
  for (key, _) in ← entries id do
    let n ← node key
    if n.tag = .default then
      modify fun b => { b with graph := b.graph.setIfInBounds key { n with tag := .text } }

/-- Puts the entries of the mappings that a mapping merges in front of its own, behind those that
have been `merged` already. Of a list of mappings the last one comes first, so that earlier ones win.
Every descent takes an entry out. -/
def flatten : (depth : Nat) → (id : Nat) → (merged : List (Nat × Nat)) → Builder Unit
  | 0, _, _ => malformed
  | n + 1, id, merged => do
    match ← takeMerge id with
    | none =>
      settleKeys id
      setEntries id (merged ++ (← entries id))
    | some v =>
      let more ←
        match (← node v).content with
        | .mapping _ => do
          flatten n v []
          entries v
        | .sequence items => do
          let parts ← items.mapM fun item => do
            match (← node item).content with
            | .mapping _ =>
              flatten n item []
              entries item
            | _ => malformed
          pure parts.reverse.flatten
        | .scalar _ => malformed
      flatten n id (merged ++ more)

/-- Sets the value of a key. A key that is there already keeps its place. A node is the same key as
itself. -/
def putEntry (same : Nat → Nat → Bool) (key value : Nat) : List (Nat × Nat) → List (Nat × Nat)
  | [] => [(key, value)]
  | (k, v) :: rest =>
    if k = key || same k key then (k, value) :: rest else (k, v) :: putEntry same key value rest

/-- Meets the keys and values of a mapping. A collection is no key. -/
def meetEntries (id : Nat) : Builder (List (Nat × Nat)) := do
  flatten ((← get).size + 1) id []
  let es ← entries id
  for (key, value) in es do
    meet key
    if !((← value? key).any Value.isLeaf) then malformed
    meet value
  let values := (← get).values
  let same (i j : Nat) : Bool :=
    match values[i]?.join, values[j]?.join with
    | some v, some w => v.sameKey w
    | _, _ => false
  return es.foldl (fun es (key, value) => putEntry same key value es) []

/-- Meets the only entry of a mapping, which is not flattened for that. -/
def meetPair (id : Nat) : Builder (Nat × Nat) := do
  match (← node id).content with
  | .mapping [(key, value)] =>
    meet key
    meet value
    return (key, value)
  | _ => malformed

def fill (id : Nat) : Builder Unit := do
  let n ← node id
  match n.tag, n.content with
  | .sequence, .sequence items =>
    for item in items do
      meet item
    setValue id (.list items)
  | .orderedMap, .sequence items | .pairs, .sequence items =>
    setValue id (.pairs (← items.mapM meetPair))
  | .mapping, .mapping _ => setValue id (.map (← meetEntries id))
  | .set, .mapping _ =>
    let _ ← meetEntries id
  | _, _ => malformed

def fillAll : (levels : Nat) → Builder Unit
  | 0 => return
  | n + 1 => do
    match (← get).waiting.reverse with
    | [] => return
    | level =>
      modify fun b => { b with waiting := [] }
      for id in level do
        fill id
      fillAll n

end Builder

/-- The datum of a node. Collections that lie deeper than `depth` levels are left empty. -/
def Building.datum (b : Building) : (depth : Nat) → (id : Nat) → Datum
  | depth, id =>
    match (b.values[id]?).join with
    | none => .null
    | some (.leaf d) => d
    | some .notANumber => .real (Binary64.nan false)
    | some .set => .set
    | some (.list items) =>
      match depth with
      | 0 => .list []
      | n + 1 => .list (items.map (b.datum n))
    | some (.pairs es) =>
      match depth with
      | 0 => .list []
      | n + 1 => .list (es.map fun (k, v) => .list [b.datum n k, b.datum n v])
    | some (.map es) =>
      match depth with
      | 0 => .map []
      | n + 1 => .map (es.map fun (k, v) => (b.datum n k, b.datum n v))

def Graph.extent (g : Graph) : Nat :=
  g.foldl (fun n node =>
    match node.content with
    | .mapping es => n + es.length + 1
    | _ => n + 1) 0

/-- The values of the nodes of a graph that belong to one of them. -/
def Graph.build (g : Graph) (root : Nat) : Except Failure Building := do
  let start : Building := { graph := g, values := Array.replicate g.size none, size := g.extent }
  let act : Builder Unit := do
    Builder.meet root
    Builder.fillAll (g.size + 1)
  return (← act start).2

/-- The value of bytes that hold at most one document, as deep as is wanted; nothing stands for bytes
without one. -/
def read (depth : Nat) (bytes : List UInt8) : Except Failure (Option Datum) := do
  match ← Graph.ofSource (.ofBytes bytes) with
  | (_, none) => return none
  | (g, some root) => return some ((← g.build root).datum depth root)

end VisualNovel.Yaml
