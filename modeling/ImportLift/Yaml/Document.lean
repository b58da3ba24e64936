-- The data of a document. Collections are filled in rounds: what is met while
-- the collections of one round are filled is filled in the next. So of several
-- faults the one in the earliest round counts, and of those the first; and a
-- node with several aliases is filled once. Data is shown down to a depth,
-- since a collection may hold itself.
import ImportLift.Yaml.Graph.Reader
import ImportLift.Yaml.Value

namespace ImportLift.Yaml

/-- What a node stands for; other nodes are given by their numbers. -/
inductive Shape
  | value (data : Data)
  | list (items : List Nat)
  /-- A list of pairs, which are no settings themselves. -/
  | pairs (count : Nat)
  | set (members : List Nat)
  | mapping (fields : List (Nat × Nat))

namespace Shape

/-- The shape is a value that can be a key. -/
def isValue : Shape → Bool
  | value _ => true
  | _ => false

/-- The data of a shape, where `data` gives that of other nodes. -/
def view (data : Nat → Data) : Shape → Data
  | value found => found
  | list items => .list (items.map data)
  | pairs count => .list (List.replicate count .other)
  | set members => .set (members.map data)
  | mapping fields => .mapping (fields.map fun f => (data f.1, data f.2))

end Shape

/-- A graph whose nodes are turned into shapes. -/
structure Builder where
  graph : Graph
  /-- The shapes by number; a collection that waits to be filled is empty. -/
  shapes : Array (Option Shape)
  /-- The collections met in this round, the last first. -/
  met : List Nat := []

namespace Builder

/-- The shape of a node, if it was met. -/
def shape? (b : Builder) (n : Nat) : Option Shape := b.shapes.getD n none

/-- The builder in which a node has the shape. -/
def put (b : Builder) (n : Nat) (shape : Shape) : Builder :=
  { b with shapes := b.shapes.modify n fun _ => some shape }

/-- The builder that has met a collection. -/
def await (b : Builder) (n : Nat) (shape : Shape) : Builder :=
  { b.put n shape with met := n :: b.met }

/-- The value of a node with the tag of a scalar. A point in time has to be
written as a scalar. -/
def valueAt (b : Builder) (tag : Tag) (n : Nat) : Except Fault Data := do
  let text ← b.graph.text (b.graph.nodes.size + 1) n
  if tag = .timestamp && (b.graph.node n).isMapping then throw .mappedMoment
  valueOf tag text

/-- Meets a node: a scalar gets its value, and a collection waits for the next
round. -/
def visit (b : Builder) (n : Nat) : Except Fault Builder :=
  if (b.shape? n).isSome then .ok b
  else
    match (b.graph.node n).tag with
    | .sequence => .ok (b.await n (.list []))
    | .pairs => .ok (b.await n (.pairs 0))
    | .set => .ok (b.await n (.set []))
    | .mapping => .ok (b.await n (.mapping []))
    | tag => (b.valueAt tag n).map fun data => b.put n (.value data)

/-- Meets the key and the value of a field. A collection cannot be a key. -/
def visitField (b : Builder) (field : Nat × Nat) : Except Fault Builder := do
  let b ← b.visit field.1
  if (b.shape? field.1).any Shape.isValue then b.visit field.2 else .error .malformed

/-- Meets the key and the value of the only field of a mapping; here any node
can be a key. -/
def visitPair (b : Builder) (n : Nat) : Except Fault Builder :=
  match (b.graph.node n).content with
  | .mapping [(key, value)] => do (← b.visit key).visit value
  | _ => .error .malformed

/-- Fills a mapping, or a set, which is a mapping of its members. -/
def fillFields (b : Builder) (n : Nat) (shape : List (Nat × Nat) → Shape) :
    Except Fault Builder :=
  if (b.graph.node n).isMapping then do
    let graph ← b.graph.flatten n
    let fields := graph.fields n
    let b ← fields.foldlM visitField { b with graph }
    return b.put n (shape fields)
  else .error .malformed

/-- Fills a collection with what it holds. -/
def fill (b : Builder) (n : Nat) : Except Fault Builder :=
  let node := b.graph.node n
  match b.shape? n, node.content with
  | some (.mapping _), _ => b.fillFields n .mapping
  | some (.set _), _ => b.fillFields n fun fields => .set (fields.map (·.1))
  | some (.list _), .sequence items => do
    let b ← items.foldlM visit b
    return b.put n (.list items)
  | some (.pairs _), .sequence items => do
    let b ← items.foldlM visitPair b
    return b.put n (.pairs items.length)
  | _, _ => .error .malformed

/-- Fills collections round by round; the first argument bounds the number of
rounds. -/
def rounds : Nat → Builder → Except Fault Builder
  | 0, b => .ok b
  | fuel + 1, b =>
    if b.met.isEmpty then .ok b
    else do
      let b ← b.met.reverse.foldlM fill { b with met := [] }
      rounds fuel b

/-- The data of all nodes, shown down to a depth. -/
def views (b : Builder) : Nat → Array Data
  | 0 => b.shapes.map fun _ => .other
  | depth + 1 =>
    let below := b.views depth
    b.shapes.map fun shape =>
      match shape with
      | none => .other
      | some shape => shape.view fun n => below.getD n .other

end Builder

/-- The data of a node of a graph, shown down to a depth. -/
def Graph.data (g : Graph) (root depth : Nat) : Except Fault Data := do
  let b : Builder := { graph := g, shapes := Array.replicate g.nodes.size none }
  let b ← (← b.visit root).rounds (g.nodes.size + 1)
  return (b.views depth).getD root .other

/-- The data of a document, shown down to a depth; a document without content is null. -/
def read (depth : Nat) (text : Text) : Except Fault Data := do
  match ← Graph.ofTokens? (tokens text) with
  | none => return .null
  | some (root, graph) => graph.data root depth

end ImportLift.Yaml
