-- The nodes of a document: scalars, sequences and mappings, each with its
-- kind. A node is known by its number, so that every alias of an anchor is
-- the same node, also inside the collection that it names. A merge key brings
-- the fields of other mappings into its own.
import ImportLift.Yaml.Fault
import ImportLift.Yaml.Tag

namespace ImportLift.Yaml

/-- What a node holds; other nodes are given by their numbers. -/
inductive Content
  | scalar (text : Text)
  | sequence (items : List Nat)
  | mapping (fields : List (Nat × Nat))
deriving DecidableEq, Repr

structure Node where
  tag : Tag
  content : Content
deriving DecidableEq, Repr

namespace Node

/-- The node of a place where nothing is written. -/
def empty : Node := ⟨.null, .scalar []⟩

def isMapping (n : Node) : Bool :=
  match n.content with
  | .mapping _ => true
  | _ => false

end Node

/-- The nodes of a document by number. -/
structure Graph where
  nodes : Array Node := #[]
deriving DecidableEq, Repr

namespace Graph

/-- The node with a number. -/
def node (g : Graph) (n : Nat) : Node := g.nodes.getD n .empty

/-- One more node, and its number. -/
def add (g : Graph) (node : Node) : Nat × Graph := (g.nodes.size, ⟨g.nodes.push node⟩)

/-- The graph in which a node holds the content. -/
def fill (g : Graph) (n : Nat) (content : Content) : Graph :=
  ⟨g.nodes.modify n fun node => { node with content }⟩

/-- The graph in which a node has the kind. -/
def retag (g : Graph) (n : Nat) (tag : Tag) : Graph :=
  ⟨g.nodes.modify n fun node => { node with tag }⟩

/-- The fields of a mapping; of any other node, none. -/
def fields (g : Graph) (n : Nat) : List (Nat × Nat) :=
  match (g.node n).content with
  | .mapping fields => fields
  | _ => []

/-- The number of fields of all mappings. -/
def fieldCount (g : Graph) : Nat :=
  g.nodes.foldl (fun count node => count + match node.content with
    | .mapping fields => fields.length
    | _ => 0) 0

/-! ## Scalars -/

/-- The text of a scalar. A mapping stands for the scalar under its key for a
default value. The first argument bounds the number of such steps. -/
def text (g : Graph) : Nat → Nat → Except Fault Text
  | 0, _ => .error .tooDeep
  | fuel + 1, n =>
    match (g.node n).content with
    | .scalar text => .ok text
    | .sequence _ => .error .malformed
    | .mapping fields =>
      match fields.find? fun f => (g.node f.1).tag = .value with
      | some f => g.text fuel f.2
      | none => .error .malformed

/-! ## Merge keys -/

/-- The graph in which the key for a default value is a text wherever it is a
key of the given fields. -/
def plainKeys (g : Graph) (fields : List (Nat × Nat)) : Graph :=
  fields.foldl (fun g f => if (g.node f.1).tag = .value then g.retag f.1 .text else g) g

/-- The graph in which a mapping has no merge keys: the fields of the mappings
that they name come first, those of a sequence of mappings from its last to
its first. `merged` holds the fields found so far; the first argument bounds
the number of merge keys. -/
def flattenFrom : Nat → Graph → Nat → List (Nat × Nat) → Except Fault Graph
  | 0, _, _, _ => .error .malformed
  | fuel + 1, g, n, merged =>
    let own := g.fields n
    match own.find? fun f => (g.node f.1).tag = .merge with
    | none => .ok ((g.fill n (.mapping (merged ++ own))).plainKeys own)
    | some (key, source) =>
      let g := g.fill n (.mapping (own.erase (key, source)))
      match (g.node source).content with
      | .scalar _ => .error .malformed
      | .mapping _ => do
        let g ← flattenFrom fuel g source []
        flattenFrom fuel g n (merged ++ g.fields source)
      | .sequence items => do
        let (g, found) ← items.foldlM (fun (g, found) item => do
          if (g.node item).isMapping then
            let g ← flattenFrom fuel g item []
            return (g, g.fields item ++ found)
          else .error .malformed) (g, [])
        flattenFrom fuel g n (merged ++ found)

/-- The graph in which a mapping has no merge keys. -/
def flatten (g : Graph) (n : Nat) : Except Fault Graph :=
  if (g.fields n).any fun f => (g.node f.1).tag = .merge then
    flattenFrom (g.fieldCount + 1) g n []
  else .ok (g.plainKeys (g.fields n))

end Graph

end ImportLift.Yaml
