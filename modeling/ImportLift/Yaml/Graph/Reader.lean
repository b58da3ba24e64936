-- Building the graph of a document from its tokens. An alias is the node of
-- its anchor, which is known as soon as the node starts. Where the tokens are
-- broken, the fault counts when the reading comes to it.
import ImportLift.Yaml.Graph
import ImportLift.Yaml.Token

namespace ImportLift.Yaml.Graph

/-- The tokens that are left, the nodes so far, those of the anchors among
them, and the beginnings that tag handles stand for. -/
structure Reader where
  tokens : List Token
  graph : Graph := {}
  anchors : List (Text × Nat) := []
  handles : List (Text × Text) := [("!".toList, "!".toList), ("!!".toList, Tag.lead)]

/-- How deep nodes may be nested. -/
def maxNesting : Nat := 480

namespace Reader

def peek (r : Reader) : Token := r.tokens.headD .streamEnd

/-- The reader past one token. -/
def step (r : Reader) : Reader := { r with tokens := r.tokens.drop 1 }

/-- The token that comes next does not fit. -/
def refuse {α : Type} (r : Reader) : Except Fault α :=
  match r.peek with
  | .broken fault => .error fault
  | _ => .error .malformed

/-- The tokens are not broken here. -/
def unbroken (r : Reader) : Except Fault Unit :=
  match r.peek with
  | .broken fault => .error fault
  | _ => .ok ()

/-- One more node, known under its anchor. -/
def add (r : Reader) (anchor : Option Text) (node : Node) : Nat × Reader :=
  let (n, graph) := r.graph.add node
  let anchors := match anchor with
    | none => r.anchors
    | some name => (name, n) :: r.anchors
  (n, { r with graph, anchors })

/-- The node of a place where nothing is written. -/
def addEmpty (r : Reader) : Nat × Reader := r.add none .empty

/-- The reader once a node holds its content. -/
def fill (r : Reader) (n : Nat) (content : Content) : Reader :=
  { r with graph := r.graph.fill n content }

/-- The full name of a tag. -/
def tagName (r : Reader) : Option Text × Text → Except Fault Text
  | (none, rest) => .ok rest
  | (some handle, rest) =>
    match r.handles.lookup handle with
    | some lead => .ok (lead ++ rest)
    | none => .error .malformed

/-- The anchor and the tag in front of a node, in either order. -/
def properties (r : Reader) : Option Text × Option (Option Text × Text) × Reader :=
  match r.peek, r.step.peek with
  | .anchor name, .tag handle rest => (some name, some (handle, rest), r.step.step)
  | .tag handle rest, .anchor name => (some name, some (handle, rest), r.step.step)
  | .anchor name, _ => (some name, none, r.step)
  | .tag handle rest, _ => (none, some (handle, rest), r.step)
  | _, _ => (none, none, r)

end Reader

/-- The kind of a collection: its own unless a tag says otherwise. -/
def collectionTag (own : Tag) : Option Text → Tag
  | none => own
  | some ['!'] => own
  | some name => .ofName name

/-- The kind of a scalar. -/
def scalarTag (plain : Bool) (text : Text) : Option Text → Tag
  | none => if plain then .ofPlain text else .text
  | some ['!'] => .ofPlain text
  | some name => .ofName name

/-- The token ends a key or a value of a block mapping. -/
def endsField : Token → Bool
  | .key => true
  | .value => true
  | .blockEnd => true
  | _ => false

/-- The token ends an entry of a sequence in brackets. -/
def endsFlowItem : Token → Bool
  | .flowEntry => true
  | .flowSequenceEnd => true
  | _ => false

/-- The token ends a key or a value of a mapping in braces. -/
def endsFlowField : Token → Bool
  | .flowEntry => true
  | .flowMappingEnd => true
  | _ => false

/-- What starts at a token: nothing, a scalar, or a collection. -/
inductive Start
  | nothing
  | scalar (text : Text) (plain : Bool)
  | bareItems
  | blockItems
  | blockFields
  | flowItems
  | flowFields

/-- What a token starts. `block` says whether it may be a block collection,
`bare` whether it may be a sequence whose dashes are not indented. -/
def Start.of (block bare : Bool) : Token → Start
  | .blockEntry => if bare then bareItems else nothing
  | .scalar text plain => scalar text plain
  | .flowSequence => flowItems
  | .flowMapping => flowFields
  | .blockSequence => if block then blockItems else nothing
  | .blockMapping => if block then blockFields else nothing
  | _ => nothing

mutual

/-- A node, below which nodes may be nested `room` deep. -/
def read : Nat → Nat → Bool → Bool → Reader → Except Fault (Nat × Reader)
  | 0, _, _, _, _ => .error .malformed
  | _, 0, _, _, _ => .error .tooDeep
  | fuel + 1, room + 1, block, bare, r =>
    match r.peek with
    | .alias name =>
      match r.anchors.lookup name with
      | some n => .ok (n, r.step)
      | none => .error .malformed
    | _ => do
      let (anchor, tag, r) := r.properties
      if anchor.isNone then r.unbroken
      let tag ← tag.mapM r.tagName
      r.unbroken
      if anchor.any fun name => (r.anchors.lookup name).isSome then throw .malformed
      match Start.of block bare r.peek with
      | .nothing =>
        if anchor.isNone && tag.isNone then .error .malformed
        else return r.add anchor ⟨scalarTag true [] tag, .scalar []⟩
      | .scalar text plain => return r.step.add anchor ⟨scalarTag plain text tag, .scalar text⟩
      | .bareItems => do
        let (n, r) := r.add anchor ⟨collectionTag .sequence tag, .sequence []⟩
        let (items, r) ← bareItems fuel room r
        return (n, r.fill n (.sequence items))
      | .blockItems => do
        let (n, r) := r.step.add anchor ⟨collectionTag .sequence tag, .sequence []⟩
        let (items, r) ← blockItems fuel room r
        return (n, r.fill n (.sequence items))
      | .flowItems => do
        let (n, r) := r.step.add anchor ⟨collectionTag .sequence tag, .sequence []⟩
        let (items, r) ← flowItems fuel room true r
        return (n, r.fill n (.sequence items))
      | .blockFields => do
        let (n, r) := r.step.add anchor ⟨collectionTag .mapping tag, .mapping []⟩
        let (fields, r) ← blockFields fuel room r
        return (n, r.fill n (.mapping fields))
      | .flowFields => do
        let (n, r) := r.step.add anchor ⟨collectionTag .mapping tag, .mapping []⟩
        let (fields, r) ← flowFields fuel room true r
        return (n, r.fill n (.mapping fields))

/-- The entries of a block sequence, up to its end. -/
def blockItems : Nat → Nat → Reader → Except Fault (List Nat × Reader)
  | 0, _, _ => .error .malformed
  | fuel + 1, room, r =>
    match r.peek with
    | .blockEntry => do
      let r := r.step
      let (item, r) ←
        if r.peek = .blockEntry || r.peek = .blockEnd then pure r.addEmpty
        else read fuel room true false r
      let (items, r) ← blockItems fuel room r
      return (item :: items, r)
    | .blockEnd => .ok ([], r.step)
    | _ => r.refuse

/-- The entries of a sequence whose dashes are not indented. -/
def bareItems : Nat → Nat → Reader → Except Fault (List Nat × Reader)
  | 0, _, _ => .error .malformed
  | fuel + 1, room, r =>
    match r.peek with
    | .blockEntry => do
      let r := r.step
      let (item, r) ←
        if endsField r.peek || r.peek = .blockEntry then pure r.addEmpty
        else read fuel room true false r
      let (items, r) ← bareItems fuel room r
      return (item :: items, r)
    | _ => .ok ([], r)

/-- The fields of a block mapping, up to its end. -/
def blockFields : Nat → Nat → Reader → Except Fault (List (Nat × Nat) × Reader)
  | 0, _, _ => .error .malformed
  | fuel + 1, room, r =>
    match r.peek with
    | .key => do
      let r := r.step
      let (key, r) ← if endsField r.peek then pure r.addEmpty else read fuel room true true r
      let (value, r) ←
        if r.peek ≠ .value then pure r.addEmpty
        else if endsField r.step.peek then pure r.step.addEmpty
        else read fuel room true true r.step
      let (fields, r) ← blockFields fuel room r
      return ((key, value) :: fields, r)
    | .blockEnd => .ok ([], r.step)
    | _ => r.refuse

/-- The key and the value of a field inside brackets or braces, behind the mark
of its key. -/
def flowField : Nat → Nat → (Token → Bool) → Reader → Except Fault ((Nat × Nat) × Reader)
  | 0, _, _, _ => .error .malformed
  | fuel + 1, room, ends, r => do
    let (key, r) ←
      if ends r.peek || r.peek = .value then pure r.addEmpty else read fuel room false false r
    let (value, r) ←
      if r.peek ≠ .value then pure r.addEmpty
      else if ends r.step.peek then pure r.step.addEmpty
      else read fuel room false false r.step
    return ((key, value), r)

/-- The entries of a sequence in brackets, up to its end. A key in it makes a
mapping of one field. -/
def flowItems : Nat → Nat → Bool → Reader → Except Fault (List Nat × Reader)
  | 0, _, _, _ => .error .malformed
  | fuel + 1, room, first, r =>
    if r.peek = .flowSequenceEnd then .ok ([], r.step)
    else do
      let r ← if first then pure r else if r.peek = .flowEntry then pure r.step else r.refuse
      match r.peek with
      | .flowSequenceEnd => return ([], r.step)
      | .key => do
        let (n, r) := r.step.add none ⟨.mapping, .mapping []⟩
        let (field, r) ← flowField fuel (room - 1) endsFlowItem r
        let (items, r) ← flowItems fuel room false (r.fill n (.mapping [field]))
        return (n :: items, r)
      | _ => do
        let (item, r) ← read fuel room false false r
        let (items, r) ← flowItems fuel room false r
        return (item :: items, r)

/-- The fields of a mapping in braces, up to its end. -/
def flowFields : Nat → Nat → Bool → Reader → Except Fault (List (Nat × Nat) × Reader)
  | 0, _, _, _ => .error .malformed
  | fuel + 1, room, first, r =>
    if r.peek = .flowMappingEnd then .ok ([], r.step)
    else do
      let r ← if first then pure r else if r.peek = .flowEntry then pure r.step else r.refuse
      match r.peek with
      | .flowMappingEnd => return ([], r.step)
      | .key => do
        let (field, r) ← flowField fuel room endsFlowField r.step
        let (fields, r) ← flowFields fuel room false r
        return (field :: fields, r)
      | _ => do
        let (key, r) ← read fuel room false false r
        let (value, r) := r.addEmpty
        let (fields, r) ← flowFields fuel room false r
        return ((key, value) :: fields, r)

end

/-! ## Documents -/

/-- The directives in front of a document: one version at most, which starts
with 1, and each tag handle once. -/
def directives : List Token → Bool → List (Text × Text) →
    Except Fault (List (Text × Text) × List Token)
  | .directive .unknown :: rest, version, handles => directives rest version handles
  | .directive (.version major) :: rest, version, handles =>
    if version || major ≠ 1 then .error .malformed else directives rest true handles
  | .directive (.tag handle lead) :: rest, version, handles =>
    if (handles.lookup handle).isSome then .error .malformed
    else directives rest version ((handle, lead) :: handles)
  | tokens, _, handles => .ok (handles, tokens)

/-- The token ends a document or comes before one. -/
def isOutside : Token → Bool
  | .directive _ => true
  | .documentStart => true
  | .documentEnd => true
  | .streamEnd => true
  | _ => false

/-- Nothing may follow a document but marks that end documents. -/
def close (r : Reader) : Except Fault Unit :=
  match r.tokens.dropWhile (· = .documentEnd) with
  | .streamEnd :: _ => .ok ()
  | tokens => do
    let (_, tokens) ← directives tokens false []
    Reader.refuse { r with tokens }

/-- The root node of a document, behind which nothing may follow, and its graph. -/
def content (r : Reader) : Except Fault (Nat × Graph) := do
  let (root, r) ← read (4 * r.tokens.length + 4) maxNesting true false r
  close r
  return (root, r.graph)

/-- The root node and the graph of the only document, if there is one. -/
def ofTokens? (tokens : List Token) : Except Fault (Option (Nat × Graph)) :=
  match tokens with
  | .streamEnd :: _ => .ok none
  | .directive _ :: _ | .documentStart :: _ => do
    let (handles, tokens) ← directives tokens false []
    let r : Reader := { tokens }
    let r := { r with handles := handles ++ r.handles }
    if r.peek ≠ .documentStart then r.refuse
    else if isOutside r.step.peek then
      let (root, r) := r.step.addEmpty
      close r
      return some (root, r.graph)
    else return some (← content r.step)
  | tokens => (content { tokens }).map some

end ImportLift.Yaml.Graph
