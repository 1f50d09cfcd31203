import Gamebook.Data.Yaml.Event
import Gamebook.Data.Yaml.Resolve
/- The node graph of a YAML document. Nodes are numbered in the order they start; an alias is
   the node its anchor names, so one node may be reached twice, and a collection may even hold
   itself. Every node gets a tag: the one written, or for an untagged plain scalar the type its
   text resolves to, text for a quoted one, and sequence or mapping for collections. A stream
   must hold at most one document. -/
namespace Gamebook.Yaml

/-- What a node holds: a scalar's text as code points, or the numbers of a collection's nodes. -/
inductive Content where
  | scalar (text : List Nat)
  | sequence (items : List Nat)
  | mapping (entries : List (Nat × Nat))
  deriving DecidableEq, Repr, Inhabited

/-- A node of the graph: its full tag, content and starting mark. -/
structure Node where
  tag : String
  content : Content
  start : Mark
  deriving DecidableEq, Repr, Inhabited

/-- The kind of a node, as error messages name it. -/
def Content.kindName : Content → String
  | scalar _ => "scalar"
  | sequence _ => "sequence"
  | mapping _ => "mapping"

/-- The full tags of the standard types. -/
def stdTag (name : String) : String := "tag:yaml.org,2002:" ++ name

/-- The tag of a type a plain scalar resolves to. -/
def Kind.tag : Kind → String
  | .bool => stdTag "bool"
  | .float => stdTag "float"
  | .int => stdTag "int"
  | .merge => stdTag "merge"
  | .null => stdTag "null"
  | .timestamp => stdTag "timestamp"
  | .value => stdTag "value"
  | .yaml => stdTag "yaml"
  | .str => stdTag "str"

/-- The state of building the graph. -/
structure NodeState where
  events : EventState
  nodes : Array Node := #[]
  anchors : List (String × Nat) := []
  deriving Inhabited

abbrev NodeM := StateT NodeState (Except Error)

namespace NodeM

def events {α : Type} (m : EventM α) : NodeM α := fun s =>
  match m.run s.events with
  | .ok (a, e) => .ok (a, { s with events := e })
  | .error e => .error e

/-- The next event, left in place, for a call at depth `d`. -/
def peekEvent (d : Nat) : NodeM Event := events (EventM.peekEvent d)

/-- Take the next event, for a call at depth `d`. -/
def nextEvent (d : Nat) : NodeM Event := events (EventM.nextEvent d)

/-- Add a node and name it by its anchor, if it has one. -/
def add (n : Node) (anchor : Option String) : NodeM Nat := do
  let s ← get
  let id := s.nodes.size
  set { s with
    nodes := s.nodes.push n,
    anchors := match anchor with
      | some a => (a, id) :: s.anchors
      | none => s.anchors }
  return id

def setContent (id : Nat) (c : Content) : NodeM Unit :=
  modify fun s => { s with nodes := s.nodes.modify id fun n => { n with content := c } }

def isSequenceEnd (e : Event) : Bool := e.kind == .sequenceEnd

def isMappingEnd (e : Event) : Bool := e.kind == .mappingEnd

/-- The tag of a collection: the one written, unless it is absent or the bare `!`. -/
def collectionTag (tag : Option String) (std : String) : String :=
  match tag with
  | some t => if t == "!" then stdTag std else t
  | none => stdTag std

/-- Read a node in a call at depth `d`, and the nodes inside it; `fuel` bounds the steps. The
node's events are looked at a call below; a scalar or collection is built two calls below, and
the nodes of a collection are read there, so each level of nesting takes two calls. -/
def node (d : Nat) : Nat → NodeM Nat
  | 0 => do throw (Error.bare "nesting too deep" (← peekEvent (d + 1)).start)
  | fuel + 1 => do
    let e ← peekEvent (d + 1)
    let anchor := match e.kind with
      | .scalar a _ _ _ _ _ | .sequenceStart a _ _ | .mappingStart a _ _ => a
      | _ => none
    if let .reference name := e.kind then
      discard (nextEvent (d + 1))
      match (← get).anchors.lookup name with
      | some id => return id
      | none => throw (Error.bare ("found undefined alias " ++ textLiteral name) e.start)
    if let some a := anchor then
      if let some id := (← get).anchors.lookup a then
        let first := ((← get).nodes.getD id default).start
        throw (Error.within ("found duplicate anchor " ++ textLiteral a ++ "; first occurrence") first
          "second occurrence" e.start)
    let bound := (← get).events.tokens.buf.size + 2
    match e.kind with
    | .scalar _ tag plainImplicit _ text _ =>
      discard (nextEvent (d + 2))
      events (EventM.reach (d + 1 + makeCalls))
      let tag := match tag with
        | some t => if t == "!" then (if plainImplicit then (resolve (Codes.chars text)).tag else stdTag "str") else t
        | none => if plainImplicit then (resolve (Codes.chars text)).tag else stdTag "str"
      add ⟨tag, .scalar text, e.start⟩ anchor
    | .sequenceStart _ tag _ =>
      discard (nextEvent (d + 2))
      events (EventM.reach (d + 1 + makeCalls))
      let id ← add ⟨collectionTag tag "seq", .sequence [], e.start⟩ anchor
      let mut items : List Nat := []
      for _ in [0:bound] do
        if isSequenceEnd (← peekEvent (d + 2)) then break
        items := items ++ [← node (d + 2) fuel]
      discard (nextEvent (d + 2))
      setContent id (.sequence items)
      return id
    | .mappingStart _ tag _ =>
      discard (nextEvent (d + 2))
      events (EventM.reach (d + 1 + makeCalls))
      let id ← add ⟨collectionTag tag "map", .mapping [], e.start⟩ anchor
      let mut entries : List (Nat × Nat) := []
      for _ in [0:bound] do
        if isMappingEnd (← peekEvent (d + 2)) then break
        let k ← node (d + 2) fuel
        let v ← node (d + 2) fuel
        entries := entries ++ [(k, v)]
      discard (nextEvent (d + 2))
      setContent id (.mapping entries)
      return id
    | _ => throw (Error.bare "expected a node" e.start)

/-- Read the one document of a stream, in a call at depth `d`: the number of its root node, or
none for an empty stream. A second document is an error. The document itself is read a call
below, and its root node there. -/
def document (d : Nat) : NodeM (Option Nat) := do
  discard (nextEvent (d + 1))
  let mut root : Option Nat := none
  unless (← peekEvent (d + 1)).kind == .streamEnd do
    discard (nextEvent (d + 2))
    root := some (← node (d + 2) ((← get).events.tokens.buf.size + 2))
    discard (nextEvent (d + 2))
    modify fun s => { s with anchors := [] }
  unless (← peekEvent (d + 1)).kind == .streamEnd do
    let e ← nextEvent (d + 1)
    let nodes := (← get).nodes
    let first := match root with
      | some id => (nodes.getD id default).start
      | none => default
    throw (Error.within "expected a single document in the stream" first
      "but found another document" e.start)
  discard (nextEvent (d + 1))
  return root

end NodeM

/-- The depth of the call that reads a stream's one document: three calls lead from the text to
its data and to that document. -/
def documentCalls : Nat := 4

/-- The node graph of a YAML text (as code points) with one document at most, and its root, read
with `room` calls left. -/
def Node.graph (room : Nat) (text : List Nat) : Except Error (Array Node × Option Nat) := do
  let tokens ← TokenState.start room text
  let (root, s) ← (NodeM.document documentCalls).run { events := { tokens } }
  return (s.nodes, root)

end Gamebook.Yaml
