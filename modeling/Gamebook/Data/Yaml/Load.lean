import Gamebook.Data.Yaml.Node
import Gamebook.Data.Yaml.Scalar
/- Building data from the node graph of a YAML document. Scalars are built as their tags say;
   an unknown tag is an error. A collection is made first and filled later, level by level from
   the root, so a node reached twice is built once and a collection may hold itself. A mapping
   merges the entries of the mappings under its `<<` keys in front of its own, and its keys
   must be scalars; a later equal key replaces the value of the first. -/
namespace Gamebook.Yaml

/-- A key of a map or set under construction: its value, and for a NaN made anew the node that
made it. Keys are equal as values, but a NaN equals no NaN by value: two NaN keys are the same
key only when they are one value, the shared `.nan` or the NaN of one node. -/
structure Key where
  value : Value
  fresh : Option Nat
  deriving Inhabited

/-- Whether two keys are the same key. -/
def Key.same (a b : Key) : Bool :=
  match a.value, b.value with
  | .float x, .float y => if x.isNaN && y.isNaN then a.fresh == b.fresh else Value.sameKey a.value b.value
  | _, _ => Value.sameKey a.value b.value

/-- What a node is built into so far: a value, or a collection to be filled from its nodes. -/
inductive Shell where
  | done (v : Value)
  | list (items : List Nat)
  | map (entries : List (Key × Nat))
  | set (keys : List Key)
  /-- an ordered map (`ordered`) or a list of pairs -/
  | pairs (ordered : Bool) (entries : List (Nat × Nat))
  deriving Inhabited

/-- The state of building. -/
structure BuildState where
  nodes : Array Node
  built : Array (Option Shell)
  /-- collections made and not yet filled, oldest first -/
  waiting : List Nat := []
  /-- nodes built into a NaN made anew -/
  fresh : List Nat := []
  deriving Inhabited

abbrev BuildM := StateT BuildState (Except Error)

/-- Set a key of a map under construction: an equal key keeps its place and first spelling. -/
def setEntry : List (Key × Nat) → Key → Nat → List (Key × Nat)
  | [], k, v => [(k, v)]
  | (k', v') :: rest, k, v => if k'.same k then (k', v) :: rest else (k', v') :: setEntry rest k v

/-- Add a key to a set under construction, unless an equal one is in it. -/
def addKey (keys : List Key) (k : Key) : List Key :=
  if keys.any (·.same k) then keys else keys ++ [k]

namespace BuildM

def node (id : Nat) : BuildM Node := return (← get).nodes.getD id default

def store (id : Nat) (sh : Shell) : BuildM Unit :=
  modify fun s => { s with built := s.built.set! id (some sh) }

/-- Make an empty collection for a node, to be filled later. -/
def make (id : Nat) (sh : Shell) : BuildM Unit := do
  store id sh
  modify fun s => { s with waiting := s.waiting ++ [id] }

/-- The value of a scalar text with a standard scalar tag. -/
def scalarValue (tag : String) (text : List Nat) (start : Mark) : Except Error Value :=
  if tag == stdTag "null" then .ok .null
  else if tag == stdTag "bool" then (boolOf text).map .bool
  else if tag == stdTag "int" then (intOf text).map .int
  else if tag == stdTag "float" then (floatOf text).map .float
  else if tag == stdTag "binary" then (bytesOf text start).map .bytes
  else if tag == stdTag "timestamp" then (stampOf text).map .stamp
  else .ok (Value.ofCodes text)

def scalarTags : List String := ["null", "bool", "int", "float", "binary", "timestamp", "str"].map stdTag

/-- The text a scalar tag reads from a node: a scalar's own text; for a mapping, the text of the
node under its first `=` key, followed through mappings in turn. A chain that comes back to
itself never ends: `fuel` runs out. -/
def scalarText : Nat → Nat → BuildM (List Nat)
  | 0, _ => throw Error.tooDeep
  | fuel + 1, id => do
    let n ← node id
    match n.content with
    | .scalar text => return text
    | .mapping entries =>
      let nodes := (← get).nodes
      match entries.find? (fun (k, _) => (nodes.getD k default).tag == stdTag "value") with
      | some (_, v) => scalarText fuel v
      | none => throw (Error.bare "expected a scalar node, but found mapping" n.start)
    | other => throw (Error.bare ("expected a scalar node, but found " ++ other.kindName) n.start)

/-- Build a node, unless it is built already: a scalar at once, a collection as an empty one. -/
def construct (id : Nat) : BuildM Unit := do
  if ((← get).built.getD id none).isSome then return
  let n ← node id
  let t := n.tag
  if t == stdTag "seq" then make id (.list [])
  else if t == stdTag "map" then make id (.map [])
  else if t == stdTag "set" then make id (.set [])
  else if t == stdTag "omap" then make id (.pairs true [])
  else if t == stdTag "pairs" then make id (.pairs false [])
  else if scalarTags.contains t then
    let text ← scalarText ((← get).nodes.size + 1) id
    -- a timestamp is matched against the node's own content, which for a mapping is a list
    if t == stdTag "timestamp" then
      if let .mapping _ := n.content then throw (.notText "list")
    match scalarValue t text n.start with
    | .ok v =>
      store id (.done v)
      if let .float x := v then
        if x.isNaN && !isSharedNaN text then
          modify fun s => { s with fresh := id :: s.fresh }
    | .error e => throw e
  else throw (Error.bare ("could not determine a constructor for the tag " ++ textLiteral t) n.start)

/-- The built key of a key node: a scalar, as a collection cannot be a key. -/
def keyOf (map key : Nat) : BuildM Key := do
  match (← get).built.getD key none with
  | some (.done v) => return ⟨v, if (← get).fresh.contains key then some key else none⟩
  | _ => throw (Error.within "while constructing a mapping" (← node map).start "found unhashable key"
      (← node key).start)

/-- The entries of a mapping node with its merge keys resolved: the entries of the merged
mappings (flattened first, a list of them taken last to first) go in front. The node is
rewritten to its flattened entries, and `=` keys become text. -/
def flatten : Nat → Nat → BuildM (List (Nat × Nat))
  | 0, _ => return []
  | fuel + 1, id => do
    let n ← node id
    let .mapping entries := n.content | return []
    let mut merged : List (Nat × Nat) := []
    let mut own : List (Nat × Nat) := []
    for (k, v) in entries do
      let kn ← node k
      if kn.tag == stdTag "merge" then
        -- the merge key leaves the node before its value is flattened
        modify fun s => { s with nodes := s.nodes.modify id fun n =>
          match n.content with
          | .mapping es => { n with content := .mapping (es.erase (k, v)) }
          | _ => n }
        let vn ← node v
        match vn.content with
        | .mapping _ =>
          merged := merged ++ (← flatten fuel v)
        | .sequence subs =>
          let mut groups : List (List (Nat × Nat)) := []
          for sub in subs do
            let sn ← node sub
            match sn.content with
            | .mapping _ => groups := (← flatten fuel sub) :: groups
            | other =>
              throw (Error.within "while constructing a mapping" n.start
                ("expected a mapping for merging, but found " ++ other.kindName) sn.start)
          merged := merged ++ groups.flatten
        | other =>
          throw (Error.within "while constructing a mapping" n.start
            ("expected a mapping or list of mappings for merging, but found " ++ other.kindName)
            vn.start)
      else
        if kn.tag == stdTag "value" then
          modify fun s => { s with nodes := s.nodes.modify k fun n => { n with tag := stdTag "str" } }
        own := own ++ [(k, v)]
    let result := merged ++ own
    modify fun s => { s with nodes := s.nodes.modify id fun n => { n with content := .mapping result } }
    return result

/-- Fill a collection made earlier from the nodes inside it. -/
def fill (id : Nat) : BuildM Unit := do
  let n ← node id
  match (← get).built.getD id none with
  | some (.list _) =>
    let .sequence items := n.content
      | throw (Error.bare ("expected a sequence node, but found " ++ n.content.kindName) n.start)
    for c in items do construct c
    store id (.list items)
  | some (.map _) | some (.set _) =>
    let isSet := match (← get).built.getD id none with
      | some (.set _) => true
      | _ => false
    let .mapping _ := n.content
      | throw (Error.bare ("expected a mapping node, but found " ++ n.content.kindName) n.start)
    let entries ← flatten ((← get).nodes.size + 1) id
    let mut acc : List (Key × Nat) := []
    let mut keys : List Key := []
    for (k, v) in entries do
      construct k
      let key ← keyOf id k
      construct v
      acc := setEntry acc key v
      keys := addKey keys key
    store id (if isSet then .set keys else .map acc)
  | some (.pairs ordered _) =>
    let context := if ordered then "while constructing an ordered map" else "while constructing pairs"
    let .sequence subs := n.content
      | throw (Error.within context n.start ("expected a sequence, but found " ++ n.content.kindName)
          n.start)
    let mut acc : List (Nat × Nat) := []
    for sub in subs do
      let sn ← node sub
      match sn.content with
      | .mapping [(k, v)] =>
        construct k
        construct v
        acc := acc ++ [(k, v)]
      | .mapping es =>
        throw (Error.within context n.start
          ("expected a single mapping item, but found " ++ toString es.length ++ " items") sn.start)
      | other =>
        throw (Error.within context n.start
          ("expected a mapping of length 1, but found " ++ other.kindName) sn.start)
    store id (.pairs ordered acc)
  | _ => pure ()

/-- Fill the collections made so far, round by round: those made while filling one round wait
for the next. -/
def fillAll : Nat → BuildM Unit
  | 0 => pure ()
  | fuel + 1 => do
    let batch := (← get).waiting
    if batch.isEmpty then return
    modify fun s => { s with waiting := [] }
    for id in batch do fill id
    fillAll fuel

end BuildM

/-- The value a built node stands for, to a depth; deeper collections are left empty. -/
def Shell.value (built : Array (Option Shell)) : Nat → Nat → Value
  | 0, id => match built.getD id none with
    | some (.done v) => v
    | some (.map _) => .map []
    | some (.set _) => .set []
    | _ => .list []
  | fuel + 1, id => match built.getD id none with
    | some (.done v) => v
    | some (.list items) => .list (items.map (Shell.value built fuel))
    | some (.map entries) => .map (entries.map fun (k, v) => (k.value, Shell.value built fuel v))
    | some (.set keys) => .set (keys.map (·.value))
    | some (.pairs _ entries) =>
      .list (entries.map fun (k, v) => .list [Shell.value built fuel k, Shell.value built fuel v])
    | none => .null

/-- How deep built data is spelled out; a collection may hold itself, and a snapshot is read to
depth two. -/
def valueDepth : Nat := 6

/-- Read the data of a YAML text given as code points, with `room` calls left: null for a text
without a document. -/
def load (room : Nat) (text : List Nat) : Except Error Value := do
  let (nodes, root) ← Node.graph room text
  match root with
  | none => return .null
  | some r =>
    let start : BuildState := { nodes, built := Array.replicate nodes.size none }
    let ((), s) ← (do BuildM.construct r; BuildM.fillAll (nodes.size + 1)).run start
    return Shell.value s.built valueDepth r

/-- The message of an error in reading a YAML text. -/
def errorText (text : List Nat) (e : Error) : String :=
  e.message (Codes.chars text ++ ['\x00']).toArray

end Gamebook.Yaml
