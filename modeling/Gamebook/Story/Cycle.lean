import Gamebook.Story.Basic
/- A cycle among the pages: a depth-first search over the links between declared pages, roots
   taken in declaration order. The search keeps the nodes it has entered and, apart, those whose
   calls are still open; a link back to an open node closes a cycle, reported as the path from
   that node on, followed by the node again. Each call takes room on the call stack, and the
   search gives out when a path of links runs deeper than the room allows. -/
namespace Gamebook

/-- The links between declared pages: for each page with such links, its targets in order. -/
def Document.linkGraph (d : Document) : List (String × List String) :=
  d.pages.filterMap fun (n, p) =>
    match (p.choices.map (·.link)).filter fun l => l != endName && d.declares l with
    | [] => none
    | ls => some (n, ls)

namespace Cycle

/-- The targets of a node in a graph. -/
def targets (g : List (String × List String)) (n : String) : List String := (g.lookup n).getD []

/-- Why a search gives no answer: the calls nest deeper than the room left, or a node counted as
open is missing from the path, where its position is looked up. -/
inductive Fault where
  | tooDeep
  | notOnPath (n : String)
  deriving DecidableEq, Repr

/-- What the calls of a search share: the nodes entered so far, and the nodes whose calls are
open, in the order they were entered. -/
structure Marks where
  visited : List String
  stack : List String
  deriving DecidableEq, Repr

/-- What a call answers: the marks it leaves, and a cycle if it met one. -/
abbrev Answer := Except Fault (Marks × Option (List String))

/-- Follow the links `ns` of the node that ends `path`, in order: enter a new node by `visit`, and
stop at the first cycle, met inside a call or as a link back to an open node. -/
def follow (visit : Marks → List String → String → Answer) (path : List String) (m : Marks) :
    List String → Answer
  | [] => .ok (m, none)
  | n :: ns =>
    if !m.visited.contains n then
      match visit m path n with
      | .ok (m', none) => follow visit path m' ns
      | r => r
    else if m.stack.contains n then
      match path.idxOf? n with
      | some i => .ok (m, some (path.drop i ++ [n]))
      | none => .error (.notOnPath n)
    else follow visit path m ns

/-- Search from `start` below the nodes of `path`, with `room` calls left to the caller: the call
takes one and marking the node another. The node is marked entered and open, its links are
followed, and if they close no cycle its call is closed again. -/
def search (g : List (String × List String)) : Nat → Marks → List String → String → Answer
  | room + 2, m, path, start =>
    let path := path ++ [start]
    match follow (search g (room + 1)) path ⟨start :: m.visited, m.stack ++ [start]⟩ (targets g start) with
    | .ok (m', none) => .ok (⟨m'.visited, m'.stack.erase start⟩, none)
    | r => r
  | _, _, _, _ => .error .tooDeep

/-- Search from each root in turn that no earlier search entered, with no call open, until one
meets a cycle. -/
def fromRoots (g : List (String × List String)) (room : Nat) (visited : List String) :
    List String → Except Fault (Option (List String))
  | [] => .ok none
  | n :: ns =>
    if visited.contains n then fromRoots g room visited ns else
    match search g room ⟨visited, []⟩ [] n with
    | .ok (m, none) => fromRoots g room m.visited ns
    | .ok (_, some c) => .ok (some c)
    | .error e => .error e

end Cycle

/-- A cycle of the link graph, if there is one: the first one the search meets, the pages with
links taken as roots in declaration order, with `room` calls left. -/
def Document.findCycleWithin (d : Document) (room : Nat) : Except Cycle.Fault (Option (List String)) :=
  Cycle.fromRoots d.linkGraph room [] (d.linkGraph.map (·.1))

/-- A cycle of the link graph, if there is one, as a search with room for a call per page finds
it. -/
def Document.findCycle (d : Document) : Option (List String) :=
  match d.findCycleWithin (d.size + 1) with
  | .ok c => c
  | .error _ => none

end Gamebook
