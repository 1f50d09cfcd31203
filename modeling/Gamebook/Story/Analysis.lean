import Gamebook.Story.Reach
import Gamebook.Story.Cycle
import Gamebook.Text.Placeholder
import Gamebook.Number.Double
/- An inventory of a story that never fails: counts of pages, choices, guards and logic, the kinds
   of pages, links that lead nowhere, pages out of reach, a cycle, how variables are set and read,
   and warnings for likely mistakes. Sets of names are given sorted. -/
namespace Gamebook

/-- The inventory of a story. -/
structure Report where
  entry : String
  totalPages : Nat
  totalChoices : Nat
  guardedChoices : Nat
  totalLogics : Nat
  autoPages : List String
  endingPages : List String
  unresolvedLinks : List (String × List String)
  unreachablePages : List String
  cycle : Option (List String)
  assigned : List String
  tested : List String
  interpolated : List String
  neverAssigned : List String
  neverRead : List String
  maxChoices : Nat
  avgChoices : Double
  warnings : List String
  deriving Repr

/-- Names sorted by code point, each once. -/
def sortedNames (xs : List String) : List String :=
  (xs.mergeSort fun a b => decide (a ≤ b)).eraseDups

/-- The names of the placeholders of a text, in lowercase. -/
def placeholderVars (t : String) : List String :=
  (Text.placeholderNames t.toList).map fun n => String.ofList (Unicode.lower n)

namespace Document

/-- For each page with links that lead neither to the end nor to a declared page, those links,
each once, in order. -/
def unresolvedLinks (d : Document) : List (String × List String) :=
  d.pages.filterMap fun (n, p) =>
    match ((p.choices.map (·.link)).filter fun l => !d.resolves l).eraseDups with
    | [] => none
    | ls => some (n, ls)

/-- The inventory of a story. -/
def analyze (d : Document) : Report :=
  let pages := d.pages.map (·.2)
  let choices := pages.flatMap (·.choices)
  let assigned := sortedNames (pages.flatMap fun p => p.logics.map (·.lhs))
  let tested := sortedNames (choices.filterMap fun c => c.guard.map (·.lhs))
  let interpolated := sortedNames ((pages.flatMap (·.texts) ++
    choices.filterMap fun c => c.text.filter (!·.isEmpty)).flatMap placeholderVars)
  let read := sortedNames (tested ++ interpolated)
  let neverAssigned := read.filter fun n => !assigned.contains n
  let neverRead := assigned.filter fun n => !read.contains n
  let seen := d.reachable
  let unreachable := sortedNames (d.names.filter fun n => !seen.contains n)
  let unresolved := d.unresolvedLinks
  let ending := (d.pages.filter fun (_, p) => p.choices.any (·.isEnding)).map (·.1)
  let counts := pages.map (·.choices.length)
  let warnings :=
    (if d.declares d.entry then [] else ["Entry page is not declared: " ++ d.entry]) ++
    unresolved.map (fun (n, ls) => "Unresolved links from " ++ n ++ ": " ++ ", ".intercalate ls) ++
    (if unreachable.isEmpty then [] else ["Unreachable pages: " ++ ", ".intercalate unreachable]) ++
    (if neverAssigned.isEmpty then []
      else ["Variables read but never assigned: " ++ ", ".intercalate neverAssigned]) ++
    (if neverRead.isEmpty then []
      else ["Variables assigned but never read: " ++ ", ".intercalate neverRead]) ++
    (if !pages.isEmpty && ending.isEmpty then ["No page links to end"] else [])
  { entry := d.entry
    totalPages := d.size
    totalChoices := choices.length
    guardedChoices := (choices.filter (·.guard.isSome)).length
    totalLogics := (pages.flatMap (·.logics)).length
    autoPages := (d.pages.filter (·.2.hasAutoChoice)).map (·.1)
    endingPages := ending
    unresolvedLinks := unresolved
    unreachablePages := unreachable
    cycle := d.findCycle
    assigned, tested, interpolated, neverAssigned, neverRead
    maxChoices := counts.foldl max 0
    avgChoices := if d.size = 0 then ⟨0⟩ else Double.ofQuotient choices.length d.size
    warnings := warnings.eraseDups }

/-- The inventory of a story as a run with `room` calls left computes it: the search for a
cycle, the one part that recurses, gives out on a path of links deeper than the room. -/
def analyzeWithin (d : Document) (room : Nat) : Except Cycle.Fault Report :=
  (d.findCycleWithin room).map fun cycle => { d.analyze with cycle }

end Document

end Gamebook
