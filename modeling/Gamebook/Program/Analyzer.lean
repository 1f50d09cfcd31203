import Gamebook.Program.Run
import Gamebook.Story.Analysis
import Gamebook.Story.Dot
import Gamebook.Story.Example
import Gamebook.Data.Literal
/- The analysis program: it reads a story (a file named on the command line, or the example
   when none or the empty name is given), prints its inventory, and with `--dot PATH` (a path that
   is not empty) also writes the story's graph, in detailed form with `--detailed`. -/
namespace Gamebook.Program.Analyzer

/-- What the command line asks for: a story file, a graph file, and the form of the graph. -/
structure Request where
  story : Option String
  graph : Option String
  mode : Dot.Mode

/-- Read the arguments: `--dot` takes the next argument as the graph file, `--detailed` selects
the detailed graph, and any other argument names the story, the last one winning. -/
def parseArgs : List String → Request → Except String Request
  | [], r => .ok r
  | "--dot" :: rest, r =>
    match rest with
    | path :: more => parseArgs more { r with graph := some path }
    | [] => .error "--dot needs an output path"
  | "--detailed" :: rest, r => parseArgs rest { r with mode := .detailed }
  | path :: rest, r => parseArgs rest { r with story := some path }

/-- A list of names as a literal, or `None` when it is empty. -/
def namesOrNone (xs : List String) : String :=
  if xs.isEmpty then "None" else (Value.list (xs.map .str)).literal

/-- The printed inventory. -/
def reportLines (r : Report) : List String :=
  let rule := String.ofList (List.replicate 70 '=')
  let unresolved := if r.unresolvedLinks.isEmpty then "None" else
    (Value.map (r.unresolvedLinks.map fun (n, ls) => (.str n, .list (ls.map .str)))).literal
  ["", rule, "STORY ANALYSIS REPORT (entry: " ++ r.entry ++ ")", rule, "",
    "📊 BASIC METRICS",
    "  Total Pages:           " ++ toString r.totalPages,
    "  Total Choices:         " ++ toString r.totalChoices,
    "  Guarded Choices:       " ++ toString r.guardedChoices,
    "  Logic Lines:           " ++ toString r.totalLogics,
    "  Auto Pages:            " ++ namesOrNone r.autoPages,
    "  Ending Pages:          " ++ namesOrNone r.endingPages,
    "",
    "📈 VARIABLE ANALYSIS",
    "  Assigned:              " ++ (Value.list (r.assigned.map .str)).literal,
    "  Tested:                " ++ (Value.list (r.tested.map .str)).literal,
    "  Interpolated:          " ++ (Value.list (r.interpolated.map .str)).literal,
    "",
    "🔗 GRAPH STRUCTURE",
    "  Unresolved Links:      " ++ unresolved,
    "  Unreachable Pages:     " ++ namesOrNone r.unreachablePages,
    "  Has Cycles:            " ++ (if r.cycle.isSome then "YES" else "NO")] ++
  (match r.cycle with
    | some c@(_ :: _) => ["    Example: " ++ " -> ".intercalate c]
    | _ => []) ++
  ["  Max Choices/Page:      " ++ toString r.maxChoices,
    "  Avg Choices/Page:      " ++ r.avgChoices.fixedText 2,
    ""] ++
  (if r.warnings.isEmpty then ["✨ NO WARNINGS - Story looks clean!"]
    else "⚠️  WARNINGS" :: (r.warnings.zipIdx 1).map fun (w, i) => "  " ++ toString i ++ ". " ++ w) ++
  [""]

/-- The name a graph form is announced by. -/
def modeName : Dot.Mode → String
  | .simple => "SIMPLE"
  | .detailed => "DETAILED"

/-- Run the analysis program, with `room` calls left to its top level; the analysis takes one of
them. -/
def run (room : Nat) (s : Setting) : Outcome :=
  match parseArgs s.args ⟨none, none, .simple⟩ with
  | .error msg => ⟨"", .message msg, none, []⟩
  | .ok req =>
    let markup : Except Failure String := match req.story with
      | some path => if path.isEmpty then .ok exampleMarkup else s.readStory path
      | none => .ok exampleMarkup
    match markup with
    | .error f => ⟨"", .normal, some f, []⟩
    | .ok text =>
      match Markup.parse text with
      | .error e => ⟨"", .normal, some (.markup e), []⟩
      | .ok d =>
        match d.analyzeWithin (room - 1) with
        | .error e => ⟨"", .normal, some (.search e), []⟩
        | .ok r =>
          let out := printLines (reportLines r)
          match req.graph with
          | none => ⟨out, .normal, none, []⟩
          | some "" => ⟨out, .normal, none, []⟩
          | some path =>
            let note := if r.unresolvedLinks.isEmpty then "" else
              printLines ["Note: unresolved links are drawn as plain nodes."]
            match Dot.render d req.mode, writeAt s.files path with
            | .error .emptyName, _ => ⟨out ++ note, .normal, some .emptyName, []⟩
            | .error .numberTooLong, _ => ⟨out ++ note, .normal, some .numberTooLong, []⟩
            | .ok _, .error e => ⟨out ++ note, .normal, some (.openFailed e path), []⟩
            | .ok graph, .ok name =>
              ⟨out ++ note ++ printLines [modeName req.mode ++ " diagram saved to: " ++ path], .normal, none,
                [(name, graph)]⟩

end Gamebook.Program.Analyzer
