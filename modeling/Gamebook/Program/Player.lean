import Gamebook.Program.Run
import Gamebook.Play.SnapshotYaml
import Gamebook.Story.Example
/- The playthrough program: it loads and checks a story (the first argument that is not an option,
   or the example), then shows page after page. A page with an automatic choice waits for Enter; any
   other page lists its visible choices, numbered from 1, and reads an answer: a number picks a
   choice, `q` or `quit` stops. At the end of input, or when the story ends, it prints the progress
   snapshot as YAML. A number too long to be written in decimal stops the play where it is
   shown. -/
namespace Gamebook.Program.Player
open Unicode

/-- What a page asks for once it is shown. -/
inductive Turn where
  | over
  | enter
  | answer (visible : List (Nat × Choice))
  /-- a text of the page could not be shown -/
  | broken
  deriving Repr

/-- Print lines, each a prefix and a text with its placeholders filled, up to the first text that
cannot be shown: the text printed and whether every line was. -/
def showLines (s : Session) : List (String × String) → String × Bool
  | [] => ("", true)
  | (pre, t) :: rest =>
    match s.text t with
    | .ok shown =>
      let (out, whole) := showLines s rest
      (printLines [pre ++ shown] ++ out, whole)
    | .error _ => ("", false)

/-- Show the current page: the text printed and what the page asks for. -/
def showPage (s : Session) : String × Turn :=
  match s.currentPage? with
  | none =>
    (if s.isFinished then printLines ["", "*** THE END ***"]
      else printLines ["", "(no page named " ++ codesLiteral s.progress.page ++ ")"], .over)
  | some p =>
    let (body, whole) := showLines s (("", "") :: p.texts.map ("", ·))
    if !whole then (body, .broken)
    else if s.hasAuto then (body ++ "\n[press Enter]", .enter)
    else
      let visible := s.visible
      let (list, whole) := showLines s (("", "") :: (visible.zipIdx 1).map fun ((_, c), n) =>
        ("  " ++ toString n ++ ". ", c.text.getD ""))
      if !whole then (body ++ list, .broken) else (body ++ list ++ "> ", .answer visible)

/-- What an answer does. -/
inductive Reply where
  | quit
  | retry
  | take (index : Nat)
  | fail (f : Failure)
  deriving Repr

/-- Read an answer to a list of visible choices. -/
def reply (visible : List (Nat × Choice)) (line : String) : Reply :=
  let a := Text.trim line.toList
  if a == "q".toList || a == "quit".toList then .quit
  else if a.isEmpty || !a.all isDigit then .retry
  else match Number.readInt (String.ofList a) 10 with
    | .error e => .fail (.badNumber (String.ofList a) e)
    | .ok i =>
      let n := i.toNat
      match visible[n - 1]? with
      | some (i, _) => if n ≥ 1 then .take i else .retry
      | none => .retry

/-- Play with the given input lines, at most `fuel` turns: the text printed, the session after,
and a failure that stopped the play. -/
def play (s : Session) (lines : List String) : Nat → String × Session × Option Failure
  | 0 => ("", s, none)
  | fuel + 1 =>
    let (shown, turn) := showPage s
    match turn, lines with
    | .over, _ => (shown, s, none)
    | .broken, _ => (shown, s, some .numberTooLong)
    | _, [] => (shown ++ "\n", s, none)
    | .enter, _ :: rest =>
      let (out, s', f) := play (s.auto.2) rest fuel
      (shown ++ out, s', f)
    | .answer visible, line :: rest =>
      match reply visible line with
      | .quit => (shown, s, none)
      | .retry =>
        let (out, s', f) := play s rest fuel
        (shown ++ printLines ["Pick one of the numbers above."] ++ out, s', f)
      | .take i =>
        let (out, s', f) := play (s.choose (.index i)).2 rest fuel
        (shown ++ out, s', f)
      | .fail f => (shown, s, some f)

/-- The lines of standard input as read one by one: cut at line feeds, a final line feed opening no
further line. -/
def inputLines (stdin : String) : List String :=
  match (stdin.splitOn "\n").reverse with
  | "" :: rest => rest.reverse
  | all => all.reverse

/-- Run the playthrough program, with `room` calls left to its top level. -/
def run (room : Nat) (s : Setting) : Outcome :=
  let story : Except Failure String := match s.args.find? (fun a => !a.startsWith "--") with
    | some path => s.readStory path
    | none => .ok exampleMarkup
  match story with
  | .error f => ⟨"", .normal, some f, []⟩
  | .ok text =>
    match loadStory text true with
    | .error (.markup m) =>
      if m.fault.isRefusal then ⟨printLines ["Could not load story: " ++ m.message], .code 1, none, []⟩
      else ⟨"", .normal, some (.markup m), []⟩
    | .error (.check c) => ⟨printLines ["Could not load story: " ++ c.message], .code 1, none, []⟩
    | .ok d =>
      let lines := inputLines s.stdin
      let (out, session, failure) := play (Session.start d true) lines (lines.length + 1)
      match failure with
      | some f => ⟨out, .normal, some f, []⟩
      | none =>
        -- the top level calls the writer
        match session.progress.snapshot.toYamlText pyYaml (room - 1) with
        | .ok yaml => ⟨out ++ printLines ["", "Progress snapshot:", yaml], .normal, none, []⟩
        | .error e => ⟨out ++ printLines ["", "Progress snapshot:"], .normal, some (.write e), []⟩

end Gamebook.Program.Player
