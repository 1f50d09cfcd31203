import Gamebook.Program.Analyzer
import Gamebook.Program.Player
/- The command line. `analyze [STORY] [--dot PATH] [--detailed]` prints the analysis of a story
   (the example story when none is named) and may write its graph; `play [STORY]` plays a story
   with the choices read from standard input and prints the final snapshot. This layer only
   reads the files and input a program is given, and prints and writes what it leaves. -/
namespace Gamebook.Main

open Gamebook.Program

/-- The files of the working directory that the arguments name, with their text. -/
def readFiles (args : List String) : IO (List (String × String)) := do
  let mut out : List (String × String) := []
  for a in args do
    match locate (fun _ => true) a with
    | .entry name _ =>
      try
        let t ← IO.FS.readFile name
        out := out ++ [(name, t)]
      catch _ => pure ()
    | _ => pure ()
  return out

/-- All of a stream's text. -/
partial def readAll (s : IO.FS.Stream) (acc : String) : IO String := do
  let line ← s.getLine
  if line.isEmpty then return acc else readAll s (acc ++ line)

/-- Print what a run leaves behind, write its files, and give its exit code. -/
def finish (o : Outcome) : IO UInt32 := do
  IO.print o.stdout
  for (path, text) in o.written do
    IO.FS.writeFile path text
  match o.failure with
  | some f =>
    IO.eprintln ("Error: " ++ f.message)
    return 1
  | none =>
    match o.exit with
    | .normal => return 0
    | .code n => return n.toUInt32
    | .message m =>
      IO.eprintln m
      return 1

/-- Calls left to the top level of a program run as a script: its own call is the first of a
thousand. -/
def scriptRoom : Nat := 999

def usage : String := "usage: gamebook (analyze [STORY] [--dot PATH] [--detailed] | play [STORY])"

end Gamebook.Main

open Gamebook.Main Gamebook.Program in
def main (args : List String) : IO UInt32 := do
  match args with
  | "analyze" :: rest =>
    finish (Analyzer.run scriptRoom ⟨rest, ← readFiles rest, ""⟩)
  | "play" :: rest =>
    let input ← readAll (← IO.getStdin) ""
    finish (Player.run scriptRoom ⟨rest, ← readFiles rest, input⟩)
  | _ =>
    IO.eprintln usage
    return 2
