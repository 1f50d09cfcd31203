import Gamebook.Markup.Error
import Gamebook.Story.Check
import Gamebook.Story.Cycle
import Gamebook.Data.Literal
import Gamebook.Number.Read
import Gamebook.Program.Path
/- A run of a command-line program as a value: the arguments, files and input it is given, and the
   text it prints, how it ends, the failure that stopped it, and the files it writes. -/
namespace Gamebook.Program

/-- How a run ended. -/
inductive Exit where
  | normal
  | code (n : Nat)
  | message (text : String)
  deriving DecidableEq, Repr

/-- A failure that stops a run. -/
inductive Failure where
  | fileNotFound (path : String)
  | markup (e : Markup.Error)
  | check (e : CheckError)
  | badNumber (text : String) (e : Number.IntError)
  | emptyName
  /-- a number to be shown is too long to be written in decimal -/
  | numberTooLong
  /-- a path cannot be opened, other than for a missing story -/
  | openFailed (e : FileError) (path : String)
  /-- the search for a cycle gives no answer -/
  | search (e : Cycle.Fault)
  /-- data cannot be written out -/
  | write (e : WriteError)
  deriving DecidableEq, Repr

/-- The text of a failure. -/
def Failure.message : Failure → String
  | .fileNotFound path => "Markup file not found: " ++ path
  | .markup e => e.message
  | .check e => e.message
  | .badNumber t e => e.message t 10
  | .emptyName => "string index out of range"
  | .numberTooLong => Number.textTooLongMessage
  | .openFailed e path => e.message path
  | .search .tooDeep => "maximum recursion depth exceeded"
  | .search (.notOnPath n) => (Value.str n).literal ++ " is not in list"
  | .write e => e.message

/-- What a run leaves behind. -/
structure Outcome where
  stdout : String
  exit : Exit
  failure : Option Failure
  written : List (String × String)
  deriving DecidableEq, Repr

/-- What a run is given: arguments, the files present by name, and the text of standard input. -/
structure Setting where
  args : List String
  files : List (String × String)
  stdin : String

/-- Text read from a file: every carriage return, alone or before a line feed, becomes a line
feed. -/
def readText (s : String) : String :=
  String.ofList (go s.toList)
where
  go : List Char → List Char
    | '\r' :: '\n' :: rest => '\n' :: go rest
    | '\r' :: rest => '\n' :: go rest
    | c :: rest => c :: go rest
    | [] => []

/-- The text of the story a path names: a missing file is reported as a missing story, any
other failure to open it as it is. -/
def Setting.readStory (s : Setting) (path : String) : Except Failure String :=
  match readAt s.files path with
  | .ok text => .ok (readText text)
  | .error .noSuchFile => .error (.fileNotFound path)
  | .error e => .error (.openFailed e path)

/-- The files a run made that were not there before it. -/
def Outcome.created (o : Outcome) (s : Setting) : List (String × String) :=
  o.written.filter fun (name, _) => (s.files.lookup name).isNone

/-- Printed lines, each ended by a line feed. -/
def printLines (lines : List String) : String := String.join (lines.map (· ++ "\n"))

end Gamebook.Program
