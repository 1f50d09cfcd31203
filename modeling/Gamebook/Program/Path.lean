import Gamebook.Data.Literal
/- Paths in the working directory of a run. The directory holds plain files only, so a path
   leads to a file in it, to the directory itself (or one above it), or nowhere: through a name
   that is missing, or through a file as if it were a directory. A slash after a name asks for a
   directory. -/
namespace Gamebook.Program

/-- Why a file cannot be opened. -/
inductive FileError where
  | noSuchFile
  | isDirectory
  | notDirectory
  deriving DecidableEq, Repr

namespace FileError

/-- The system's text of the error, with its number, about a path. -/
def message (e : FileError) (path : String) : String :=
  let (n, text) := match e with
    | noSuchFile => (2, "No such file or directory")
    | isDirectory => (21, "Is a directory")
    | notDirectory => (20, "Not a directory")
  "[Errno " ++ toString n ++ "] " ++ text ++ ": " ++ textLiteral path

/-- The name of the error's kind. -/
def kind : FileError → String
  | noSuchFile => "FileNotFoundError"
  | isDirectory => "IsADirectoryError"
  | notDirectory => "NotADirectoryError"

end FileError

/-- Where a path leads. -/
inductive Place where
  /-- a directory: the working one, or `up` levels above it -/
  | directory (up : Nat)
  /-- a name in the working directory, present or not; `slash` when a slash follows it -/
  | entry (name : String) (slash : Bool)
  | error (e : FileError)
  deriving DecidableEq, Repr

namespace Place

/-- Follow one part of a path. Only the working directory's entries are known: a name in a
directory above it leads nowhere, and a name that is present is a file, through which nothing
leads. -/
def descend (present : String → Bool) : Place → String → Place
  | directory up, "" => directory up
  | directory up, "." => directory up
  | directory up, ".." => directory (up + 1)
  | directory 0, name => entry name false
  | directory _, _ => error .noSuchFile
  | entry name _, "" => entry name true
  | entry name _, _ => error (if present name then .notDirectory else .noSuchFile)
  | error e, _ => error e

end Place

/-- Where a path leads from the working directory; the empty path leads nowhere. -/
def locate (present : String → Bool) (path : String) : Place :=
  if path.isEmpty then .error .noSuchFile
  else (path.splitOn "/").foldl (Place.descend present) (.directory 0)

/-- The text of the file a path opens for reading. -/
def readAt (files : List (String × String)) (path : String) : Except FileError String :=
  match locate (fun n => (files.lookup n).isSome) path with
  | .directory _ => .error .isDirectory
  | .entry name slash =>
    match files.lookup name with
    | some text => if slash then .error .notDirectory else .ok text
    | none => .error .noSuchFile
  | .error e => .error e

/-- The name of the file a path opens for writing, made when it is missing; a missing name with
a slash after it would be a directory. -/
def writeAt (files : List (String × String)) (path : String) : Except FileError String :=
  let present := fun n => (files.lookup n).isSome
  match locate present path with
  | .directory _ => .error .isDirectory
  | .entry name slash =>
    if slash then .error (if present name then .notDirectory else .isDirectory) else .ok name
  | .error e => .error e

end Gamebook.Program
