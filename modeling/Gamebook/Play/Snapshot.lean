import Gamebook.Play.Session
import Gamebook.Data.Json.Read
import Gamebook.Data.Json.Write
/- Progress snapshots as JSON text: written with sorted keys and ASCII escapes, read back through
   the snapshot checks. A session saves its progress this way and loads it back. -/
namespace Gamebook

/-- Calls that writing a snapshot as JSON text makes before it enters the outermost object, its
own among them. -/
def jsonWritingCalls : Nat := 5

/-- The JSON text of a snapshot, with `room` calls left to make. -/
def Snapshot.toJsonText (s : Snapshot) (room : Nat) : Except WriteError String :=
  match Json.writeError? (room - jsonWritingCalls) s.toData with
  | some e => .error e
  | none => .ok (Json.render ⟨true, true⟩ s.toData)

namespace Progress

/-- The JSON text of a progress snapshot. -/
def toJsonText (p : Progress) : String := Json.render ⟨true, true⟩ p.toData

/-- Calls that reading a snapshot from JSON text makes before it enters the text's outermost
array or object, its own among them. -/
def jsonReadingCalls : Nat := 5

/-- Read a progress snapshot from JSON text, with `room` calls left to make. Text nested too deep
to be read in them is an error of its own, not an unreadable snapshot. -/
def ofJsonText (room : Nat) (t : String) : Except SnapshotError Progress :=
  match Json.read (room - jsonReadingCalls) t with
  | .ok v => ofData v
  | .error ⟨.tooDeep, _⟩ => .error .tooDeep
  | .error e => .error (.unreadable (e.message t))

end Progress

namespace Session

/-- The current progress as JSON text, with `room` calls left to make: a name that is bytes, or a
value too long to be written in decimal, cannot be written. -/
def save (s : Session) (room : Nat) : Except WriteError String := s.progress.snapshot.toJsonText room

/-- Install progress read from JSON text, with `room` calls left to make; the loading takes one
of them. -/
def load (s : Session) (room : Nat) (t : String) : Except PlayError (Session × List String) :=
  match Progress.ofJsonText (room - 1) t with
  | .ok p => .ok (s.installProgress p)
  | .error e => .error (.snapshot e)

end Session

end Gamebook
