import Gamebook.Play.Snapshot
/- The calls a host makes on a session, one after another, and the session each leaves behind.
   A refused call leaves the session as it was. Calls that only read (the visible choices,
   whether a choice shows, a text with its values filled in, the progress and its JSON text)
   answer from the session and change nothing, so they have no case here. -/
namespace Gamebook

/-- A call that may change a session. -/
inductive Call where
  | reset
  | goto (name : List Nat)
  /-- set a variable to a value of any kind; only an integer that is not a truth value is taken -/
  | setVar (name : Name) (value : Value)
  | run (l : Logic)
  /-- run a page's state logic; without a page, the current page's -/
  | applyPage (page : Option Page)
  | choose (pick : Pick)
  | auto
  /-- install progress from a page and a variable map, as fields of a progress -/
  | install (page vars : Option Value)
  /-- install progress given as data -/
  | installData (v : Value)
  | installProgress (p : Progress)
  /-- install progress read from JSON text, with `room` calls left to make -/
  | load (room : Nat) (text : String)

namespace Session

/-- The session an install leaves: the installed one, or the old one when it is refused. -/
def after (s : Session) : Except PlayError (Session × List String) → Session
  | .ok (s', _) => s'
  | .error _ => s

/-- The session after one call. -/
def perform (s : Session) : Call → Session
  | .reset => s.reset
  | .goto name => s.goto name
  | .setVar name value =>
    match value.asVarValue? with
    | some x => s.setVar name x
    | none => s
  | .run l => (s.run l).2
  | .applyPage page => s.applyPage page
  | .choose pick => (s.choose pick).2
  | .auto => s.auto.2
  | .install page vars => s.after (s.install page vars)
  | .installData v => s.after (s.installData v)
  | .installProgress p => (s.installProgress p).1
  | .load room text => s.after (s.load room text)

/-- The session after calls made in order. -/
def performAll (s : Session) (calls : List Call) : Session := calls.foldl perform s

end Session

end Gamebook
