import Gamebook.Markup.Parse
import Gamebook.Story.Check
/- A small story that shows every feature of the markup: state logic, interpolated variables,
   break markers, guarded choices, an automatic choice and an ending. -/
namespace Gamebook

/-- The markup of the example story. -/
def exampleMarkup : String :=
  "// The Old Lighthouse\n" ++
  "-> Shore\n" ++
  "\x7bgold = 5\x7d\n" ++
  "You wake up on a cold shore with \x7bgold\x7d coins in your pocket.\n" ++
  "[br] A lighthouse stands on the cliff above.\n" ++
  "* Climb to the lighthouse -> Lighthouse\n" ++
  "* Search the beach -> Beach\n" ++
  "\n" ++
  "-> Beach\n" ++
  "\x7bgold += 3\x7d\n" ++
  "\x7bshell = 1\x7d\n" ++
  "Between the rocks you find three more coins and a pearly shell.\n" ++
  "* Climb to the lighthouse -> Lighthouse\n" ++
  "\n" ++
  "-> Lighthouse\n" ++
  "The keeper eyes your purse of \x7bgold\x7d coins.\n" ++
  "* \x7bgold > 6\x7d Pay for the lamp oil -> Lamp\n" ++
  "* \x7bshell\x7d Offer the shell -> Lamp\n" ++
  "* Walk back to the beach -> Beach\n" ++
  "\n" ++
  "-> Lamp\n" ++
  "\x7bgold += -6\x7d\n" ++
  "\x7blamp = 1\x7d\n" ++
  "The lamp flares to life and a ship turns toward the shore.\n" ++
  "* -> Rescue\n" ++
  "\n" ++
  "-> Rescue\n" ++
  "You are rescued with \x7bgold\x7d coins left. [br] The end.\n" ++
  "* Finish -> end\n"

/-- Why the example story could not be loaded. -/
inductive LoadError where
  | markup (e : Markup.Error)
  | check (e : CheckError)
  deriving DecidableEq, Repr

/-- Read a story from markup, checking it when `validate` is set. -/
def loadStory (markup : String) (validate : Bool) : Except LoadError Document := do
  let d ← (Markup.parse markup).mapError LoadError.markup
  if validate then (d.check).mapError LoadError.check
  pure d

/-- The example story. -/
def exampleDocument (validate : Bool) : Except LoadError Document := loadStory exampleMarkup validate

end Gamebook
