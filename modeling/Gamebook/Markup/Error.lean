import Gamebook.Logic.Parse
/- Why markup is refused, and at which line. -/
namespace Gamebook.Markup

/-- A fault in markup. -/
inductive Fault where
  | noMarkup
  | badHeader
  | reservedName
  | badLogicLine
  | logic (e : LogicError)
  | noTexts
  | badChoice
  | guardWithoutText
  | noChoices
  | guardedAuto
  | autoAmongOthers
  | duplicatePage (name : String)
  deriving DecidableEq, Repr

/-- The reason a fault gives. -/
def Fault.reason : Fault → String
  | .noMarkup => "Invalid markup data"
  | .badHeader => "Invalid page header, should be in \"-> PageName\" form"
  | .reservedName => "Invalid page name, \"end\" is reserved"
  | .badLogicLine => "Invalid logic"
  | .logic e => e.message
  | .noTexts => "Invalid page texts, every page needs text"
  | .badChoice => "Invalid choice syntax, should be in \"* Text -> PageName\" form"
  | .guardWithoutText => "Conditional choice needs text"
  | .noChoices => "No choices"
  | .guardedAuto => "Auto choice cant use condition"
  | .autoAmongOthers => "Choice without text must be the only choice of its page"
  | .duplicatePage n => "Page with name \"" ++ n ++ "\" already declared before"

/-- Whether a fault refuses the markup; the one fault that does not is a number with more digits
than any number may have, which fails as a number before the markup is judged. -/
def Fault.isRefusal : Fault → Bool
  | .logic (.tooManyDigits _) => false
  | _ => true

/-- A refused markup text: the fault and the physical line it was found on (0 for none). -/
structure Error where
  line : Nat
  fault : Fault
  deriving DecidableEq, Repr

/-- The message of a refused markup text. A number past the digit limit fails with the number's
own message, which names no line. -/
def Error.message (e : Error) : String :=
  if e.fault.isRefusal then "Error at line " ++ toString e.line ++ ": " ++ e.fault.reason
  else e.fault.reason

end Gamebook.Markup
