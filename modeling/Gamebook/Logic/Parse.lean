import Gamebook.Logic.Token
import Gamebook.Story.Name
import Gamebook.Text.Basic
import Gamebook.Number.Read
/- Reading one piece of logic: a name, or a name, an operator and a number, where the operator
   must suit the role the logic plays. A lone name is the guard `name > 0`. -/
namespace Gamebook

namespace LogicError

/-- The reason given for refused logic text. -/
def message : LogicError → String
  | unexpected t => "Unexpected '" ++ String.ofList t ++ "' in logic"
  | noName => "Invalid logic syntax"
  | badOperation t => "Invalid logic operation '" ++ String.ofList t ++ "'"
  | missingValue o => "Missing value after '" ++ o.symbol ++ "'"
  | notNumber => "Invalid expression, only numbers supported on right side"
  | trailing t => "Unexpected '" ++ String.ofList t ++ "' after expression"
  | tooManyDigits n => Number.tooManyDigitsMessage n
  | notGuard => "Should be conditional expression"
  | notState => "Should be non conditional expression"

end LogicError

namespace Logic

/-- How many digits a number token has, its sign not counted. -/
def digitCount (text : List Char) : Nat :=
  (text.filter fun c => c != '-' && c != '+').length

/-- The operator and value after the name, from the tokens that follow it. The value is read
before anything after it is looked at, so a number past the digit limit is refused first. -/
def tail : List Token → Except LogicError (Operator × Int)
  | [] => .ok (.gt, 0)
  | .op o :: more =>
    match more with
    | [] => .error (.missingValue o)
    | .number t v :: rest =>
      if Number.decimalDigitLimit < digitCount t then .error (.tooManyDigits (digitCount t))
      else match rest with
        | [] => .ok (o, v)
        | t :: _ => .error (.trailing t.text)
    | _ :: _ => .error .notNumber
  | t :: _ => .error (.badOperation t.text)

/-- Read logic text for the given role; the checks run in a fixed order, so the first fault of
the text decides the error. -/
def parse (code : String) (role : Role) : Except LogicError Logic :=
  match Token.scan (Text.trimRight code.toList) with
  | .error e => .error e
  | .ok (.name n :: more) =>
    match tail more with
    | .error e => .error e
    | .ok (o, v) =>
      if o.role = role then .ok ⟨o, canonicalName (String.ofList n), v⟩
      else .error (if role = .guard then .notGuard else .notState)
  | .ok _ => .error .noName

end Logic

end Gamebook
