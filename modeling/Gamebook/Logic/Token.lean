import Gamebook.Logic.Basic
import Gamebook.Unicode.Class
/- Tokens of page logic. After optional white space a token is a number (an optional sign and
   decimal digits of any script), a name (an ASCII letter or underscore, then word characters), or
   an operator, tried in that order; any other run of non-blank characters is refused. -/
namespace Gamebook
open Unicode

/-- A token of page logic, with the text it was read from where that text varies. -/
inductive Token where
  | number (text : List Char) (value : Int)
  | name (text : List Char)
  | op (o : Operator)
  deriving DecidableEq, Repr

namespace Token

/-- The text a token was read from. -/
def text : Token → List Char
  | number t _ => t
  | name t => t
  | op o => o.symbol.toList

/-- The value of a run of decimal digits of any script. -/
def digitsValue (ds : List Char) : Nat :=
  ds.foldl (fun n d => n * 10 + (decimalValue? d).getD 0) 0

/-- Characters that may start a name. -/
def isNameStart (c : Char) : Bool := c.isAlpha || c == '_'

/-- The token that starts with `c` followed by `rest`, and what follows it; `none` when no token
starts there. -/
def lead (c : Char) (rest : List Char) : Option (Token × List Char) :=
  match c, rest with
  | '-', d :: more =>
    if isDecimal d then
      some (number (c :: d :: more.takeWhile isDecimal) (-digitsValue (d :: more.takeWhile isDecimal)),
        more.dropWhile isDecimal)
    else none
  | '+', d :: more =>
    if isDecimal d then
      some (number (c :: d :: more.takeWhile isDecimal) (digitsValue (d :: more.takeWhile isDecimal)),
        more.dropWhile isDecimal)
    else if d = '=' then some (op .increase, more)
    else none
  | '=', '=' :: more => some (op .eq, more)
  | '!', '=' :: more => some (op .ne, more)
  | '=', more => some (op .assign, more)
  | '<', more => some (op .lt, more)
  | '>', more => some (op .gt, more)
  | c, more =>
    if isDecimal c then
      some (number (c :: more.takeWhile isDecimal) (digitsValue (c :: more.takeWhile isDecimal)),
        more.dropWhile isDecimal)
    else if isNameStart c then some (name (c :: more.takeWhile isWord), more.dropWhile isWord)
    else none

theorem length_dropWhile_le (p : Char → Bool) (l : List Char) : (l.dropWhile p).length ≤ l.length :=
  (List.dropWhile_suffix p).length_le

theorem lead_rest_le {c : Char} {rest : List Char} {t : Token} {after : List Char}
    (h : lead c rest = some (t, after)) : after.length ≤ rest.length := by
  unfold lead at h
  split at h <;> (try split at h) <;> (try split at h) <;> simp at h <;> (try obtain ⟨-, rfl⟩ := h)
  all_goals first
    | exact length_dropWhile_le _ _
    | exact Nat.le_succ_of_le (length_dropWhile_le _ _)
    | simp

end Token

/-- Why logic text is refused. -/
inductive LogicError where
  | unexpected (text : List Char)
  | noName
  | badOperation (text : List Char)
  | missingValue (o : Operator)
  | notNumber
  | trailing (text : List Char)
  | tooManyDigits (count : Nat)
  | notGuard
  | notState
  deriving DecidableEq, Repr

/-- The tokens of logic text with no white space at its end; a run of non-blank characters that
starts no token is refused at once. -/
def Token.scan (cs : List Char) : Except LogicError (List Token) :=
  match _h : cs.dropWhile isSpace with
  | [] => .ok []
  | c :: rest =>
    match _hl : Token.lead c rest with
    | some (t, after) =>
      match Token.scan after with
      | .ok ts => .ok (t :: ts)
      | .error e => .error e
    | none => .error (.unexpected (c :: rest.takeWhile (fun d => !isSpace d)))
termination_by cs.length
decreasing_by
  have h1 := (List.dropWhile_suffix (l := cs) isSpace).length_le
  have h2 := Token.lead_rest_le _hl
  rw [_h] at h1
  simp at h1
  omega

end Gamebook
