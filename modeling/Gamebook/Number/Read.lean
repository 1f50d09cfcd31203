import Gamebook.Number.Double
import Gamebook.Unicode.Class
import Gamebook.Data.Literal
/- Reading numbers from text the way a general-purpose number reader does: blanks around the
   number are ignored, any Unicode decimal digit counts as its ASCII digit, a sign may lead, an
   integer in base 2, 8 or 16 may carry its prefix (`0b`, `0o`, `0x`), a single underscore may
   stand between digits, and a float may also be `inf`, `infinity` or `nan` in any case. A
   decimal integer of more than 4300 digits is refused. -/
namespace Gamebook.Number

/-- A character as the reader sees it: a decimal digit as its ASCII digit, a blank as a space. -/
def normalize (c : Char) : Char :=
  match Unicode.decimalValue? c with
  | some d => Char.ofNat ('0'.toNat + d)
  | none => if Unicode.isSpace c then ' ' else c

/-- The text without blanks at either end, each character normalised. -/
def trimmed (s : String) : List Char :=
  ((s.toList.map normalize).dropWhile (· == ' ')).reverse.dropWhile (· == ' ') |>.reverse

/-- The value of a digit or letter as a digit, if below `base`. -/
def digitValue (base : Nat) (c : Char) : Option Nat :=
  let v := if '0' ≤ c && c ≤ '9' then c.toNat - '0'.toNat
    else if 'a' ≤ c && c ≤ 'z' then c.toNat - 'a'.toNat + 10
    else if 'A' ≤ c && c ≤ 'Z' then c.toNat - 'A'.toNat + 10
    else 99
  if v < base then some v else none

/-- Digits with single underscores between them: their values, or none. -/
def digitsOf (base : Nat) : List Char → Option (List Nat)
  | [] => some []
  | '_' :: c :: rest => if c == '_' then none else digitsOf base (c :: rest)
  | c :: rest => match digitValue base c, digitsOf base rest with
    | some d, some ds => some (d :: ds)
    | _, _ => none

/-- How many digits stand at the start, underscores not counted. -/
def leadingDigits (base : Nat) (cs : List Char) : Nat :=
  (cs.takeWhile fun c => c == '_' || (digitValue base c).isSome).filter (· != '_') |>.length

/-- The most decimal digits an integer text may have: a longer text is refused before it is read,
since converting it would take time quadratic in its length. -/
def decimalDigitLimit : Nat := 4300

/-- The message for a decimal integer text of `n` digits, more than the limit allows. -/
def tooManyDigitsMessage (n : Nat) : String :=
  "Exceeds the limit (" ++ toString decimalDigitLimit ++
    " digits) for integer string conversion: value has " ++ toString n ++
    " digits; use sys.set_int_max_str_digits() to increase the limit"

/-- Whether an integer's decimal text keeps within the digit limit; the text of a larger one is
refused for the same reason. -/
def fitsDigitLimit (n : Int) : Bool := n.natAbs < Nat.pow 10 decimalDigitLimit

/-- The message for an integer whose decimal text would pass the digit limit. -/
def textTooLongMessage : String :=
  "Exceeds the limit (" ++ toString decimalDigitLimit ++
    " digits) for integer string conversion; use sys.set_int_max_str_digits() to increase the limit"

/-- Why a text is no integer. -/
inductive IntError where
  | invalid
  | tooLong (digits : Nat)
  deriving DecidableEq, Repr

/-- Read an integer in a base (2 to 36). -/
def readInt (s : String) (base : Nat) : Except IntError Int :=
  let cs := trimmed s
  let (negative, cs) := match cs with
    | '-' :: rest => (true, rest)
    | '+' :: rest => (false, rest)
    | _ => (false, cs)
  let mark := if base == 16 then some 'x' else if base == 8 then some 'o'
    else if base == 2 then some 'b' else none
  let cs := match cs, mark with
    | '0' :: p :: '_' :: rest, some m => if p.toLower == m then rest else cs
    | '0' :: p :: rest, some m => if p.toLower == m then rest else cs
    | _, _ => cs
  let count := leadingDigits base cs
  if base == 10 && count > decimalDigitLimit then .error (.tooLong count) else
  match cs, digitsOf base cs with
  | _ :: _, some ds =>
    let n : Int := (ds.foldl (fun (n : Nat) d => base * n + d) 0 : Nat)
    .ok (if negative then -n else n)
  | _, _ => .error .invalid

/-- The message for a text that is no integer in a base, given the text's literal. -/
def IntError.describe (literal : String) (base : Nat) : IntError → String
  | .invalid =>
    "invalid literal for int() with base " ++ toString base ++ ": " ++
      String.ofList (literal.toList.take 200)
  | .tooLong n => tooManyDigitsMessage n

/-- The message for a text that is no integer in a base. -/
def IntError.message (s : String) (base : Nat) (e : IntError) : String :=
  e.describe (textLiteral s) base

/-- The digits of a decimal number before and after its point, and the rest. -/
def decimalParts (cs : List Char) : List Char × List Char × List Char :=
  let whole := cs.takeWhile fun c => '0' ≤ c && c ≤ '9'
  let rest := cs.drop whole.length
  match rest with
  | '.' :: r =>
    let frac := r.takeWhile fun c => '0' ≤ c && c ≤ '9'
    (whole, frac, r.drop frac.length)
  | _ => (whole, [], rest)

def digitsValue (ds : List Char) : Nat := ds.foldl (fun n d => 10 * n + (d.toNat - '0'.toNat)) 0

/-- The exponent part `e` or `E`, a sign and digits, if that is all there is. -/
def exponentOf : List Char → Option Int
  | [] => some 0
  | e :: rest =>
    if e != 'e' && e != 'E' then none else
    let (negative, ds) := match rest with
      | '-' :: ds => (true, ds)
      | '+' :: ds => (false, ds)
      | ds => (false, ds)
    if ds.isEmpty || !ds.all (fun c => '0' ≤ c && c ≤ '9') then none
    else some (if negative then -(digitsValue ds : Int) else digitsValue ds)

/-- Read a float. -/
def readFloat? (s : String) : Option Double :=
  let cs := trimmed s
  let (negative, cs) := match cs with
    | '-' :: rest => (true, rest)
    | '+' :: rest => (false, rest)
    | _ => (false, cs)
  let word := String.ofList (cs.map Char.toLower)
  let sign (x : Double) : Double := if negative then x.negate else x
  if word == "inf" || word == "infinity" then some (sign Double.posInfinity)
  else if word == "nan" then some (sign Double.nan)
  else
    let (whole, frac, rest) := decimalParts cs
    if whole.isEmpty && frac.isEmpty then none else
    match exponentOf rest with
    | some e => some (Double.ofDecimal negative (digitsValue (whole ++ frac)) (e - frac.length))
    | none => none

/-- The message for a text that is no float. -/
def floatMessage (s : String) : String := "could not convert string to float: " ++ textLiteral s

end Gamebook.Number

namespace Gamebook.Value

mutual

/-- Whether every integer in a value keeps within the digit limit, so that the value can be
shown. -/
def intsFit : Value → Bool
  | .int n => Number.fitsDigitLimit n
  | .list items | .set items => itemsFit items
  | .map entries => membersFit entries
  | _ => true

def itemsFit : List Value → Bool
  | [] => true
  | v :: vs => intsFit v && itemsFit vs

def membersFit : List (Value × Value) → Bool
  | [] => true
  | (k, v) :: rest => intsFit k && intsFit v && membersFit rest

end

end Gamebook.Value

namespace Gamebook

/-- The text of a write error. -/
def WriteError.message : WriteError → String
  | .numberTooLong => Number.textTooLongMessage
  | .tooDeep => "recursion"
  | .unorderedKeys later first => "'<' not supported between instances of '" ++ later ++ "' and '" ++ first ++ "'"
  | .badKey t => "keys must be str, int, float, bool or None, not " ++ t

/-- The kind of error a write error is, named as the exception class that carries it. -/
def WriteError.kind : WriteError → String
  | .numberTooLong => "ValueError"
  | .tooDeep => "RecursionError"
  | .unorderedKeys _ _ | .badKey _ => "TypeError"

end Gamebook
