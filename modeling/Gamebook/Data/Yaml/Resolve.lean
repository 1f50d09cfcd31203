/- Which type a plain YAML 1.1 scalar stands for: truth values (`yes`, `off`, ...), null (`~`,
   `null`, the empty text), integers (binary, octal with a leading zero, hexadecimal, base 60,
   underscores allowed), floats, timestamps, and the merge and value keys. Anything else is text.
   The candidate types are chosen by the scalar's first character. -/
namespace Gamebook.Yaml

/-- The types a plain scalar may resolve to. -/
inductive Kind where
  | bool
  | float
  | int
  | merge
  | null
  | timestamp
  | value
  | yaml
  | str
  deriving DecidableEq, Repr

def isDigit (c : Char) : Bool := '0' ≤ c && c ≤ '9'

def isDigitOrUnderscore (c : Char) : Bool := isDigit c || c == '_'

/-- Drop an optional sign. -/
def dropSign : List Char → List Char
  | '-' :: rest | '+' :: rest => rest
  | cs => cs

/-- The rest after one base-60 group `:d` or `:dd` (two digits only when the first is 0 to 5). -/
def sexGroup? : List Char → Option (List Char)
  | ':' :: a :: b :: rest =>
    if '0' ≤ a ∧ a ≤ '5' ∧ isDigit b then some rest else if isDigit a then some (b :: rest) else none
  | ':' :: a :: [] => if isDigit a then some [] else none
  | _ => none

/-- The rest after one or more base-60 groups. -/
def sexGroups? (cs : List Char) : Option (List Char) :=
  match sexGroup? cs with
  | none => none
  | some rest => go rest cs.length
where
  go (cs : List Char) : Nat → Option (List Char)
    | 0 => some cs
    | fuel + 1 => match sexGroup? cs with
      | some rest => go rest fuel
      | none => some cs

/-- An exponent `e+12`, alone. -/
def isExponent : List Char → Bool
  | e :: s :: d :: rest => (e == 'e' || e == 'E') && (s == '-' || s == '+') && isDigit d && rest.all isDigit
  | _ => false

/-- The fraction part of a float after its point: digits and underscores, then an exponent. -/
def isFractionTail (cs : List Char) : Bool :=
  let rest := cs.dropWhile isDigitOrUnderscore
  rest.isEmpty || isExponent rest

def matchesFloat (cs : List Char) : Bool :=
  let unsigned := dropSign cs
  -- [-+]?[0-9][0-9_]*\.[0-9_]*(exp)?
  (match unsigned with
    | d :: rest => isDigit d && (match rest.dropWhile isDigitOrUnderscore with
      | '.' :: frac => isFractionTail frac
      | _ => false)
    | [] => false) ||
  -- \.[0-9][0-9_]*(exp)?
  (match cs with
    | '.' :: d :: rest => isDigit d && isFractionTail rest
    | _ => false) ||
  -- [-+]?[0-9][0-9_]*(:[0-5]?[0-9])+\.[0-9_]*
  (match unsigned with
    | d :: rest => isDigit d && (match sexGroups? (rest.dropWhile isDigitOrUnderscore) with
      | some ('.' :: frac) => frac.all isDigitOrUnderscore
      | _ => false)
    | [] => false) ||
  -- [-+]?\.(inf|Inf|INF)
  unsigned == ".inf".toList || unsigned == ".Inf".toList || unsigned == ".INF".toList ||
  -- \.(nan|NaN|NAN)
  cs == ".nan".toList || cs == ".NaN".toList || cs == ".NAN".toList

def isHexOrUnderscore (c : Char) : Bool :=
  isDigitOrUnderscore c || ('a' ≤ c && c ≤ 'f') || ('A' ≤ c && c ≤ 'F')

def matchesInt (cs : List Char) : Bool :=
  match dropSign cs with
  | '0' :: 'b' :: rest => !rest.isEmpty && rest.all fun c => c == '0' || c == '1' || c == '_'
  | '0' :: 'x' :: rest => !rest.isEmpty && rest.all isHexOrUnderscore
  | '0' :: rest => rest.all fun c => ('0' ≤ c && c ≤ '7') || c == '_'
  | d :: rest =>
    ('1' ≤ d && d ≤ '9') &&
      (rest.all isDigitOrUnderscore ||
        sexGroups? (rest.dropWhile isDigitOrUnderscore) == some [])
  | [] => false

/-- `[0-9]` then an optional second digit: the rest after them. -/
def oneOrTwoDigits? : List Char → Option (List Char)
  | a :: b :: rest => if isDigit a then (if isDigit b then some rest else some (b :: rest)) else none
  | [a] => if isDigit a then some [] else none
  | [] => none

def exactDigits? : Nat → List Char → Option (List Char)
  | 0, cs => some cs
  | n + 1, c :: rest => if isDigit c then exactDigits? n rest else none
  | _ + 1, [] => none

def isBlankChar (c : Char) : Bool := c == ' ' || c == '\t'

/-- The time zone tail of a timestamp: blanks, then `Z` or a signed offset of hours and minutes. -/
def isZoneTail (cs : List Char) : Bool :=
  match cs.dropWhile isBlankChar with
  | [] => cs.isEmpty
  | ['Z'] => true
  | s :: rest =>
    (s == '-' || s == '+') && (match oneOrTwoDigits? rest with
      | some [] => true
      | some (':' :: m) => (exactDigits? 2 m) == some []
      | _ => false)

def matchesTimestamp (cs : List Char) : Bool :=
  -- a date alone
  ((exactDigits? 4 cs).bind (fun r => match r with
    | '-' :: r => exactDigits? 2 r
    | _ => none) |>.bind (fun r => match r with
    | '-' :: r => exactDigits? 2 r
    | _ => none)) == some [] ||
  -- a date and a time
  (match (exactDigits? 4 cs).bind (fun r => match r with
      | '-' :: r => oneOrTwoDigits? r
      | _ => none) |>.bind (fun r => match r with
      | '-' :: r => oneOrTwoDigits? r
      | _ => none) with
   | some rest =>
     let afterSep := match rest with
       | 'T' :: r | 't' :: r => some r
       | c :: r => if isBlankChar c then some (r.dropWhile isBlankChar) else none
       | [] => none
     match afterSep.bind oneOrTwoDigits? with
     | some (':' :: r) =>
       match exactDigits? 2 r with
       | some (':' :: r) =>
         match exactDigits? 2 r with
         | some r =>
           let r := match r with
             | '.' :: f => f.dropWhile isDigit
             | r => r
           isZoneTail r
         | none => false
       | _ => false
     | _ => false
   | none => false)

def isBool (cs : List Char) : Bool :=
  ["yes", "Yes", "YES", "no", "No", "NO", "true", "True", "TRUE", "false", "False", "FALSE",
    "on", "On", "ON", "off", "Off", "OFF"].contains (String.ofList cs)

def isNull (cs : List Char) : Bool := ["~", "null", "Null", "NULL", ""].contains (String.ofList cs)

/-- The type a scalar resolves to. The candidates are chosen by its first character, and a
pattern fits the text or the text less one final line break (a plain scalar has none, but a
quoted one under the bare `!` tag may). -/
def resolve (cs : List Char) : Kind :=
  let first := cs.head?
  let body := if cs.getLast? == some '\n' then cs.dropLast else cs
  let may (chars : String) : Bool := match first with
    | some c => chars.contains c
    | none => false
  if may "yYnNtTfFoO" && isBool body then .bool
  else if may "-+0123456789." && matchesFloat body then .float
  else if may "-+0123456789" && matchesInt body then .int
  else if may "<" && body == ['<', '<'] then .merge
  else if (first.isNone || may "~nN") && isNull body then .null
  else if may "0123456789" && matchesTimestamp body then .timestamp
  else if may "=" && body == ['='] then .value
  else if may "!&*" && body.length == 1 then .yaml
  else .str

end Gamebook.Yaml
