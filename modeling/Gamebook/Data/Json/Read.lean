import Gamebook.Data.Value
import Gamebook.Number.Double
import Gamebook.Number.Read
/- Reading JSON text into a data tree. Besides the standard grammar it reads `NaN`, `Infinity` and
   `-Infinity`; an integer may have up to 4300 digits; a number with a fraction or an exponent is
   a binary64 number; a repeated key keeps its first place and its last value; a `\u` escape of
   a lone surrogate is kept as that code point; arrays and objects nest at most 990 deep. A fault
   in the grammar is reported with the position of the character where reading stopped, counted
   in characters from 0. -/
namespace Gamebook.Json

/-- Why JSON text is refused. -/
inductive Fault where
  | byteOrderMark
  | expectingValue
  | extraData
  | expectingName
  | expectingColon
  | expectingComma
  | unterminated
  | controlCharacter
  | badEscape
  | badUnicodeEscape
  /-- an integer with more digits than any integer may have -/
  | tooManyDigits (count : Nat)
  /-- arrays and objects nested deeper than reading goes -/
  | tooDeep
  deriving DecidableEq, Repr

/-- The text of a fault. -/
def Fault.text : Fault → String
  | byteOrderMark => "Unexpected UTF-8 BOM (decode using utf-8-sig)"
  | expectingValue => "Expecting value"
  | extraData => "Extra data"
  | expectingName => "Expecting property name enclosed in double quotes"
  | expectingColon => "Expecting ':' delimiter"
  | expectingComma => "Expecting ',' delimiter"
  | unterminated => "Unterminated string starting at"
  | controlCharacter => "Invalid control character at"
  | badEscape => "Invalid \\escape"
  | badUnicodeEscape => "Invalid \\uXXXX escape"
  | tooManyDigits n => Number.tooManyDigitsMessage n
  | tooDeep => "maximum recursion depth exceeded while decoding a JSON array from a unicode string"

/-- A refused text: the fault and the position it was found at. -/
structure Error where
  fault : Fault
  pos : Nat
  deriving DecidableEq, Repr

/-- Whether a fault is in the grammar of the text, and so has a place. -/
def Fault.isPlaced : Fault → Bool
  | tooManyDigits _ | tooDeep => false
  | _ => true

/-- The message of a refused text, with the line (from 1) and the column (from 1) of the
position. -/
def Error.message (text : String) (e : Error) : String :=
  if !e.fault.isPlaced then e.fault.text else
  let before := text.toList.take e.pos
  let lastBreak : Int := match before.reverse.findIdx? (· == '\n') with
    | some i => (e.pos : Int) - 1 - i
    | none => -1
  e.fault.text ++ ": line " ++ toString (before.count '\n' + 1) ++ " column " ++
    toString ((e.pos : Int) - lastBreak) ++ " (char " ++ toString e.pos ++ ")"

/-- White space between tokens. -/
def isBlank (c : Char) : Bool := c == ' ' || c == '\t' || c == '\n' || c == '\r'

/-- The first position from `i` that is not white space. -/
def skipBlank (s : Array Char) (i : Nat) : Nat :=
  if h : i < s.size then (if isBlank s[i] then skipBlank s (i + 1) else i) else i
termination_by s.size - i

/-- Whether `lit` stands in `s` at position `i`. -/
def hasAt (s : Array Char) (i : Nat) (lit : String) : Bool :=
  i + lit.length ≤ s.size && (lit.toList.zipIdx.all fun (c, k) => s[i + k]? == some c)

/-- The characters from `i` to before `j`. -/
def slice (s : Array Char) (i j : Nat) : List Char := ((s.toList.drop i).take (j - i))

def isDigit (c : Char) : Bool := '0' ≤ c && c ≤ '9'

/-- The value of a hexadecimal digit. -/
def hexValue? (c : Char) : Option Nat :=
  if '0' ≤ c ∧ c ≤ '9' then some (c.toNat - '0'.toNat)
  else if 'a' ≤ c ∧ c ≤ 'f' then some (c.toNat - 'a'.toNat + 10)
  else if 'A' ≤ c ∧ c ≤ 'F' then some (c.toNat - 'A'.toNat + 10)
  else none

/-- The value of the four hexadecimal digits at `i`. -/
def hex4? (s : Array Char) (i : Nat) : Option Nat := do
  let a ← hexValue? (← s[i]?)
  let b ← hexValue? (← s[i + 1]?)
  let c ← hexValue? (← s[i + 2]?)
  let d ← hexValue? (← s[i + 3]?)
  pure (((a * 16 + b) * 16 + c) * 16 + d)

/-- The code point a one-letter escape stands for. -/
def simpleEscape? : Char → Option Nat
  | '"' => some 0x22
  | '\\' => some 0x5C
  | '/' => some 0x2F
  | 'b' => some 0x08
  | 'f' => some 0x0C
  | 'n' => some 0x0A
  | 'r' => some 0x0D
  | 't' => some 0x09
  | _ => none

/-- The rest of a string whose opening quote is at `start`, read from `i`; `acc` holds the code
points read, reversed. Returns the code points and the position after the closing quote. -/
def readString (s : Array Char) (start : Nat) (i : Nat) (acc : List Nat) :
    Except Error (List Nat × Nat) :=
  if h : i < s.size then
    let c := s[i]
    if c == '"' then .ok (acc.reverse, i + 1)
    else if c == '\\' then
      if i + 1 = s.size then .error ⟨.unterminated, start⟩
      else
        let e := s[i + 1]!
        if e == 'u' then
          if i + 6 ≥ s.size then .error ⟨.badUnicodeEscape, i + 1⟩
          else match hex4? s (i + 2) with
            | none => .error ⟨.badUnicodeEscape, i + 1⟩
            | some hi =>
              if 0xD800 ≤ hi ∧ hi ≤ 0xDBFF ∧ i + 12 < s.size ∧ s[i + 6]! == '\\' ∧ s[i + 7]! == 'u'
              then match hex4? s (i + 8) with
                | none => .error ⟨.badUnicodeEscape, i + 7⟩
                | some lo =>
                  if 0xDC00 ≤ lo ∧ lo ≤ 0xDFFF then
                    readString s start (i + 12) ((0x10000 + (hi - 0xD800) * 0x400 + (lo - 0xDC00)) :: acc)
                  else readString s start (i + 6) (hi :: acc)
              else readString s start (i + 6) (hi :: acc)
        else match simpleEscape? e with
          | some d => readString s start (i + 2) (d :: acc)
          | none => .error ⟨.badEscape, i⟩
    else if c.toNat ≤ 0x1F then .error ⟨.controlCharacter, i⟩
    else readString s start (i + 1) (c.toNat :: acc)
  else .error ⟨.unterminated, start⟩
termination_by s.size - i

/-- The first position from `i` that holds no decimal digit. -/
def skipDigits (s : Array Char) (i : Nat) : Nat :=
  if h : i < s.size then (if isDigit s[i] then skipDigits s (i + 1) else i) else i
termination_by s.size - i

/-- The value of a run of ASCII digits. -/
def digitsValue (ds : List Char) : Nat := ds.foldl (fun n d => n * 10 + (d.toNat - '0'.toNat)) 0

/-- A number from `start`: an optional minus, an integer part without leading zeros, then a
fraction only if a digit follows the point, and an exponent only if it has a digit. -/
def readNumber (s : Array Char) (start : Nat) : Except Error (Value × Nat) :=
  let negative := s[start]? == some '-'
  let i := if negative then start + 1 else start
  match s[i]? with
  | none => .error ⟨.expectingValue, start⟩
  | some c =>
    if c == '0' ∨ isDigit c then
      let intEnd := if c == '0' then i + 1 else skipDigits s (i + 1)
      let (fracEnd, hasFrac) :=
        if intEnd + 1 < s.size ∧ s[intEnd]? == some '.' ∧ (s[intEnd + 1]?.map isDigit) == some true
        then (skipDigits s (intEnd + 2), true) else (intEnd, false)
      let (numEnd, hasExp) :=
        if fracEnd + 1 < s.size ∧ (s[fracEnd]? == some 'e' ∨ s[fracEnd]? == some 'E') then
          let j := if fracEnd + 2 < s.size ∧ (s[fracEnd + 1]? == some '-' ∨ s[fracEnd + 1]? == some '+')
            then fracEnd + 2 else fracEnd + 1
          let k := skipDigits s j
          if k > j then (k, true) else (fracEnd, false)
        else (fracEnd, false)
      let whole := slice s i intEnd
      let frac := if hasFrac then slice s (intEnd + 1) fracEnd else []
      if hasFrac ∨ hasExp then
        let expText := if hasExp then slice s (fracEnd + 1) numEnd else []
        let expValue : Int := match expText with
          | '-' :: ds => -(digitsValue ds : Int)
          | '+' :: ds => digitsValue ds
          | ds => digitsValue ds
        .ok (.float (Double.ofDecimal negative (digitsValue (whole ++ frac)) (expValue - frac.length)),
          numEnd)
      else if whole.length > Number.decimalDigitLimit then .error ⟨.tooManyDigits whole.length, start⟩
      else
        let n : Int := digitsValue whole
        .ok (.int (if negative then -n else n), numEnd)
    else .error ⟨.expectingValue, start⟩

mutual

/-- A value from position `i`, and the position after it; at most `room` more arrays and
objects may open inside it, and `fuel` bounds the steps. -/
def readValue (s : Array Char) (i room : Nat) : Nat → Except Error (Value × Nat)
  | 0 => .error ⟨.expectingValue, i⟩
  | fuel + 1 =>
    match s[i]? with
    | none => .error ⟨.expectingValue, i⟩
    | some '"' => (readString s i (i + 1) []).map fun (t, j) => (Value.ofCodes t, j)
    | some '{' =>
      match room with
      | 0 => .error ⟨.tooDeep, i⟩
      | room + 1 =>
        let j := skipBlank s (i + 1)
        if s[j]? == some '}' then .ok (.map [], j + 1) else readMembers s j room [] fuel
    | some '[' =>
      match room with
      | 0 => .error ⟨.tooDeep, i⟩
      | room + 1 =>
        let j := skipBlank s (i + 1)
        if s[j]? == some ']' then .ok (.list [], j + 1) else readItems s j room [] fuel
    | some c =>
      if c == 'n' ∧ hasAt s i "null" then .ok (.null, i + 4)
      else if c == 't' ∧ hasAt s i "true" then .ok (.bool true, i + 4)
      else if c == 'f' ∧ hasAt s i "false" then .ok (.bool false, i + 5)
      else if c == 'N' ∧ hasAt s i "NaN" then .ok (.float Double.nan, i + 3)
      else if c == 'I' ∧ hasAt s i "Infinity" then .ok (.float Double.posInfinity, i + 8)
      else if c == '-' ∧ hasAt s i "-Infinity" then .ok (.float Double.negInfinity, i + 9)
      else readNumber s i
termination_by structural fuel => fuel

/-- The members of an object from position `i`, after those in `acc`; `room` more arrays and
objects may open in each value. -/
def readMembers (s : Array Char) (i room : Nat) (acc : List (Value × Value)) :
    Nat → Except Error (Value × Nat)
  | 0 => .error ⟨.expectingValue, i⟩
  | fuel + 1 =>
    if s[i]? != some '"' then .error ⟨.expectingName, i⟩ else
    match readString s i (i + 1) [] with
    | .error e => .error e
    | .ok (key, j) =>
      let j := skipBlank s j
      if s[j]? != some ':' then .error ⟨.expectingColon, j⟩ else
      match readValue s (skipBlank s (j + 1)) room fuel with
      | .error e => .error e
      | .ok (v, k) =>
        let acc := Value.setKey acc (Value.ofCodes key) v
        let k := skipBlank s k
        if s[k]? == some '}' then .ok (.map acc, k + 1)
        else if s[k]? != some ',' then .error ⟨.expectingComma, k⟩
        else readMembers s (skipBlank s (k + 1)) room acc fuel
termination_by structural fuel => fuel

/-- The items of an array from position `i`, after those in `acc`, reversed; `room` more arrays
and objects may open in each item. -/
def readItems (s : Array Char) (i room : Nat) (acc : List Value) : Nat → Except Error (Value × Nat)
  | 0 => .error ⟨.expectingValue, i⟩
  | fuel + 1 =>
    match readValue s i room fuel with
    | .error e => .error e
    | .ok (v, k) =>
      let k := skipBlank s k
      if s[k]? == some ']' then .ok (.list (v :: acc).reverse, k + 1)
      else if s[k]? != some ',' then .error ⟨.expectingComma, k⟩
      else readItems s (skipBlank s (k + 1)) room (v :: acc) fuel
termination_by structural fuel => fuel

end

/-- Read a whole JSON text: one value with white space around it. Arrays and objects nest at
most `room` deep: a reader that enters each one by a call of its own runs out of calls deeper
than that. -/
def read (room : Nat) (text : String) : Except Error Value :=
  let s := text.toList.toArray
  if s[0]? == some '\uFEFF' then .error ⟨.byteOrderMark, 0⟩ else
  match readValue s (skipBlank s 0) room (2 * s.size + 2) with
  | .error e => .error e
  | .ok (v, j) =>
    let j := skipBlank s j
    if j = s.size then .ok v else .error ⟨.extraData, j⟩

end Gamebook.Json
