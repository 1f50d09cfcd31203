import Gamebook.Data.Yaml.Mark
import Gamebook.Data.Value
import Gamebook.Number.Read
import Gamebook.Number.Arith
import Gamebook.Unicode.Lower
/- The values of scalars with the standard tags. Integers drop their underscores and may be
   binary (`0b`), hexadecimal (`0x`), octal (a leading `0`) or base 60 (`1:30`); floats likewise,
   with `.inf` and `.nan`; truth values are the words yes/no, true/false, on/off in any case;
   timestamps are dates, or dates with a time and an optional offset from UTC; binary data is
   base64. A text that the tag does not fit is an error of the kind its reading gives. -/
namespace Gamebook.Yaml

/-- The code point of a character. -/
def code (c : Char) : Nat := c.toNat

/-- The pieces of code points between the separators `sep`. -/
def splitCodes (sep : Nat) (cs : List Nat) : List (List Nat) :=
  let (done, cur) := cs.foldl (fun (acc : List (List Nat) × List Nat) n =>
    if n == sep then (acc.2.reverse :: acc.1, []) else (acc.1, n :: acc.2)) ([], [])
  (cur.reverse :: done).reverse

/-- Read an integer in a base, as a YAML error; the message shows the text as written, lone
surrogates and all. -/
def intIn (cs : List Nat) (base : Nat) : Except Error Int :=
  match Number.readInt (Codes.toString cs) base with
  | .ok n => .ok n
  | .error e => .error (.badValue (e.describe (codesLiteral cs) base))

/-- The value of an integer scalar. -/
def intOf (text : List Nat) : Except Error Int := do
  let v := text.filter (· != code '_')
  let some c := v.head? | throw .emptyNumber
  let sign : Int := if c == code '-' then -1 else 1
  let v := if c == code '+' || c == code '-' then v.drop 1 else v
  if v == [code '0'] then return 0
  if v.take 2 == Codes.ofString "0b" then return sign * (← intIn (v.drop 2) 2)
  if v.take 2 == Codes.ofString "0x" then return sign * (← intIn (v.drop 2) 16)
  match v.head? with
  | none => throw .emptyNumber
  | some d =>
    if d == code '0' then return sign * (← intIn v 8)
    if v.contains (code ':') then
      let parts ← (splitCodes (code ':') v).mapM (intIn · 10)
      return sign * parts.foldl (fun acc d => 60 * acc + d) 0
    else return sign * (← intIn v 10)

/-- Read a float, as a YAML error. -/
def floatIn (cs : List Nat) : Except Error Double :=
  match Number.readFloat? (Codes.toString cs) with
  | some x => .ok x
  | none => .error (.badValue ("could not convert string to float: " ++ codesLiteral cs))

/-- The value of a float scalar; base-60 parts add up in floating point, lowest first, each
times its power of 60 made a float, which fails past the largest float. -/
def floatOf (text : List Nat) : Except Error Double := do
  let v := Codes.lower (text.filter (· != code '_'))
  let some c := v.head? | throw .emptyNumber
  let negative := c == code '-'
  let v := if c == code '+' || c == code '-' then v.drop 1 else v
  let signed (x : Double) : Double := if negative then x.negate else x
  if v == Codes.ofString ".inf" then return signed Double.posInfinity
  if v == Codes.ofString ".nan" then return Double.nan
  if v.contains (code ':') then
    let parts ← (splitCodes (code ':') v).mapM floatIn
    let mut sum : Double := ⟨0⟩
    let mut scale : Nat := 1
    for d in parts.reverse do
      unless Double.natFits scale do throw (.overflow "int too large to convert to float")
      sum := sum.add (d.mul (Double.ofInt scale))
      scale := scale * 60
    return signed sum
  return signed (← floatIn v)

/-- Whether a float scalar's text is the spelling of NaN that stands for one shared value
(`.nan` in any case, with a sign or underscores), rather than a NaN made anew. -/
def isSharedNaN (text : List Nat) : Bool :=
  let v := Codes.lower (text.filter (· != code '_'))
  let v := match v.head? with
    | some c => if c == code '+' || c == code '-' then v.drop 1 else v
    | none => v
  v == Codes.ofString ".nan"

/-- The value of a truth-value scalar. -/
def boolOf (text : List Nat) : Except Error Bool :=
  let w := Codes.lower text
  if ["yes", "true", "on"].any (fun t => w == Codes.ofString t) then .ok true
  else if ["no", "false", "off"].any (fun t => w == Codes.ofString t) then .ok false
  else .error (.unknownWord (codesLiteral w))

/-- `n` ASCII digits at the front: their value and the rest. -/
def fixedDigits : Nat → List Char → Option (Nat × List Char)
  | 0, cs => some (0, cs)
  | n + 1, c :: rest =>
    if '0' ≤ c && c ≤ '9' then
      (fixedDigits n rest).map fun (v, r) => ((c.toNat - '0'.toNat) * Nat.pow 10 n + v, r)
    else none
  | _ + 1, [] => none

/-- One or two ASCII digits at the front, the second taken when there is one. -/
def shortDigits (cs : List Char) : Option (Nat × List Char) :=
  match fixedDigits 2 cs with
  | some r => some r
  | none => fixedDigits 1 cs

/-- A month or day: one or two digits, whichever lets `sep` follow. -/
def fieldBefore (sep : Char) (cs : List Char) : Option (Nat × List Char) :=
  match fixedDigits 2 cs with
  | some (v, s :: rest) => if s == sep then some (v, rest) else
      match fixedDigits 1 cs with
      | some (v, s :: rest) => if s == sep then some (v, rest) else none
      | _ => none
  | _ => match fixedDigits 1 cs with
      | some (v, s :: rest) => if s == sep then some (v, rest) else none
      | _ => none

/-- The parts of a timestamp text. -/
structure StampParts where
  year : Nat
  month : Nat
  day : Nat
  /-- hour, minute, second, microsecond -/
  time : Option (Nat × Nat × Nat × Nat)
  /-- `Z`, or a sign with hours and minutes -/
  zone : Option (Option (Bool × Nat × Nat))

def isBlank (c : Char) : Bool := c == ' ' || c == '\t'

/-- The zone at the end of a time: blanks, then `Z` or a signed offset. -/
def zoneOf (cs : List Char) : Option (Option (Option (Bool × Nat × Nat))) :=
  match cs.dropWhile isBlank with
  | [] => if cs.isEmpty then some none else none
  | ['Z'] => some (some none)
  | s :: rest =>
    if s != '-' && s != '+' then none else
    match fixedDigits 2 rest with
    | some (h, []) => some (some (some (s == '-', h, 0)))
    | some (h, ':' :: m) => match fixedDigits 2 m with
      | some (mm, []) => some (some (some (s == '-', h, mm)))
      | _ => none
    | _ => match fixedDigits 1 rest with
      | some (h, []) => some (some (some (s == '-', h, 0)))
      | some (h, ':' :: m) => match fixedDigits 2 m with
        | some (mm, []) => some (some (some (s == '-', h, mm)))
        | _ => none
      | _ => none

/-- The time after the date: hour, minute, second, fraction and zone. -/
def timeOf (cs : List Char) : Option ((Nat × Nat × Nat × Nat) × Option (Option (Bool × Nat × Nat))) := do
  let (h, rest) ← match fieldBefore ':' cs with
    | some r => some r
    | none => none
  let (m, rest) ← match fixedDigits 2 rest with
    | some (m, ':' :: r) => some (m, r)
    | _ => none
  let (sec, rest) ← fixedDigits 2 rest
  let (micro, rest) := match rest with
    | '.' :: f =>
      let ds := f.takeWhile fun c => '0' ≤ c && c ≤ '9'
      let six := (ds.take 6 ++ List.replicate (6 - ds.length) '0')
      (six.foldl (fun n d => 10 * n + (d.toNat - '0'.toNat)) 0, f.drop ds.length)
    | r => (0, r)
  let zone ← zoneOf rest
  return ((h, m, sec, micro), zone)

/-- Split a timestamp text into its parts; a final line break is allowed. -/
def stampParts (text : List Nat) : Option StampParts := do
  let cs := Codes.chars text
  let cs := if cs.getLast? == some '\n' then cs.dropLast else cs
  let (year, rest) ← match fixedDigits 4 cs with
    | some (y, '-' :: r) => some (y, r)
    | _ => none
  let (month, rest) ← fieldBefore '-' rest
  let (day, rest) ← shortDigits rest
  if rest.isEmpty then return ⟨year, month, day, none, none⟩
  let r ← match rest with
    | 'T' :: r | 't' :: r => some r
    | c :: r => if isBlank c then some (r.dropWhile isBlank) else none
    | [] => none
  let (time, zone) ← timeOf r
  return ⟨year, month, day, some time, zone⟩

/-- Check the fields of a date. -/
def checkDate (y m d : Nat) : Except Error Unit :=
  if y < 1 || y > 9999 then .error (.badValue ("year " ++ toString y ++ " is out of range"))
  else if m < 1 || m > 12 then .error (.badValue "month must be in 1..12")
  else if d < 1 || d > daysInMonth y m then .error (.badValue "day is out of range for month")
  else .ok ()

/-- The value of a timestamp scalar. -/
def stampOf (text : List Nat) : Except Error Stamp := do
  let some p := stampParts text | throw .noTimestamp
  match p.time with
  | none =>
    checkDate p.year p.month p.day
    return ⟨p.year, p.month, p.day, none⟩
  | some (h, mi, sec, micro) =>
    let offset ← match p.zone with
      | some (some (negative, zh, zm)) =>
        let minutes : Int := (if negative then -1 else 1) * ((zh * 60 + zm : Nat) : Int)
        if minutes ≤ -1440 || minutes ≥ 1440 then
          throw (.badValue ("offset must be a timedelta strictly between -timedelta(hours=24) and " ++
            "timedelta(hours=24), not " ++ spanLiteral (minutes * 60 * 1000000) ++ "."))
        pure (some minutes)
      | some none => pure (some 0)
      | none => pure none
    checkDate p.year p.month p.day
    if h > 23 then throw (.badValue "hour must be in 0..23")
    if mi > 59 then throw (.badValue "minute must be in 0..59")
    if sec > 59 then throw (.badValue "second must be in 0..59")
    return ⟨p.year, p.month, p.day, some ⟨h, mi, sec, micro, offset⟩⟩

/-- The value of a base64 character. -/
def base64Value (c : Char) : Option Nat :=
  if 'A' ≤ c && c ≤ 'Z' then some (c.toNat - 'A'.toNat)
  else if 'a' ≤ c && c ≤ 'z' then some (c.toNat - 'a'.toNat + 26)
  else if '0' ≤ c && c ≤ '9' then some (c.toNat - '0'.toNat + 52)
  else if c == '+' then some 62
  else if c == '/' then some 63
  else none

/-- Decode base64 leniently: characters outside the alphabet are skipped, and padding after two
or three characters of a group ends the data. -/
def decodeBase64 (cs : List Char) : Except String (List UInt8) :=
  go cs 0 0 0 []
where
  go : List Char → Nat → Nat → Nat → List UInt8 → Except String (List UInt8)
    | [], quad, _, _, out =>
      if quad == 0 then .ok out.reverse
      else if quad == 1 then
        .error ("Invalid base64-encoded string: number of data characters (" ++
          toString (out.length / 3 * 4 + 1) ++ ") cannot be 1 more than a multiple of 4")
      else .error "Incorrect padding"
    | c :: rest, quad, left, pads, out =>
      if c == '=' then
        if quad ≥ 2 && quad + pads + 1 ≥ 4 then .ok out.reverse
        else go rest quad left (pads + 1) out
      else match base64Value c with
        | none => go rest quad left pads out
        | some v =>
          match quad with
          | 0 => go rest 1 v 0 out
          | 1 => go rest 2 (v % 16) 0 ((left * 4 + v / 16).toUInt8 :: out)
          | 2 => go rest 3 (v % 4) 0 ((left * 16 + v / 4).toUInt8 :: out)
          | _ => go rest 0 0 0 ((left * 64 + v).toUInt8 :: out)

/-- A code point as a text-encoding error shows it: `\x`, `\u` or `\U` and lowercase hex. -/
def codeEscape (n : Nat) : String :=
  if n ≤ 0xFF then "\\x" ++ hexDigits 2 n
  else if n ≤ 0xFFFF then "\\u" ++ hexDigits 4 n
  else "\\U" ++ hexDigits 8 n

/-- The value of a binary scalar: its text must be ASCII; the first run of other characters is
reported, a single one by its escape, a longer run by its positions. -/
def bytesOf (text : List Nat) (start : Mark) : Except Error (List UInt8) :=
  match text.findIdx? (· ≥ 128) with
  | some i =>
    let run := ((text.drop i).takeWhile (· ≥ 128)).length
    let what := if run == 1 then
        "character '" ++ codeEscape (text.getD i 0) ++ "' in position " ++ toString i
      else "characters in position " ++ toString i ++ "-" ++ toString (i + run - 1)
    .error (.bare ("failed to convert base64 data into ascii: 'ascii' codec can't encode " ++
      what ++ ": ordinal not in range(128)") start)
  | none =>
    match decodeBase64 (Codes.chars text) with
    | .ok bs => .ok bs
    | .error why => .error (.bare ("failed to decode base64 data: " ++ why) start)

end Gamebook.Yaml
