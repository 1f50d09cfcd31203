import Gamebook.Data.Yaml.Token.State
import Gamebook.Number.Read
/- Reading the tokens that mark nodes and documents rather than hold their content: anchors
   `&name` and aliases `*name` of ASCII letters, digits, `-` and `_`; tags `!suffix`,
   `!handle!suffix` and `!<uri>`, whose URI characters may be `%`-escaped UTF-8; and the
   directives `%YAML major.minor` and `%TAG handle prefix`. -/
namespace Gamebook.Yaml

/-- Characters that may stand in a tag's URI. -/
def isUriChar (c : Char) : Bool :=
  isWordChar c || "-;/?:@&=+$,_.!~*'()[]%".contains c

/-- Decode UTF-8 bytes, or say at which byte and why they are not UTF-8. -/
def decodeUtf8 (bytes : List Nat) : Except String String :=
  go bytes 0 "" (bytes.length + 1)
where
  cont (b : Nat) : Bool := 0x80 ≤ b && b < 0xC0
  bad (pos : Nat) (b : Nat) (why : String) : Except String String :=
    .error ("'utf-8' codec can't decode byte 0x" ++ hexDigits 2 b ++ " in position " ++
      toString pos ++ ": " ++ why)
  go (bs : List Nat) (pos : Nat) (acc : String) : Nat → Except String String
    | 0 => .ok acc
    | fuel + 1 =>
      match bs with
      | [] => .ok acc
      | b :: rest =>
        if b < 0x80 then go rest (pos + 1) (acc.push (Char.ofNat b)) fuel
        else
          let width := if 0xC2 ≤ b && b < 0xE0 then 2 else if 0xE0 ≤ b && b < 0xF0 then 3
            else if 0xF0 ≤ b && b < 0xF5 then 4 else 0
          if width == 0 then bad pos b "invalid start byte" else
          let tail := rest.take (width - 1)
          let lo := if b == 0xE0 then 0xA0 else if b == 0xF0 then 0x90 else 0x80
          let hi := if b == 0xED then 0xA0 else if b == 0xF4 then 0x90 else 0xC0
          let okAt (i : Nat) (t : Nat) : Bool := if i == 0 then lo ≤ t && t < hi else cont t
          let good := (tail.zipIdx.takeWhile fun (t, i) => okAt i t).length
          if good < width - 1 then
            if good == tail.length then
              .error ("'utf-8' codec can't decode " ++
                (if good == 0 then "byte 0x" ++ hexDigits 2 b ++ " in position " ++ toString pos
                  else "bytes in position " ++ toString pos ++ "-" ++ toString (pos + good)) ++
                ": unexpected end of data")
            else if good == 0 then bad pos b "invalid continuation byte"
            else .error ("'utf-8' codec can't decode bytes in position " ++ toString pos ++ "-" ++
              toString (pos + good) ++ ": invalid continuation byte")
          else
            let first := if width == 2 then b % 0x20 else if width == 3 then b % 0x10 else b % 0x08
            let code := tail.foldl (fun n t => n * 64 + t % 64) first
            go (rest.drop (width - 1)) (pos + width) (acc.push (Char.ofNat code)) fuel

namespace TokenM

/-- Read an anchor `&name` or an alias `*name`. -/
def anchorOrAlias (isAlias : Bool) : TokenM Token := do
  let start ← mark
  let context := if isAlias then "while scanning an alias" else "while scanning an anchor"
  skip 1
  let name ← takeWhile isWordChar
  let c ← here
  if name.isEmpty || !(isBlankOrEnd c || "?:,]\x7d%@`".contains c) then
    fail context start
      ("expected alphabetic or numeric character, but found " ++ textLiteral c.toString)
  return ⟨if isAlias then .reference name else .anchor name, start, ← mark⟩

/-- Read `%`-escaped bytes of a URI, as UTF-8. -/
def uriEscapes (what : String) (start : Mark) : TokenM String := do
  madeAt 5
  let context := "while scanning a " ++ what
  let escapes ← mark
  let mut bytes : List Nat := []
  for _ in [0:(← get).room] do
    unless (← here) == '%' do break
    skip 1
    for k in [0:2] do
      let d ← peek k
      unless isHexDigit d do
        fail context start
          ("expected URI escape sequence of 2 hexadecimal numbers, but found " ++
            textLiteral d.toString)
    bytes := bytes ++ [16 * hexValue (← peek 0) + hexValue (← peek 1)]
    skip 2
  match decodeUtf8 bytes with
  | .ok t => return t
  | .error why => throw (Error.within context start why escapes)

/-- Read the URI of a tag or a tag prefix. -/
def tagUri (what : String) (start : Mark) : TokenM String := do
  let mut pieces : List String := []
  for _ in [0:(← get).room] do
    let run ← takeWhile fun c => isUriChar c && c != '%'
    let c ← here
    if c == '%' then
      pieces := pieces ++ [run, ← uriEscapes what start]
    else
      unless run.isEmpty do pieces := pieces ++ [run]
      break
  if pieces.isEmpty then
    fail ("while parsing a " ++ what) start ("expected URI, but found " ++ textLiteral (← here).toString)
  return String.join pieces

/-- Read a tag handle `!`, `!!` or `!name!`. -/
def tagHandle (what : String) (start : Mark) : TokenM String := do
  let context := "while scanning a " ++ what
  let c ← here
  unless c == '!' do fail context start ("expected '!', but found " ++ textLiteral c.toString)
  let mut n := 1
  if (← peek 1) != ' ' then
    n := 1 + ((← get).forward 1).runLength isWordChar
    let c ← peek n
    if c != '!' then
      skip n
      fail context start ("expected '!', but found " ++ textLiteral c.toString)
    n := n + 1
  let handle ← text n
  skip n
  return handle

/-- Read a tag. -/
def tag : TokenM Token := do
  let start ← mark
  let c ← peek 1
  let (handle, suffix) ← if c == '<' then do
      skip 2
      let suffix ← tagUri "tag" start
      let c ← here
      unless c == '>' do
        fail "while parsing a tag" start ("expected '>', but found " ++ textLiteral c.toString)
      skip 1
      pure (none, suffix)
    else if isBlankOrEnd c then do
      skip 1
      pure (none, "!")
    else do
      let s ← get
      let word := (s.forward 1).runLength fun c => !isSpaceOrEnd c && c != '!'
      let handle ← if s.peekAt (1 + word) == '!' then tagHandle "tag" start
        else do
          skip 1
          pure "!"
      pure (some handle, ← tagUri "tag" start)
  let c ← here
  unless isSpaceOrEnd c do
    fail "while scanning a tag" start ("expected ' ', but found " ++ textLiteral c.toString)
  return ⟨.tag handle suffix, start, ← mark⟩

/-- Read the digits of a version number. -/
def versionNumber (start : Mark) : TokenM Nat := do
  let c ← here
  unless '0' ≤ c && c ≤ '9' do
    fail "while scanning a directive" start ("expected a digit, but found " ++ textLiteral c.toString)
  let digits ← takeWhile fun c => '0' ≤ c && c ≤ '9'
  if digits.length > Number.decimalDigitLimit then
    throw (Error.badValue (Number.tooManyDigitsMessage digits.length))
  return digits.foldl (fun n d => 10 * n + (d.toNat - '0'.toNat)) 0

/-- Read a directive. -/
def directive : TokenM Token := do
  let start ← mark
  let context := "while scanning a directive"
  skip 1
  let name ← takeWhile isWordChar
  let c ← here
  if name.isEmpty || !isSpaceOrEnd c then
    fail context start ("expected alphabetic or numeric character, but found " ++ textLiteral c.toString)
  let value ← if name == "YAML" then do
      skipWhile (· == ' ')
      let major ← versionNumber start
      let c ← here
      unless c == '.' do fail context start ("expected a digit or '.', but found " ++ textLiteral c.toString)
      skip 1
      let minor ← versionNumber start
      let c ← here
      unless isSpaceOrEnd c do
        fail context start ("expected a digit or ' ', but found " ++ textLiteral c.toString)
      pure (Directive.version major minor)
    else if name == "TAG" then do
      skipWhile (· == ' ')
      let handle ← tagHandle "directive" start
      let c ← here
      unless c == ' ' do fail context start ("expected ' ', but found " ++ textLiteral c.toString)
      skipWhile (· == ' ')
      let pre ← tagUri "directive" start
      let c ← here
      unless isSpaceOrEnd c do fail context start ("expected ' ', but found " ++ textLiteral c.toString)
      pure (Directive.tagShorthand handle pre)
    else pure Directive.other
  let stop ← mark
  if value == .other then skipWhile fun c => !isBreakOrEnd c
  skipWhile (· == ' ')
  if (← here) == '#' then skipWhile fun c => !isBreakOrEnd c
  let c ← here
  unless isBreakOrEnd c do
    fail context start ("expected a comment or a line break, but found " ++ textLiteral c.toString)
  discard lineBreak
  return ⟨.directive name value, start, stop⟩

end TokenM

end Gamebook.Yaml
