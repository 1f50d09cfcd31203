import Gamebook.Data.Yaml.Token.State
/- Reading scalars. A plain scalar runs to a `: ` or ` #`, in flow collections also to `,`, `?`
   and brackets, and may go on over lines indented deeper than its block; its line breaks fold
   to spaces, an empty line to a newline. Quoted scalars fold the same way; in single quotes a
   doubled quote is a quote, in double quotes a backslash starts an escape. A literal block
   keeps its line breaks, a folded block folds lines that start without a blank; `-` drops the
   final break and `+` keeps the trailing empty lines. -/
namespace Gamebook.Yaml

namespace TokenM

/-- Read spaces and line breaks after a line of a plain scalar: what they fold to, or nothing
when a document marker follows, which ends the scalar. The reading stands three calls below the
one that reads the token. -/
def plainSpaces : TokenM (Option String) := do
  let blanks ← takeWhile (· == ' ')
  if !blanks.isEmpty && (← atEnd) then reachFrom 5
  if isBreak (← here) then
    let first ← lineBreakAt 4
    setAllowKey true
    if ← atDocumentMarker then return none
    let mut breaks := ""
    for _ in [0:(← get).room] do
      let c ← here
      if c == ' ' then skipAt 4 1
      else if isBreak c then
        breaks := breaks ++ (← lineBreakAt 4)
        if ← atDocumentMarker then return none
      else break
    if first != "\n" then return some (first ++ breaks)
    else if breaks.isEmpty then return some " "
    else return some breaks
  else return some blanks

/-- Whether a plain scalar ends at the character `k` places ahead. -/
def endsPlain (flow : Bool) (k : Nat) : TokenM Bool := do
  let c ← peek k
  let next ← peek (k + 1)
  return isBlankOrEnd c ||
    (c == ':' && (isBlankOrEnd next || (flow && ",[]\x7b\x7d".contains next))) ||
    (flow && ",?[]\x7b\x7d".contains c)

/-- The length of the run of a plain scalar from here. -/
def plainRun (flow : Bool) : TokenM Nat := do
  let mut n := 0
  for _ in [0:(← get).room] do
    if ← endsPlain flow n then break
    n := n + 1
  return n

/-- Read a plain scalar. -/
def plainScalar : TokenM Token := do
  let start ← mark
  let mut stop := start
  let indent := (← get).indent + 1
  let mut text := ""
  let mut spaces := ""
  for _ in [0:(← get).room] do
    if (← here) == '#' then break
    let n ← plainRun ((← get).flowLevel != 0)
    if n == 0 then break
    setAllowKey false
    text := text ++ spaces ++ (← TokenM.text n)
    skip n
    stop ← mark
    match ← plainSpaces with
    | none => break
    | some sp =>
      spaces := sp
      let s ← get
      if sp.isEmpty || s.peekAt 0 == '#' || (s.flowLevel == 0 && (s.column : Int) < indent) then
        break
  return ⟨.scalar (Codes.ofString text) true .plain, start, stop⟩

/-- What a one-character escape in double quotes stands for. -/
def escapeOf (c : Char) : Option Char :=
  match c with
  | '0' => some '\x00'
  | 'a' => some '\x07'
  | 'b' => some '\x08'
  | 't' | '\t' => some '\t'
  | 'n' => some '\n'
  | 'v' => some '\x0b'
  | 'f' => some '\x0c'
  | 'r' => some '\r'
  | 'e' => some '\x1b'
  | ' ' => some ' '
  | '"' => some '"'
  | '/' => some '/'
  | '\\' => some '\\'
  | 'N' => some '\x85'
  | '_' => some '\xa0'
  | 'L' => some '\u2028'
  | 'P' => some '\u2029'
  | _ => none

/-- The number of hexadecimal digits after an escape `\x`, `\u` or `\U`. -/
def escapeWidth (c : Char) : Option Nat :=
  match c with
  | 'x' => some 2
  | 'u' => some 4
  | 'U' => some 8
  | _ => none

/-- Read the line breaks inside a quoted scalar, with the blanks around them; a document marker
at the start of a line is an error. -/
def quotedBreaks (start : Mark) : TokenM String := do
  let mut out := ""
  for _ in [0:(← get).room] do
    reachFrom 6
    if ← atDocumentMarker then
      fail "while scanning a quoted scalar" start "found unexpected document separator"
    skipWhile fun c => c == ' ' || c == '\t'
    if isBreak (← here) then out := out ++ (← lineBreakAt 6)
    else break
  return out

/-- Read the next piece of a quoted scalar that holds no blanks, as code points: an escape may
write a lone surrogate. -/
def quotedWord (double : Bool) (start : Mark) : TokenM (Array Nat) := do
  let mut out : Array Nat := #[]
  for _ in [0:(← get).room] do
    let run ← takeWhile fun c => !(c == '\'' || c == '"' || c == '\\' || isBlankOrEnd c)
    out := out ++ (Codes.ofString run).toArray
    let c ← here
    if !double && c == '\'' && (← peek 1) == '\'' then
      out := out.push '\''.toNat
      skip 2
    else if (double && c == '\'') || (!double && (c == '"' || c == '\\')) then
      out := out.push c.toNat
      skip 1
    else if double && c == '\\' then
      skip 1
      let e ← here
      match escapeOf e, escapeWidth e with
      | some r, _ =>
        out := out.push r.toNat
        skip 1
      | none, some width =>
        skip 1
        for k in [0:width] do
          let d ← peek k
          unless isHexDigit d do
            fail "while scanning a double-quoted scalar" start
              ("expected escape sequence of " ++ toString width ++
                " hexadecimal numbers, but found " ++ textLiteral d.toString)
        let code := (← TokenM.text width).foldl (fun n d => 16 * n + hexValue d) 0
        -- the code goes into a signed 32-bit word, then must be a code point
        if code > 0x7FFFFFFF then throw (Error.overflow "Python int too large to convert to C int")
        if code > 0x10FFFF then throw (Error.badValue "chr() arg not in range(0x110000)")
        out := out.push code
        skip width
      | none, none =>
        if isBreak e then
          discard (lineBreakAt 5)
          out := out ++ (Codes.ofString (← quotedBreaks start)).toArray
        else
          fail "while scanning a double-quoted scalar" start
            ("found unknown escape character " ++ textLiteral e.toString)
    else break
  return out

/-- Read the blanks and line breaks inside a quoted scalar, as they fold. -/
def quotedSpaces (start : Mark) : TokenM String := do
  let blanks ← takeWhile fun c => c == ' ' || c == '\t'
  let c ← here
  if c == '\x00' then
    fail "while scanning a quoted scalar" start "found unexpected end of stream"
  else if isBreak c then
    let first ← lineBreakAt 5
    let breaks ← quotedBreaks start
    if first != "\n" then return first ++ breaks
    else if breaks.isEmpty then return " "
    else return breaks
  else return blanks

/-- Read a single- or double-quoted scalar. -/
def quotedScalar (double : Bool) : TokenM Token := do
  let start ← mark
  let quote ← here
  skip 1
  let mut text ← quotedWord double start
  for _ in [0:(← get).room] do
    if (← here) == quote then break
    text := text ++ (Codes.ofString (← quotedSpaces start)).toArray
    text := text ++ (← quotedWord double start)
  skip 1
  return ⟨.scalar text.toList false (if double then .double else .single), start, ← mark⟩

/-- Read the header of a block scalar: chomping (`+` keep, `-` strip) and an indentation
indicator from 1 to 9, in either order. -/
def blockIndicators (start : Mark) : TokenM (Option Bool × Option Nat) := do
  let context := "while scanning a block scalar"
  let zero := "expected indentation indicator in the range 1-9, but found 0"
  let mut chomping : Option Bool := none
  let mut increment : Option Nat := none
  let c ← here
  if c == '+' || c == '-' then
    chomping := some (c == '+')
    skip 1
    let d ← here
    if '0' ≤ d && d ≤ '9' then
      if d == '0' then fail context start zero
      increment := some (d.toNat - '0'.toNat)
      skip 1
  else if '0' ≤ c && c ≤ '9' then
    if c == '0' then fail context start zero
    increment := some (c.toNat - '0'.toNat)
    skip 1
    let d ← here
    if d == '+' || d == '-' then
      chomping := some (d == '+')
      skip 1
  let c ← here
  unless isSpaceOrEnd c do
    fail context start
      ("expected chomping or indentation indicators, but found " ++ textLiteral c.toString)
  return (chomping, increment)

/-- Read the rest of a header or directive line: blanks and a comment, then a line break. -/
def endOfLine (context : String) (start : Mark) : TokenM Unit := do
  skipWhile (· == ' ')
  if (← here) == '#' then skipWhile fun c => !isBreakOrEnd c
  let c ← here
  unless isBreakOrEnd c do
    fail context start ("expected a comment or a line break, but found " ++ textLiteral c.toString)
  discard (lineBreakAt 5)

/-- Read the empty lines before the first line of a block scalar without an indentation
indicator: the breaks, the deepest indent seen, and where they end. -/
def blockIndentation : TokenM (List String × Nat × Mark) := do
  let mut breaks : List String := []
  let mut deepest := 0
  let mut stop ← mark
  for _ in [0:(← get).room] do
    let c ← here
    if c == ' ' then
      skip 1
      deepest := max deepest (← get).column
    else if isBreak c then
      breaks := breaks ++ [← lineBreakAt 5]
      stop ← mark
    else break
  return (breaks, deepest, stop)

/-- Read the indent up to `indent` and the empty lines of a block scalar. -/
def blockBreaks (indent : Int) : TokenM (List String × Mark) := do
  let mut breaks : List String := []
  let mut stop ← mark
  let s ← get
  skip (s.runLength (· == ' ') |>.min (indent - s.column).toNat)
  for _ in [0:(← get).room] do
    if isBreak (← here) then
      breaks := breaks ++ [← lineBreakAt 5]
      stop ← mark
      let s ← get
      skip (s.runLength (· == ' ') |>.min (indent - s.column).toNat)
    else break
  return (breaks, stop)

/-- Read a literal (`|`) or folded (`>`) block scalar. -/
def blockScalar (folded : Bool) : TokenM Token := do
  let start ← mark
  skip 1
  let (chomping, increment) ← blockIndicators start
  endOfLine "while scanning a block scalar" start
  let minIndent : Int := max ((← get).indent + 1) 1
  let (first, indent, firstStop) ← match increment with
    | none => do
      let (bs, deepest, stop) ← blockIndentation
      pure (bs, max minIndent (deepest : Int), stop)
    | some inc => do
      let indent := minIndent + inc - 1
      let (bs, stop) ← blockBreaks indent
      pure (bs, indent, stop)
  let mut text := ""
  let mut breaks := first
  let mut stop := firstStop
  let mut lastBreak := ""
  for _ in [0:(← get).room] do
    let s ← get
    unless (s.column : Int) == indent && s.peekAt 0 != '\x00' do break
    text := text ++ String.join breaks
    let leadingNonBlank := !(s.peekAt 0 == ' ' || s.peekAt 0 == '\t')
    text := text ++ (← takeWhile fun c => !isBreakOrEnd c)
    lastBreak ← lineBreakAt 4
    let (bs, st) ← blockBreaks indent
    breaks := bs
    stop := st
    let s ← get
    if (s.column : Int) == indent && s.peekAt 0 != '\x00' then
      if folded && lastBreak == "\n" && leadingNonBlank && !(s.peekAt 0 == ' ' || s.peekAt 0 == '\t') then
        if breaks.isEmpty then text := text ++ " "
      else text := text ++ lastBreak
    else break
  if chomping != some false then text := text ++ lastBreak
  if chomping == some true then text := text ++ String.join breaks
  return ⟨.scalar (Codes.ofString text) false (if folded then .folded else .literal), start, stop⟩

end TokenM

end Gamebook.Yaml
