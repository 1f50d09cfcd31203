import Gamebook.Data.Yaml.Resolve
import Gamebook.Data.Yaml.Mark
import Gamebook.Data.Value
import Gamebook.Number.Layout
import Gamebook.Number.Read
/- Writing a data tree as YAML in block style, keys sorted, ASCII only. A text scalar is written
   plain when that reads back as the same text, else in single quotes, else in double quotes with
   escapes; long lines of a value fold at spaces past column 80. An empty map or list is written
   `{}` or `[]`. A key longer than 122 characters, empty, or spread over lines is written as an
   explicit `? key` entry. -/
namespace Gamebook.Yaml

/-- The output so far and where it stands. -/
structure Writer where
  out : String
  column : Nat
  whitespace : Bool
  indention : Bool

namespace Writer

def start : Writer := ⟨"", 0, true, true⟩

def write (w : Writer) (data : String) : Writer :=
  { w with out := w.out ++ data, column := w.column + data.length }

def lineBreak (w : Writer) : Writer :=
  { w with out := w.out ++ "\n", column := 0, whitespace := true, indention := true }

/-- Go to a fresh line at `indent`, unless the line is still blank up to there. -/
def writeIndent (w : Writer) (indent : Nat) : Writer :=
  let w := if !w.indention || w.column > indent || (w.column == indent && !w.whitespace) then w.lineBreak
    else w
  if w.column < indent then
    { w.write (String.ofList (List.replicate (indent - w.column) ' ')) with whitespace := true }
  else w

/-- Write an indicator, after a space when one is needed and the output does not end in one. -/
def indicator (w : Writer) (ind : String) (needWhitespace whitespace indention : Bool) : Writer :=
  let data := if w.whitespace || !needWhitespace then ind else " " ++ ind
  { w.write data with whitespace := whitespace, indention := w.indention && indention }

end Writer

/-- Line breaks inside a scalar. -/
def isTextBreak (c : Char) : Bool := c == '\n' || c == '\x85' || c == '\u2028' || c == '\u2029'

/-- Characters that count as white space around indicators. -/
def isSpaceLike (c : Char) : Bool := c == '\x00' || c == ' ' || c == '\t' || c == '\r' || isTextBreak c

/-- Which styles can write a scalar. -/
structure Analysis where
  empty : Bool
  multiline : Bool
  flowPlain : Bool
  blockPlain : Bool
  singleQuoted : Bool
  block : Bool
  deriving Repr

/-- What the characters of a scalar allow. -/
structure Scan where
  blockIndicators : Bool := false
  flowIndicators : Bool := false
  lineBreaks : Bool := false
  special : Bool := false
  leadingSpace : Bool := false
  leadingBreak : Bool := false
  trailingSpace : Bool := false
  trailingBreak : Bool := false
  breakSpace : Bool := false
  spaceBreak : Bool := false
  previousSpace : Bool := false
  previousBreak : Bool := false

/-- Look at character `i` of a scalar. -/
def scanChar (s : Array Char) (st : Scan) (i : Nat) : Scan :=
  let ch := s[i]!
  let preceded := i == 0 || isSpaceLike s[i - 1]!
  let followed := i + 1 ≥ s.size || isSpaceLike s[i + 1]!
  let st :=
    if i == 0 then
      let st := if "#,[]{}&*!|>'\"%@`".contains ch then
        { st with flowIndicators := true, blockIndicators := true } else st
      let st := if ch == '?' || ch == ':' then
        { st with flowIndicators := true, blockIndicators := st.blockIndicators || followed } else st
      if ch == '-' && followed then { st with flowIndicators := true, blockIndicators := true } else st
    else
      let st := if ",?[]{}".contains ch then { st with flowIndicators := true } else st
      let st := if ch == ':' then
        { st with flowIndicators := true, blockIndicators := st.blockIndicators || followed } else st
      if ch == '#' && preceded then { st with flowIndicators := true, blockIndicators := true } else st
  let st := if isTextBreak ch then { st with lineBreaks := true } else st
  let st := if !(ch == '\n' || (' ' ≤ ch && ch ≤ '~')) then { st with special := true } else st
  if ch == ' ' then
    { st with
      leadingSpace := (st.leadingSpace || i == 0)
      trailingSpace := (st.trailingSpace || i + 1 == s.size)
      breakSpace := (st.breakSpace || st.previousBreak)
      previousSpace := true
      previousBreak := false }
  else if isTextBreak ch then
    { st with
      leadingBreak := (st.leadingBreak || i == 0)
      trailingBreak := (st.trailingBreak || i + 1 == s.size)
      spaceBreak := (st.spaceBreak || st.previousSpace)
      previousSpace := false
      previousBreak := true }
  else { st with previousSpace := false, previousBreak := false }

/-- The styles a scalar allows. -/
def analyze (text : String) : Analysis :=
  let s := text.toList.toArray
  if s.isEmpty then ⟨true, false, false, true, true, false⟩ else
  let st0 : Scan := if text.startsWith "---" || text.startsWith "..." then
    { blockIndicators := true, flowIndicators := true } else {}
  let st := (List.range s.size).foldl (scanChar s) st0
  let edges := st.leadingSpace || st.leadingBreak || st.trailingSpace || st.trailingBreak
  let noPlain := edges || st.breakSpace || st.spaceBreak || st.special || st.lineBreaks
  { empty := false
    multiline := st.lineBreaks
    flowPlain := !noPlain && !st.flowIndicators
    blockPlain := !noPlain && !st.blockIndicators
    singleQuoted := !(st.breakSpace || st.spaceBreak || st.special)
    block := !(st.trailingSpace || st.spaceBreak || st.special) }

/-- The three scalar styles used. -/
inductive Style where
  | plain
  | single
  | double
  deriving DecidableEq, Repr

/-- Where a scalar stands. -/
structure Place where
  simpleKey : Bool
  flowLevel : Nat
  indent : Nat

/-- The style of a scalar: plain when allowed and when plain text would read back as this value,
else single quotes when allowed, else double quotes. -/
def chooseStyle (a : Analysis) (plainReadsBack : Bool) (p : Place) : Style :=
  if plainReadsBack && !(p.simpleKey && (a.empty || a.multiline)) &&
      ((p.flowLevel > 0 && a.flowPlain) || (p.flowLevel == 0 && a.blockPlain)) then .plain
  else if a.singleQuoted && !(p.simpleKey && a.multiline) then .single
  else .double

/-- Write a plain scalar; with `split`, a single space past the width becomes a line break. -/
def writePlain (w : Writer) (text : String) (indent : Nat) (split : Bool) : Writer :=
  if text.isEmpty then w else
  let w := if !w.whitespace then w.write " " else w
  let w := { w with whitespace := false, indention := false }
  let s := text.toList.toArray
  let rec go (w : Writer) (spaces : Bool) (start i : Nat) (fuel : Nat) : Writer :=
    match fuel with
    | 0 => w
    | fuel + 1 =>
      let ch := s[i]?
      let (w, start) :=
        if spaces then
          if ch != some ' ' then
            if start + 1 == i && w.column > 80 && split then
              ({ w.writeIndent indent with whitespace := false, indention := false }, i)
            else (w.write (String.ofList ((s.extract start i).toList)), i)
          else (w, start)
        else if ch.isNone || ch == some ' ' || (ch.map isTextBreak) == some true then
          (w.write (String.ofList ((s.extract start i).toList)), i)
        else (w, start)
      if i ≥ s.size then w else go w (ch == some ' ') start (i + 1) fuel
  go w false 0 0 (s.size + 1)

/-- Write a single-quoted scalar: a quote is doubled, a line break is written twice. -/
def writeSingle (w : Writer) (text : String) (indent : Nat) (split : Bool) : Writer :=
  let w := w.indicator "'" true false false
  let s := text.toList.toArray
  let rec go (w : Writer) (spaces breaks : Bool) (start i : Nat) (fuel : Nat) : Writer :=
    match fuel with
    | 0 => w
    | fuel + 1 =>
      let ch := s[i]?
      let (w, start) :=
        if spaces then
          if ch != some ' ' then
            if start + 1 == i && w.column > 80 && split && start != 0 && i != s.size then
              (w.writeIndent indent, i)
            else (w.write (String.ofList ((s.extract start i).toList)), i)
          else (w, start)
        else if breaks then
          if ch.isNone || (ch.map isTextBreak) == some false then
            let w := if s[start]? == some '\n' then w.lineBreak else w
            let w := (s.extract start i).toList.foldl (fun w br =>
              if br == '\n' then w.lineBreak
              else { w with out := w.out ++ br.toString, column := 0, whitespace := true, indention := true }) w
            (w.writeIndent indent, i)
          else (w, start)
        else if ch.isNone || ch == some ' ' || (ch.map isTextBreak) == some true || ch == some '\'' then
          if start < i then (w.write (String.ofList ((s.extract start i).toList)), i) else (w, start)
        else (w, start)
      let (w, start) := if ch == some '\'' then (w.write "''", i + 1) else (w, start)
      if i ≥ s.size then w
      else go w (ch == some ' ') ((ch.map isTextBreak).getD false) start (i + 1) fuel
  (go w false false 0 0 (s.size + 1)).indicator "'" false false false

/-- Uppercase hexadecimal of `width` digits. -/
def hexUpper (width n : Nat) : String :=
  let ds := (Nat.toDigits 16 n).map Char.toUpper
  String.ofList (List.replicate (width - ds.length) '0' ++ ds)

/-- The escape of a character in a double-quoted scalar. -/
def escape (c : Char) : String :=
  match c with
  | '\x00' => "\\0"
  | '\x07' => "\\a"
  | '\x08' => "\\b"
  | '\t' => "\\t"
  | '\n' => "\\n"
  | '\x0b' => "\\v"
  | '\x0c' => "\\f"
  | '\r' => "\\r"
  | '\x1b' => "\\e"
  | '"' => "\\\""
  | '\\' => "\\\\"
  | '\x85' => "\\N"
  | '\xa0' => "\\_"
  | '\u2028' => "\\L"
  | '\u2029' => "\\P"
  | c =>
    if c.toNat ≤ 0xFF then "\\x" ++ hexUpper 2 c.toNat
    else if c.toNat ≤ 0xFFFF then "\\u" ++ hexUpper 4 c.toNat
    else "\\U" ++ hexUpper 8 c.toNat

/-- Characters written as they are inside double quotes. -/
def isPlainInDouble (c : Char) : Bool := ' ' ≤ c && c ≤ '~' && c != '"' && c != '\\'

/-- Write a double-quoted scalar; with `split`, long lines break at spaces with an escaped line
end. -/
def writeDouble (w : Writer) (text : String) (indent : Nat) (split : Bool) : Writer :=
  let w := w.indicator "\"" true false false
  let s := text.toList.toArray
  let rec go (w : Writer) (start i : Nat) (fuel : Nat) : Writer :=
    match fuel with
    | 0 => w
    | fuel + 1 =>
      let ch := s[i]?
      let (w, start) :=
        match ch with
        | some c =>
          if isPlainInDouble c then (w, start)
          else
            let w := if start < i then w.write (String.ofList ((s.extract start i).toList)) else w
            (w.write (escape c), i + 1)
        | none =>
          if start < i then (w.write (String.ofList ((s.extract start i).toList)), i) else (w, start)
      let (w, start) :=
        -- right after an escape `start` is past `i`, so the pending width is negative
        if 0 < i && i + 1 < s.size && (ch == some ' ' || start ≥ i) &&
            (w.column : Int) + i - start > 80 && split then
          let w := w.write (String.ofList ((s.extract start i).toList) ++ "\\")
          let start := if start < i then i else start
          let w := { w.writeIndent indent with whitespace := false, indention := false }
          (if s[start]? == some ' ' then w.write "\\" else w, start)
        else (w, start)
      if i ≥ s.size then w else go w start (i + 1) fuel
  (go w 0 0 (s.size + 1)).indicator "\"" false false false

/-- Whether plain text reads back as this text and not as another type. -/
def plainIsText (t : String) : Bool := resolve t.toList == .str

/-- A scalar's text, and whether its plain form reads back as the same value. -/
def scalarText : Value → Option (String × Bool)
  | .str s => some (s, plainIsText s)
  | .int n => some (toString n, true)
  | .bool b => some (if b then "true" else "false", true)
  | .null => some ("null", true)
  | .float x =>
    let t := if x.isNaN then ".nan" else if x.isInfinite then (if x.isNegative then "-.inf" else ".inf")
      else
        let r := String.ofList ((x.shortText .literal).toList.map Char.toLower)
        if !r.contains '.' && r.contains 'e' then r.replace "e" ".0e" else r
    some (t, true)
  | _ => none

/-- Write a scalar at a place. -/
def writeScalar (w : Writer) (text : String) (plainOk : Bool) (p : Place) : Writer :=
  let a := analyze text
  match chooseStyle a plainOk p with
  | .plain => writePlain w text p.indent (!p.simpleKey)
  | .single => writeSingle w text p.indent (!p.simpleKey)
  | .double => writeDouble w text p.indent (!p.simpleKey)

/-- Whether a key can be written in front of its colon. -/
def isSimpleKey (k : Value) : Bool :=
  match k with
  | .map [] | .list [] => true
  | _ => match scalarText k with
    | some (t, _) => let a := analyze t; t.length + 5 < 128 && !a.empty && !a.multiline
    | none => false

/-- The text a key sorts by. -/
def sortKey : Value → String
  | .str s => s
  | v => match scalarText v with
    | some (t, _) => t
    | none => ""

mutual

/-- The same tree with the keys of every map sorted. -/
def sortTree : Value → Value
  | .map entries => .map ((sortEntries entries).mergeSort fun a b => decide (sortKey a.1 ≤ sortKey b.1))
  | .list items => .list (sortItems items)
  | v => v

def sortEntries : List (Value × Value) → List (Value × Value)
  | [] => []
  | (k, v) :: rest => (k, sortTree v) :: sortEntries rest

def sortItems : List Value → List Value
  | [] => []
  | v :: rest => sortTree v :: sortItems rest

end

/-- The indent of a block collection standing in one at `outer` (none at the top). -/
def innerIndent : Option Nat → Nat
  | none => 0
  | some n => n + 2

mutual

/-- Write a node standing in a block collection at indent `outer` (none at the top); `simpleKey`
when it is a key written before its colon, `mapValue` when it is the value of a map entry. -/
def writeNode (w : Writer) (v : Value) (outer : Option Nat) (simpleKey mapValue : Bool) : Writer :=
  match v with
  | .map [] => (w.indicator "\x7b" true true false).indicator "\x7d" false false false
  | .list [] => (w.indicator "[" true true false).indicator "]" false false false
  | .map entries => writeEntries w entries (innerIndent outer)
  | .list items =>
    let indent := match outer with
      | some n => if mapValue && !w.indention then n else n + 2
      | none => 0
    writeItems w items indent
  | v => match scalarText v with
    | some (t, ok) => writeScalar w t ok ⟨simpleKey, 0, (innerIndent outer).max 2⟩
    | none => w

/-- Write the entries of a block map at an indent. -/
def writeEntries (w : Writer) (entries : List (Value × Value)) (indent : Nat) : Writer :=
  match entries with
  | [] => w
  | (k, v) :: rest =>
    let w := w.writeIndent indent
    let w := if isSimpleKey k then
        (writeNode w k (some indent) true false).indicator ":" false false false
      else
        let w := writeNode (w.indicator "?" true false true) k (some indent) false false
        (w.writeIndent indent).indicator ":" true false true
    writeEntries (writeNode w v (some indent) false true) rest indent

/-- Write the items of a block list at an indent. -/
def writeItems (w : Writer) (items : List Value) (indent : Nat) : Writer :=
  match items with
  | [] => w
  | v :: rest =>
    let w := (w.writeIndent indent).indicator "-" true false true
    writeItems (writeNode w v (some indent) false false) rest indent

end

/-- The YAML text of a data tree. -/
def dump (v : Value) : String :=
  (((writeNode Writer.start (sortTree v) none false false)).writeIndent 0).out

/-- Calls a writer makes for one scalar before it is done: the value's own, the one that takes its
kind, the one that makes the scalar, and those that make its node. An integer is spelled out in
decimal after the second. -/
def scalarCalls : Nat := 3 + makeCalls

mutual

/-- The first reason, in the order of writing with sorted keys, that a value cannot be written
when `room` calls are left: an integer too long for decimal, or collections nested deeper than
the calls reach. A collection takes three calls before its items, and those that make its node. -/
def writeError? (room : Nat) : Value → Option WriteError
  | .int n =>
    if room < 2 then some .tooDeep
    else if !Number.fitsDigitLimit n then some .numberTooLong
    else if room < scalarCalls then some .tooDeep
    else none
  | .list items =>
    if room < scalarCalls then some .tooDeep else firstError (itemErrors (room - 3) items)
  | .map entries =>
    if room < scalarCalls then some .tooDeep
    else firstError (((entryErrors (room - 3) entries).mergeSort fun a b => decide (a.1 ≤ b.1)).map (·.2))
  | _ => if room < scalarCalls then some .tooDeep else none

/-- The write errors of the items of a list. -/
def itemErrors (room : Nat) : List Value → List (Option WriteError)
  | [] => []
  | v :: vs => writeError? room v :: itemErrors room vs

/-- The sort keys and write errors of the entries of a map, the key's before the value's. -/
def entryErrors (room : Nat) : List (Value × Value) → List (String × Option WriteError)
  | [] => []
  | (k, v) :: rest =>
    (sortKey k, firstError [writeError? room k, writeError? room v]) :: entryErrors room rest

end

end Gamebook.Yaml
