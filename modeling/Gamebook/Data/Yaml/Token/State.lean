import Gamebook.Data.Yaml.Token
/- The state of reading tokens from a YAML text: the place in the text, the tokens read but not
   yet taken, the open block indents, the depth of flow collections, and the places where a
   simple key may start, one for each depth. A simple key is a scalar or collection that turns
   out to be a key when a `:` follows it on the same line, within 1024 characters; a key that
   starts at the indent of a block mapping must be found. -/
namespace Gamebook.Yaml

/-- Line breaks. -/
def isBreak (c : Char) : Bool :=
  c == '\r' || c == '\n' || c == '\x85' || c == '\u2028' || c == '\u2029'

/-- Line breaks and the end of the text. -/
def isBreakOrEnd (c : Char) : Bool := c == '\x00' || isBreak c

/-- Spaces, tabs, line breaks and the end of the text. -/
def isBlankOrEnd (c : Char) : Bool := c == ' ' || c == '\t' || isBreakOrEnd c

/-- Spaces, line breaks and the end of the text. -/
def isSpaceOrEnd (c : Char) : Bool := c == ' ' || isBreakOrEnd c

/-- ASCII letters and digits, `-` and `_`: the characters of anchors and tag handles. -/
def isWordChar (c : Char) : Bool :=
  ('0' ≤ c && c ≤ '9') || ('A' ≤ c && c ≤ 'Z') || ('a' ≤ c && c ≤ 'z') || c == '-' || c == '_'

def isHexDigit (c : Char) : Bool :=
  ('0' ≤ c && c ≤ '9') || ('A' ≤ c && c ≤ 'F') || ('a' ≤ c && c ≤ 'f')

/-- The value of a hexadecimal digit. -/
def hexValue (c : Char) : Nat :=
  if '0' ≤ c && c ≤ '9' then c.toNat - '0'.toNat
  else if 'a' ≤ c && c ≤ 'f' then c.toNat - 'a'.toNat + 10
  else c.toNat - 'A'.toNat + 10

/-- A place where a simple key may start: the number of the token it would be, whether it must
be a key, and where it is. -/
structure KeyPlace where
  token : Nat
  required : Bool
  mark : Mark
  deriving DecidableEq, Repr, Inhabited

/-- The state of reading tokens. -/
structure TokenState where
  /-- the text, with a NUL after it -/
  buf : Array Char
  pos : Nat := 0
  line : Nat := 0
  column : Nat := 0
  /-- whether the end of the stream has been read -/
  done : Bool := false
  flowLevel : Int := 0
  /-- tokens read and not yet taken -/
  queue : List Token := []
  /-- how many tokens have been taken -/
  taken : Nat := 0
  indent : Int := -1
  indents : List Int := []
  allowKey : Bool := true
  /-- where a simple key may start, by flow depth, oldest first -/
  keys : List (Int × KeyPlace) := []
  /-- how deep the calls of a reading may go: a reader that descends by recursion, as the one
  whose errors these are does, fails past this depth -/
  limit : Nat := 0
  /-- how deep the call that reads the current group of tokens stands -/
  depth : Nat := 0
  deriving Inhabited

/-- Reading tokens: the state, or an error that stops the reading. -/
abbrev TokenM := StateT TokenState (Except Error)

namespace TokenState

/-- The character `k` places ahead; NUL past the end. -/
def peekAt (s : TokenState) (k : Nat) : Char := s.buf.getD (s.pos + k) '\x00'

def mark (s : TokenState) : Mark := ⟨s.pos, s.line, s.column⟩

/-- Step over one character: a line break (a CR only when no LF follows) starts a line, and a
byte order mark takes no column. -/
def step (s : TokenState) : TokenState :=
  let c := s.peekAt 0
  if isBreak c && (c != '\r' || s.peekAt 1 != '\n') then
    { s with pos := s.pos + 1, line := s.line + 1, column := 0 }
  else if c == '\uFEFF' then { s with pos := s.pos + 1 }
  else { s with pos := s.pos + 1, column := s.column + 1 }

def forward (s : TokenState) : Nat → TokenState
  | 0 => s
  | n + 1 => s.step.forward n

/-- The next `n` characters. -/
def textAt (s : TokenState) (n : Nat) : String := String.ofList ((List.range n).map s.peekAt)

/-- How many characters from here on satisfy `p`. -/
def runLength (s : TokenState) (p : Char → Bool) : Nat :=
  go 0 (s.buf.size + 1 - s.pos)
where
  go (k : Nat) : Nat → Nat
    | 0 => k
    | fuel + 1 => if p (s.peekAt k) then go (k + 1) fuel else k

/-- A bound on the steps left in the text. -/
def room (s : TokenState) : Nat := s.buf.size + 2 - s.pos

end TokenState

namespace TokenM

def peek (k : Nat) : TokenM Char := return (← get).peekAt k

def here : TokenM Char := peek 0

def skip (n : Nat) : TokenM Unit := modify (·.forward n)

def mark : TokenM Mark := return (← get).mark

def text (n : Nat) : TokenM String := return (← get).textAt n

def count (p : Char → Bool) : TokenM Nat := return (← get).runLength p

def skipWhile (p : Char → Bool) : TokenM Unit := do skip (← count p)

/-- Take the run of characters that satisfy `p`. -/
def takeWhile (p : Char → Bool) : TokenM String := do
  let n ← count p
  let t ← text n
  skip n
  return t

/-- Read a line break, as `\n` for CR, LF, CR LF and NEL, or as itself; nothing if none. -/
def lineBreak : TokenM String := do
  let c ← here
  if c == '\r' || c == '\n' || c == '\x85' then
    if c == '\r' && (← peek 1) == '\n' then skip 2 else skip 1
    return "\n"
  else if c == '\u2028' || c == '\u2029' then
    skip 1
    return c.toString
  else return ""

/-- Whether a document marker `---` or `...` stands here, followed by a blank or the end. -/
def atDocumentMarker : TokenM Bool := do
  let t ← text 3
  return (t == "---" || t == "...") && isBlankOrEnd (← peek 3)

/-- A call made at depth `d`: past the limit, reading fails. -/
def reach (d : Nat) : TokenM Unit := do
  if d > (← get).limit then throw Error.tooDeep

/-- A call made `k` levels below the one reading the current group of tokens. -/
def reachFrom (k : Nat) : TokenM Unit := do reach ((← get).depth + k)

/-- An object made by a call `k` levels below the one reading the current group of tokens. -/
def madeAt (k : Nat) : TokenM Unit := reachFrom (k + makeCalls)

/-- Whether the whole text has been read. -/
def atEnd : TokenM Bool := return (← get).pos + 1 ≥ (← get).buf.size

/-- Step over `n` characters in a call `k` levels below the one reading the current group of
tokens; stepping onto the end of the text takes a call more. -/
def skipAt (k n : Nat) : TokenM Unit := do
  skip n
  if n > 0 && (← atEnd) then reachFrom (k + 1)

/-- Read a line break in a call `k` levels below the one reading the current group of tokens:
looking at it takes a call more, and stepping onto the end of the text another. -/
def lineBreakAt (k : Nat) : TokenM String := do
  reachFrom (k + 1)
  let b ← lineBreak
  if !b.isEmpty && (← atEnd) then reachFrom (k + 2)
  return b

/-- Throw a problem found here while reading what began at `start`. -/
def fail {α : Type} (context : String) (start : Mark) (problem : String) : TokenM α := do
  throw (Error.within context start problem (← mark))

def setAllowKey (b : Bool) : TokenM Unit := modify fun s => { s with allowKey := b }

/-- Add a token at the end of the queue. -/
def push (k : TokenKind) (start stop : Mark) : TokenM Unit :=
  modify fun s => { s with queue := s.queue ++ [⟨k, start, stop⟩] }

/-- Read a token of one indicator character. -/
def pushIndicator (k : TokenKind) : TokenM Unit := do
  let start ← mark
  skip 1
  push k start (← mark)

/-- The simple key places that are no longer possible: not on this line, or too far back. A
required one among them is an error. -/
def dropStaleKeys : TokenM Unit := do
  let s ← get
  let stale (p : KeyPlace) : Bool := p.mark.line != s.line || s.pos - p.mark.index > 1024
  match s.keys.find? (fun e => stale e.2 && e.2.required) with
  | some (_, p) =>
    throw (Error.within "while scanning a simple key" p.mark "could not find expected ':'" s.mark)
  | none => set { s with keys := s.keys.filter fun e => !stale e.2 }

/-- Forget the simple key place at the current depth; a required one is an error. -/
def removeKey : TokenM Unit := do
  let s ← get
  match s.keys.lookup s.flowLevel with
  | some p =>
    if p.required then
      throw (Error.within "while scanning a simple key" p.mark "could not find expected ':'" s.mark)
    set { s with keys := s.keys.filter fun e => e.1 != s.flowLevel }
  | none => pure ()

/-- The next token may be a simple key: remember where, if simple keys are allowed here. -/
def saveKey : TokenM Unit := do
  let s ← get
  let required := s.flowLevel == 0 && s.indent == (s.column : Int)
  if s.allowKey then
    removeKey
    let s ← get
    let p : KeyPlace := ⟨s.taken + s.queue.length, required, s.mark⟩
    set { s with keys := s.keys ++ [(s.flowLevel, p)] }

/-- Close the block collections indented deeper than `column`, one block end each; nothing
inside flow collections. -/
def unwindIndent (column : Int) : TokenM Unit := do
  let s ← get
  if s.flowLevel != 0 then return
  for _ in [0:s.indents.length + 1] do
    let s ← get
    if s.indent > column then
      match s.indents with
      | i :: rest =>
        set { s with indent := i, indents := rest, queue := s.queue ++ [Token.mk .blockEnd s.mark s.mark] }
      | [] => break
    else break

/-- Open a block collection at `column` if it is deeper than the current indent. -/
def addIndent (column : Int) : TokenM Bool := do
  let s ← get
  if s.indent < column then
    set { s with indents := s.indent :: s.indents, indent := column }
    return true
  return false

end TokenM

end Gamebook.Yaml
