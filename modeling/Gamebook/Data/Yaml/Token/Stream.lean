import Gamebook.Data.Yaml.Token.Scalar
import Gamebook.Data.Yaml.Token.Marker
/- The token stream of a YAML text. Tokens are read on demand, one group at a time: blanks and
   comments are skipped, deeper block indents are closed, and the next character decides the
   token. Where a simple key may start, reading goes on until it is known whether a `:` follows,
   and then a key token (and, for a new block mapping, its start) is put in front of it. Only
   printable characters may appear in the text at all. -/
namespace Gamebook.Yaml

/-- The characters a YAML text may hold: tab, line feed, carriage return, printable ASCII, NEL,
and the rest of Unicode apart from surrogates, U+FFFE and U+FFFF. -/
def isAllowedCode (n : Nat) : Bool :=
  n == 0x09 || n == 0x0A || n == 0x0D || (0x20 ≤ n && n ≤ 0x7E) || n == 0x85 ||
    (0xA0 ≤ n && n ≤ 0xD7FF) || (0xE000 ≤ n && n ≤ 0xFFFD) || 0x10000 ≤ n

/-- Insert an element at a position of a list, or at its end. -/
def insertAt {α : Type} (xs : List α) (i : Nat) (a : α) : List α := xs.take i ++ a :: xs.drop i

namespace TokenState

/-- The state at the start of a text given as code points, with the stream start token read, for
a reading whose calls may go `limit` deep; a character that may not appear, a lone surrogate among
them, is an error. -/
def start (limit : Nat) (text : List Nat) : Except Error TokenState :=
  match text.findIdx? (!isAllowedCode ·) with
  | some i => .error (.badCharacter (text.getD i 0) i)
  | none =>
    let m : Mark := ⟨0, 0, 0⟩
    .ok { buf := (Codes.chars text ++ ['\x00']).toArray, queue := [⟨.streamStart, m, m⟩], limit }

end TokenState

namespace TokenM

def pushToken (t : Token) : TokenM Unit := modify fun s => { s with queue := s.queue ++ [t] }

/-- Skip blanks, comments and line breaks up to the next token; a byte order mark at the very
start is skipped too. A line break in block context allows a simple key. -/
def skipToToken : TokenM Unit := do
  let s ← get
  if s.pos == 0 && s.peekAt 0 == '\uFEFF' then skip 1
  for _ in [0:(← get).room] do
    skipWhile (· == ' ')
    if (← here) == '#' then skipWhile fun c => !isBreakOrEnd c
    if (← lineBreakAt 2) != "" then
      if (← get).flowLevel == 0 then setAllowKey true
    else break

/-- The depth, below the one reading a group of tokens, of the call that makes its last mark
when it closes the open block collections first: one more than otherwise. -/
def closingCalls (base : Nat) : TokenM Nat := do
  let s ← get
  return if s.flowLevel == 0 && s.indent > -1 then base + 1 else base

def streamEnd : TokenM Unit := do
  madeAt (← closingCalls 2)
  unwindIndent (-1)
  removeKey
  modify fun s => { s with allowKey := false, keys := [] }
  let m ← mark
  push .streamEnd m m
  modify fun s => { s with done := true }

def documentMarker (k : TokenKind) : TokenM Unit := do
  madeAt (← closingCalls 3)
  unwindIndent (-1)
  removeKey
  setAllowKey false
  let start ← mark
  skip 3
  push k start (← mark)

def flowStart (k : TokenKind) : TokenM Unit := do
  madeAt (if (← get).allowKey then 4 else 3)
  saveKey
  modify fun s => { s with flowLevel := s.flowLevel + 1, allowKey := true }
  pushIndicator k

def flowEnd (k : TokenKind) : TokenM Unit := do
  madeAt 3
  removeKey
  modify fun s => { s with flowLevel := s.flowLevel - 1, allowKey := false }
  pushIndicator k

def flowEntry : TokenM Unit := do
  madeAt 2
  setAllowKey true
  removeKey
  pushIndicator .flowEntry

def blockEntry : TokenM Unit := do
  madeAt 2
  let s ← get
  if s.flowLevel == 0 then
    unless s.allowKey do throw (Error.bare "sequence entries are not allowed here" s.mark)
    if ← addIndent s.column then
      push .blockSequenceStart s.mark s.mark
  setAllowKey true
  removeKey
  pushIndicator .blockEntry

def complexKey : TokenM Unit := do
  madeAt 2
  let s ← get
  if s.flowLevel == 0 then
    unless s.allowKey do throw (Error.bare "mapping keys are not allowed here" s.mark)
    if ← addIndent s.column then
      push .blockMappingStart s.mark s.mark
  setAllowKey (s.flowLevel == 0)
  removeKey
  pushIndicator .key

/-- A `:`: when a simple key may start at this depth, it is a key, and its key token goes in
front of it; otherwise this is the value of a complex key. -/
def value : TokenM Unit := do
  madeAt 2
  let s ← get
  match s.keys.lookup s.flowLevel with
  | some p =>
    let i := p.token - s.taken
    set { s with
      keys := s.keys.filter (·.1 != s.flowLevel),
      queue := insertAt s.queue i ⟨.key, p.mark, p.mark⟩ }
    if s.flowLevel == 0 then
      if ← addIndent p.mark.column then
        modify fun s => { s with queue := insertAt s.queue i ⟨.blockMappingStart, p.mark, p.mark⟩ }
    setAllowKey false
  | none =>
    if s.flowLevel == 0 then
      unless s.allowKey do throw (Error.bare "mapping values are not allowed here" s.mark)
      if ← addIndent s.column then
        push .blockMappingStart s.mark s.mark
    setAllowKey (s.flowLevel == 0)
    removeKey
  pushIndicator .value

/-- A token that may be a simple key, and after which none may start; `calls` is the depth of
the call that makes its first mark. -/
def keyCandidate (calls : Nat) (read : TokenM Token) : TokenM Unit := do
  madeAt calls
  saveKey
  setAllowKey false
  pushToken (← read)

/-- Whether a plain scalar may start here. -/
def startsPlain (c next : Char) (flow : Bool) : Bool :=
  (!isBlankOrEnd c && !"-?:,[]\x7b\x7d#&*!|>'\"%@`".contains c) ||
    (!isBlankOrEnd next && (c == '-' || (!flow && (c == '?' || c == ':'))))

/-- Read the next group of tokens. -/
def fetch : TokenM Unit := do
  reachFrom 3
  skipToToken
  dropStaleKeys
  let s ← get
  if s.flowLevel == 0 && s.indent > (s.column : Int) then madeAt 2
  unwindIndent (← get).column
  let s ← get
  let c := s.peekAt 0
  let next := s.peekAt 1
  let flow := s.flowLevel != 0
  if c == '\x00' then streamEnd
  else if c == '%' && s.column == 0 then
    madeAt 3
    unwindIndent (-1)
    removeKey
    setAllowKey false
    pushToken (← directive)
  else if (c == '-' || c == '.') && s.column == 0 && (← atDocumentMarker) then
    documentMarker (if c == '-' then .documentStart else .documentEnd)
  else if c == '[' then flowStart .flowSequenceStart
  else if c == '\x7b' then flowStart .flowMappingStart
  else if c == ']' then flowEnd .flowSequenceEnd
  else if c == '\x7d' then flowEnd .flowMappingEnd
  else if c == ',' then flowEntry
  else if c == '-' && isBlankOrEnd next then blockEntry
  else if c == '?' && (flow || isBlankOrEnd next) then complexKey
  else if c == ':' && (flow || isBlankOrEnd next) then value
  else if c == '*' then keyCandidate 3 (anchorOrAlias true)
  else if c == '&' then keyCandidate 3 (anchorOrAlias false)
  else if c == '!' then keyCandidate 3 tag
  else if (c == '|' || c == '>') && !flow then
    madeAt 5
    setAllowKey true
    removeKey
    pushToken (← blockScalar (c == '>'))
  else if c == '\'' || c == '"' then keyCandidate 4 (quotedScalar (c == '"'))
  else if startsPlain c next flow then keyCandidate 3 plainScalar
  else
    throw (Error.marked (some "while scanning for the next token") none
      ("found character " ++ textLiteral c.toString ++ " that cannot start any token") s.mark)

/-- Whether more tokens must be read before the next one can be taken: none is waiting, or the
next one may still turn out to be a simple key. -/
def needMore : TokenM Bool := do
  let s ← get
  if s.done then return false
  if s.queue.isEmpty then return true
  dropStaleKeys
  let s ← get
  return (s.keys.map (·.2.token)).min? == some s.taken

/-- Read groups of tokens until the next one can be taken, for a call at depth `d`: each check
whether more are needed is a call below it, and looks a call deeper still while tokens wait;
each group is read by a call below it. -/
def fill (d : Nat) : TokenM Unit := do
  for _ in [0:(← get).buf.size + 2] do
    reach (d + 1)
    let s ← get
    unless s.done || s.queue.isEmpty do reach (d + 2)
    if ← needMore then
      modify fun s => { s with depth := d + 1 }
      fetch
    else break

/-- The next token, left in place, for a call at depth `d`. -/
def peekToken (d : Nat) : TokenM Token := do
  fill d
  let s ← get
  match s.queue with
  | t :: _ => return t
  | [] => return ⟨.streamEnd, s.mark, s.mark⟩

/-- Take the next token, for a call at depth `d`. -/
def nextToken (d : Nat) : TokenM Token := do
  fill d
  let s ← get
  match s.queue with
  | t :: rest =>
    set { s with queue := rest, taken := s.taken + 1 }
    return t
  | [] => return ⟨.streamEnd, s.mark, s.mark⟩

end TokenM

end Gamebook.Yaml
