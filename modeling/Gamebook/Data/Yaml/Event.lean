import Gamebook.Data.Yaml.Token.Stream
/- Events of a YAML text: the stream, its documents, and the nodes in document order, a
   collection as a start and an end event around its items, a mapping's items alternating key
   and value. Events are read from the tokens on demand by a machine whose state says what may
   come next, with a stack of states to come back to after a nested node; a missing key or
   value becomes an empty scalar. Tags are spelled out in full by their handles. -/
namespace Gamebook.Yaml

/-- The kinds of event. A scalar records whether its tag may be resolved from a plain text
(`plainImplicit`) or is text because it was quoted (`quotedImplicit`). -/
inductive EventKind where
  | streamStart
  | streamEnd
  | documentStart (explicit : Bool)
  | documentEnd (explicit : Bool)
  | reference (name : String)
  | scalar (anchor tag : Option String) (plainImplicit quotedImplicit : Bool) (text : List Nat)
      (style : ScalarStyle)
  | sequenceStart (anchor tag : Option String) (flow : Bool)
  | sequenceEnd
  | mappingStart (anchor tag : Option String) (flow : Bool)
  | mappingEnd
  deriving DecidableEq, Repr, Inhabited

/-- An event with the marks where it starts and stops. -/
structure Event where
  kind : EventKind
  start : Mark
  stop : Mark
  deriving DecidableEq, Repr, Inhabited

/-- What may come next. -/
inductive Phase where
  | streamStart
  | implicitDocumentStart
  | documentStart
  | documentEnd
  | documentContent
  | blockNode
  | blockSequenceFirstEntry
  | blockSequenceEntry
  | indentlessSequenceEntry
  | blockMappingFirstKey
  | blockMappingKey
  | blockMappingValue
  | flowSequenceFirstEntry
  | flowSequenceEntry
  | flowSequenceEntryMappingKey
  | flowSequenceEntryMappingValue
  | flowSequenceEntryMappingEnd
  | flowMappingFirstKey
  | flowMappingKey
  | flowMappingValue
  | flowMappingEmptyValue
  | finished
  deriving DecidableEq, Repr, Inhabited

/-- The tag handles every document knows. -/
def defaultHandles : List (String × String) := [("!", "!"), ("!!", "tag:yaml.org,2002:")]

/-- The state of reading events. -/
structure EventState where
  tokens : TokenState
  phase : Phase := .streamStart
  /-- states to come back to -/
  stack : List Phase := []
  /-- where the open collections start -/
  marks : List Mark := []
  handles : List (String × String) := []
  /-- an event read and not yet taken -/
  pending : Option Event := none
  deriving Inhabited

abbrev EventM := StateT EventState (Except Error)

namespace EventM

/-- Run a step of token reading. -/
def tokens {α : Type} (m : TokenM α) : EventM α := fun s =>
  match m.run s.tokens with
  | .ok (a, t) => .ok (a, { s with tokens := t })
  | .error e => .error e

/-- The next token, left in place, for a call at depth `d`. -/
def peekToken (d : Nat) : EventM Token := tokens (TokenM.peekToken d)

/-- Take the next token, for a call at depth `d`. -/
def nextToken (d : Nat) : EventM Token := tokens (TokenM.nextToken d)

/-- A call made at depth `d`: past the limit, reading fails. -/
def reach (d : Nat) : EventM Unit := tokens (TokenM.reach d)

def goTo (p : Phase) : EventM Unit := modify fun s => { s with phase := p }

def pushPhase (p : Phase) : EventM Unit := modify fun s => { s with stack := p :: s.stack }

/-- Go back to the state on top of the stack. -/
def popPhase : EventM Unit := modify fun s =>
  match s.stack with
  | p :: rest => { s with phase := p, stack := rest }
  | [] => { s with phase := .finished }

def pushMark (m : Mark) : EventM Unit := modify fun s => { s with marks := m :: s.marks }

def popMark : EventM Unit := modify fun s => { s with marks := s.marks.drop 1 }

def topMark : EventM Mark := return (← get).marks.headD default

/-- An empty plain scalar at a place. -/
def emptyScalar (m : Mark) : Event := ⟨.scalar none none true false [] .plain, m, m⟩

/-- An event made by a call at depth `d`. -/
def made (d : Nat) (e : Event) : EventM Event := do
  reach (d + makeCalls)
  return e

/-- An empty plain scalar at a place, made for a call at depth `d` by a call one deeper. -/
def emptyAt (d : Nat) (m : Mark) : EventM Event := made (d + 1) (emptyScalar m)

/-- Read a node, in a call at depth `d`: an alias, or an anchor and tag in either order and then
the content. A block sequence may stand without indent as a mapping's value (`indentless`). -/
def node (d : Nat) (block indentless : Bool) : EventM Event := do
  let t ← peekToken (d + 1)
  if let .reference name := t.kind then
    discard (nextToken (d + 1))
    popPhase
    return ← made d ⟨.reference name, t.start, t.stop⟩
  let mut anchor : Option String := none
  let mut tag : Option (Option String × String) := none
  let mut start : Option Mark := none
  let mut stop : Option Mark := none
  let mut tagMark : Option Mark := none
  match t.kind with
  | .anchor a =>
    discard (nextToken (d + 1))
    start := some t.start
    stop := some t.stop
    anchor := some a
    let t2 ← peekToken (d + 1)
    if let .tag h sfx := t2.kind then
      discard (nextToken (d + 1))
      tagMark := some t2.start
      stop := some t2.stop
      tag := some (h, sfx)
  | .tag h sfx =>
    discard (nextToken (d + 1))
    start := some t.start
    tagMark := some t.start
    stop := some t.stop
    tag := some (h, sfx)
    let t2 ← peekToken (d + 1)
    if let .anchor a := t2.kind then
      discard (nextToken (d + 1))
      stop := some t2.stop
      anchor := some a
  | _ => pure ()
  let fullTag ← match tag with
    | none => pure none
    | some (none, sfx) => pure (some sfx)
    | some (some h, sfx) =>
      match (← get).handles.lookup h with
      | some pre => pure (some (pre ++ sfx))
      | none =>
        throw (Error.marked (some "while parsing a node") start
          ("found undefined tag handle " ++ textLiteral h) (tagMark.getD default))
  let here ← peekToken (d + 1)
  let first := start.getD here.start
  let last := stop.getD here.start
  let implicit := fullTag.isNone || fullTag == some "!"
  if indentless && here.kind.isBlockEntry then
    goTo .indentlessSequenceEntry
    return ← made d ⟨.sequenceStart anchor fullTag false, first, here.stop⟩
  match here.kind with
  | .scalar text plain style =>
    discard (nextToken (d + 1))
    let (pi, qi) :=
      if (plain && fullTag.isNone) || fullTag == some "!" then (true, false)
      else if fullTag.isNone then (false, true) else (false, false)
    popPhase
    return ← made d ⟨.scalar anchor fullTag pi qi text style, first, here.stop⟩
  | .flowSequenceStart =>
    goTo .flowSequenceFirstEntry
    return ← made d ⟨.sequenceStart anchor fullTag true, first, here.stop⟩
  | .flowMappingStart =>
    goTo .flowMappingFirstKey
    return ← made d ⟨.mappingStart anchor fullTag true, first, here.stop⟩
  | .blockSequenceStart =>
    if block then
      goTo .blockSequenceFirstEntry
      return ← made d ⟨.sequenceStart anchor fullTag false, first, here.start⟩
  | .blockMappingStart =>
    if block then
      goTo .blockMappingFirstKey
      return ← made d ⟨.mappingStart anchor fullTag false, first, here.start⟩
  | _ => pure ()
  if anchor.isSome || fullTag.isSome then
    popPhase
    return ← made d ⟨.scalar anchor fullTag implicit false [] .plain, first, last⟩
  throw (Error.within ("while parsing a " ++ (if block then "block" else "flow") ++ " node") first
    ("expected the node content, but found " ++ textLiteral here.kind.name) here.start)

/-- Read the directives before an explicit document and set the tag handles, in a call at depth
`d`. -/
def directives (d : Nat) : EventM Unit := do
  let mut version : Option (Nat × Nat) := none
  let mut handles : List (String × String) := []
  for _ in [0:(← get).tokens.buf.size + 2] do
    let t ← peekToken (d + 1)
    match t.kind with
    | .directive _ value =>
      discard (nextToken (d + 1))
      match value with
      | .version major minor =>
        if version.isSome then throw (Error.bare "found duplicate YAML directive" t.start)
        if major != 1 then
          throw (Error.bare "found incompatible YAML document (version 1.* is required)" t.start)
        version := some (major, minor)
      | .tagShorthand h pre =>
        if (handles.lookup h).isSome then
          throw (Error.bare ("duplicate tag handle " ++ textLiteral h) t.start)
        handles := handles ++ [(h, pre)]
      | .other => pure ()
    | _ => break
  let missing := defaultHandles.filter fun d => (handles.lookup d.1).isNone
  modify fun s => { s with handles := handles ++ missing }

/-- An explicit document, or the end of the stream, in a call at depth `d`. -/
def documentStart (d : Nat) : EventM Event := do
  for _ in [0:(← get).tokens.buf.size + 2] do
    if (← peekToken (d + 1)).kind.isDocumentEnd then discard (nextToken (d + 1)) else break
  let t ← peekToken (d + 1)
  if t.kind.isStreamEnd then
    let t ← nextToken (d + 1)
    goTo .finished
    return ← made d ⟨.streamEnd, t.start, t.stop⟩
  directives (d + 1)
  let here ← peekToken (d + 1)
  unless here.kind.isDocumentStart do
    throw (Error.bare ("expected '<document start>', but found " ++ textLiteral here.kind.name)
      here.start)
  let e ← nextToken (d + 1)
  pushPhase .documentEnd
  goTo .documentContent
  return ← made d ⟨.documentStart true, t.start, e.stop⟩

def implicitDocumentStart (d : Nat) : EventM Event := do
  let t ← peekToken (d + 1)
  match t.kind with
  | .directive _ _ | .documentStart | .streamEnd => documentStart (d + 1)
  | _ =>
    modify fun s => { s with handles := defaultHandles }
    pushPhase .documentEnd
    goTo .blockNode
    return ← made d ⟨.documentStart false, t.start, t.start⟩

def documentEnd (d : Nat) : EventM Event := do
  let t ← peekToken (d + 1)
  goTo .documentStart
  if t.kind.isDocumentEnd then
    let t ← nextToken (d + 1)
    return ← made d ⟨.documentEnd true, t.start, t.stop⟩
  return ← made d ⟨.documentEnd false, t.start, t.start⟩

def documentContent (d : Nat) : EventM Event := do
  let t ← peekToken (d + 1)
  match t.kind with
  | .directive _ _ | .documentStart | .documentEnd | .streamEnd =>
    popPhase
    return ← emptyAt d t.start
  | _ => node (d + 2) true false

def blockSequenceEntry (d : Nat) : EventM Event := do
  let t ← peekToken (d + 1)
  if t.kind.isBlockEntry then
    let t ← nextToken (d + 1)
    let n ← peekToken (d + 1)
    if n.kind.isBlockEntry || n.kind.isBlockEnd then
      goTo .blockSequenceEntry
      return ← emptyAt d t.stop
    pushPhase .blockSequenceEntry
    return ← node (d + 2) true false
  unless t.kind.isBlockEnd do
    throw (Error.within "while parsing a block collection" (← topMark)
      ("expected <block end>, but found " ++ textLiteral t.kind.name) t.start)
  let t ← nextToken (d + 1)
  popPhase
  popMark
  return ← made d ⟨.sequenceEnd, t.start, t.stop⟩

def indentlessSequenceEntry (d : Nat) : EventM Event := do
  let t ← peekToken (d + 1)
  if t.kind.isBlockEntry then
    let t ← nextToken (d + 1)
    let n ← peekToken (d + 1)
    if n.kind.isBlockEntry || n.kind.isKey || n.kind.isValue || n.kind.isBlockEnd then
      goTo .indentlessSequenceEntry
      return ← emptyAt d t.stop
    pushPhase .indentlessSequenceEntry
    return ← node (d + 2) true false
  popPhase
  return ← made d ⟨.sequenceEnd, t.start, t.start⟩

def blockMappingKey (d : Nat) : EventM Event := do
  let t ← peekToken (d + 1)
  if t.kind.isKey then
    let t ← nextToken (d + 1)
    let n ← peekToken (d + 1)
    if n.kind.isKey || n.kind.isValue || n.kind.isBlockEnd then
      goTo .blockMappingValue
      return ← emptyAt d t.stop
    pushPhase .blockMappingValue
    return ← node (d + 2) true true
  unless t.kind.isBlockEnd do
    throw (Error.within "while parsing a block mapping" (← topMark)
      ("expected <block end>, but found " ++ textLiteral t.kind.name) t.start)
  let t ← nextToken (d + 1)
  popPhase
  popMark
  return ← made d ⟨.mappingEnd, t.start, t.stop⟩

def blockMappingValue (d : Nat) : EventM Event := do
  let t ← peekToken (d + 1)
  if t.kind.isValue then
    let t ← nextToken (d + 1)
    let n ← peekToken (d + 1)
    if n.kind.isKey || n.kind.isValue || n.kind.isBlockEnd then
      goTo .blockMappingKey
      return ← emptyAt d t.stop
    pushPhase .blockMappingKey
    return ← node (d + 2) true true
  goTo .blockMappingKey
  return ← emptyAt d t.start

def flowSequenceEntry (d : Nat) (first : Bool) : EventM Event := do
  let t ← peekToken (d + 1)
  unless t.kind.isFlowSequenceEnd do
    if !first then
      if t.kind.isFlowEntry then discard (nextToken (d + 1))
      else
        throw (Error.within "while parsing a flow sequence" (← topMark)
          ("expected ',' or ']', but got " ++ textLiteral t.kind.name) t.start)
    let t ← peekToken (d + 1)
    if t.kind.isKey then
      goTo .flowSequenceEntryMappingKey
      return ← made d ⟨.mappingStart none none true, t.start, t.stop⟩
    unless t.kind.isFlowSequenceEnd do
      pushPhase .flowSequenceEntry
      return ← node (d + 2) false false
  let t ← nextToken (d + 1)
  popPhase
  popMark
  return ← made d ⟨.sequenceEnd, t.start, t.stop⟩

def flowSequenceEntryMappingKey (d : Nat) : EventM Event := do
  let t ← nextToken (d + 1)
  let n ← peekToken (d + 1)
  if n.kind.isValue || n.kind.isFlowEntry || n.kind.isFlowSequenceEnd then
    goTo .flowSequenceEntryMappingValue
    return ← emptyAt d t.stop
  pushPhase .flowSequenceEntryMappingValue
  node (d + 2) false false

def flowSequenceEntryMappingValue (d : Nat) : EventM Event := do
  let t ← peekToken (d + 1)
  if t.kind.isValue then
    let t ← nextToken (d + 1)
    let n ← peekToken (d + 1)
    if n.kind.isFlowEntry || n.kind.isFlowSequenceEnd then
      goTo .flowSequenceEntryMappingEnd
      return ← emptyAt d t.stop
    pushPhase .flowSequenceEntryMappingEnd
    return ← node (d + 2) false false
  goTo .flowSequenceEntryMappingEnd
  return ← emptyAt d t.start

def flowSequenceEntryMappingEnd (d : Nat) : EventM Event := do
  goTo .flowSequenceEntry
  let t ← peekToken (d + 1)
  return ← made d ⟨.mappingEnd, t.start, t.start⟩

def flowMappingKey (d : Nat) (first : Bool) : EventM Event := do
  let t ← peekToken (d + 1)
  unless t.kind.isFlowMappingEnd do
    if !first then
      if t.kind.isFlowEntry then discard (nextToken (d + 1))
      else
        throw (Error.within "while parsing a flow mapping" (← topMark)
          ("expected ',' or '\x7d', but got " ++ textLiteral t.kind.name) t.start)
    let t ← peekToken (d + 1)
    if t.kind.isKey then
      let t ← nextToken (d + 1)
      let n ← peekToken (d + 1)
      if n.kind.isValue || n.kind.isFlowEntry || n.kind.isFlowMappingEnd then
        goTo .flowMappingValue
        return ← emptyAt d t.stop
      pushPhase .flowMappingValue
      return ← node (d + 2) false false
    unless t.kind.isFlowMappingEnd do
      pushPhase .flowMappingEmptyValue
      return ← node (d + 2) false false
  let t ← nextToken (d + 1)
  popPhase
  popMark
  return ← made d ⟨.mappingEnd, t.start, t.stop⟩

def flowMappingValue (d : Nat) : EventM Event := do
  let t ← peekToken (d + 1)
  if t.kind.isValue then
    let t ← nextToken (d + 1)
    let n ← peekToken (d + 1)
    if n.kind.isFlowEntry || n.kind.isFlowMappingEnd then
      goTo .flowMappingKey
      return ← emptyAt d t.stop
    pushPhase .flowMappingKey
    return ← node (d + 2) false false
  goTo .flowMappingKey
  return ← emptyAt d t.start

/-- Read the event the current state calls for, the state's call standing at depth `d`. -/
def step (d : Nat) : Phase → EventM Event
  | .streamStart => do
    let t ← nextToken (d + 1)
    goTo .implicitDocumentStart
    return ← made d ⟨.streamStart, t.start, t.stop⟩
  | .implicitDocumentStart => implicitDocumentStart d
  | .documentStart => documentStart d
  | .documentEnd => documentEnd d
  | .documentContent => documentContent d
  | .blockNode => node (d + 1) true false
  | .blockSequenceFirstEntry => do
    pushMark (← nextToken (d + 1)).start
    blockSequenceEntry (d + 1)
  | .blockSequenceEntry => blockSequenceEntry d
  | .indentlessSequenceEntry => indentlessSequenceEntry d
  | .blockMappingFirstKey => do
    pushMark (← nextToken (d + 1)).start
    blockMappingKey (d + 1)
  | .blockMappingKey => blockMappingKey d
  | .blockMappingValue => blockMappingValue d
  | .flowSequenceFirstEntry => do
    pushMark (← nextToken (d + 1)).start
    flowSequenceEntry (d + 1) true
  | .flowSequenceEntry => flowSequenceEntry d false
  | .flowSequenceEntryMappingKey => flowSequenceEntryMappingKey d
  | .flowSequenceEntryMappingValue => flowSequenceEntryMappingValue d
  | .flowSequenceEntryMappingEnd => flowSequenceEntryMappingEnd d
  | .flowMappingFirstKey => do
    pushMark (← nextToken (d + 1)).start
    flowMappingKey (d + 1) true
  | .flowMappingKey => flowMappingKey d false
  | .flowMappingValue => flowMappingValue d
  | .flowMappingEmptyValue => do
    goTo .flowMappingKey
    let t ← peekToken (d + 1)
    emptyAt d t.start
  | .finished => do
    let m := (← get).tokens.mark
    return ⟨.streamEnd, m, m⟩

/-- The next event, left in place, for a call at depth `d`; reading it calls the state below. -/
def peekEvent (d : Nat) : EventM Event := do
  reach d
  match (← get).pending with
  | some e => return e
  | none =>
    let e ← step (d + 1) (← get).phase
    modify fun s => { s with pending := some e }
    return e

/-- Take the next event, for a call at depth `d`. -/
def nextEvent (d : Nat) : EventM Event := do
  let e ← peekEvent d
  modify fun s => { s with pending := none }
  return e

end EventM

end Gamebook.Yaml
