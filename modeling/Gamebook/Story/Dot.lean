import Gamebook.Story.Basic
import Gamebook.Unicode.Class
/- A story as a Graphviz DOT digraph: one node per page in declaration order, an `END` node, and
   one edge per choice. The detailed form adds the first body fragment and the state logic to the
   nodes, and labels and guards to the edges; a guarded edge is dashed in both forms. A name is
   written bare when it is a plain word, otherwise quoted. -/
namespace Gamebook.Dot
open Unicode

/-- The two forms of the graph. -/
inductive Mode where
  | simple
  | detailed
  deriving DecidableEq, Repr

/-- Why a story cannot be drawn. -/
inductive Error where
  /-- a page or a link has an empty name -/
  | emptyName
  /-- a logic shown in a label has a value too long to be written in decimal -/
  | numberTooLong
  deriving DecidableEq, Repr

/-- The words that cannot stand bare as an identifier. -/
def keywords : List String := ["node", "edge", "graph", "digraph", "subgraph", "strict"]

/-- A quoted string: backslash, quote and line feed escaped. -/
def quote (s : String) : String :=
  "\"" ++ String.join (s.toList.map fun c =>
    if c == '\\' then "\\\\" else if c == '"' then "\\\"" else if c == '\n' then "\\n" else c.toString) ++
  "\""

/-- The identifier of a name: bare when it is not a keyword, does not open with a digit, and is all
letters, digits and underscores with at least one letter or digit; quoted otherwise. -/
def ident (s : String) : Except Error String :=
  match s.toList with
  | [] => .error .emptyName
  | c :: _ =>
    let core := s.toList.filter (· != '_')
    if keywords.contains s || isDigit c || core.isEmpty || !core.all isAlnum then .ok (quote s)
    else .ok s

/-- A label cut to forty characters, the last three being dots. -/
def shorten (s : String) : String :=
  if s.length > 40 then String.ofList (s.toList.take 37) ++ "..." else s

/-- A logic as a label shows it. -/
def logicLabel (l : Logic) : Except Error String :=
  match l.print? with
  | some t => .ok t
  | none => .error .numberTooLong

/-- The label of a page's node in the detailed form: the name, the first body fragment cut short,
and the state logic, a line each. -/
def pageLabel (name : String) (p : Page) : Except Error String := do
  let withText := match p.texts with
    | t :: _ => name ++ "\n" ++ shorten t
    | [] => name
  if p.logics.isEmpty then pure withText
  else pure (withText ++ "\n" ++ "\n".intercalate (← p.logics.mapM logicLabel))

/-- The node statement of a page. -/
def node (d : Document) (mode : Mode) (name : String) (p : Page) : Except Error String := do
  let id ← ident name
  let label ← match mode with
    | .simple => pure name
    | .detailed => pageLabel name p
  let fill := if name == d.entry then ", fillcolor=lightgreen" else ""
  pure ("  " ++ id ++ " [label=" ++ quote label ++ fill ++ "];")

/-- The label of a choice's edge in the detailed form: the guard in brackets, then the text. -/
def choiceLabel (c : Choice) : Except Error String :=
  match c.guard with
  | some g => do pure (String.ofList (Text.trim ("[" ++ (← logicLabel g) ++ "] " ++ c.text.getD "").toList))
  | none => pure (c.text.getD "")

/-- The edge statement of a choice. -/
def edge (mode : Mode) (name : String) (c : Choice) : Except Error String := do
  let src ← ident name
  let dst ← if c.link == endName then pure "\"END\"" else ident c.link
  let label ← match mode with
    | .simple => pure ""
    | .detailed => choiceLabel c
  let attrs := (if !label.isEmpty then ["label=" ++ quote (shorten label)] else []) ++
    (if c.guard.isSome then ["style=dashed"] else [])
  let attrText := if attrs.isEmpty then "" else " [" ++ ", ".intercalate attrs ++ "]"
  pure ("  " ++ src ++ " -> " ++ dst ++ attrText ++ ";")

/-- The DOT text of a story. -/
def render (d : Document) (mode : Mode) : Except Error String := do
  let nodes ← d.pages.mapM fun (n, p) => node d mode n p
  let edges ← (d.pages.flatMap fun (n, p) => p.choices.map fun c => (n, c)).mapM fun (n, c) =>
    edge mode n c
  pure ("\n".intercalate (["digraph story \x7b", "  rankdir=LR;",
    "  node [shape=box, style=filled, fillcolor=lightblue];",
    "  \"END\" [shape=doublecircle, fillcolor=lightgrey, label=\"END\"];"] ++ nodes ++ edges ++ ["\x7d"]))

end Gamebook.Dot
