import Gamebook.Play.Progress
import Gamebook.Story.Basic
import Gamebook.Text.Placeholder
/- A playthrough of a story. A session holds the story, whether a page's state logic runs when the
   page is entered, and the progress. Choosing moves to a page when the choice exists and its guard
   holds; state logic sets or increases variables; guards compare them; text shows their values. -/
namespace Gamebook

/-- Why a session refuses a request. -/
inductive PlayError where
  | notInteger (type : String)
  | unsupported (type : String)
  | noVars
  | noPage
  | badVar (name literal : String)
  | keyNotText (type : String)
  /-- the message of a refused variable would show an integer too long to be written in
  decimal -/
  | numberTooLong
  | snapshot (e : SnapshotError)
  deriving DecidableEq, Repr

/-- The text of a refused request. -/
def PlayError.message : PlayError → String
  | .notInteger t => "Variable values must be integers, got " ++ t
  | .unsupported t => "Unsupported progress type: " ++ t
  | .noVars => "Progress has no variable mapping"
  | .noPage => "Progress has no current page"
  | .badVar n l => "Variable \"" ++ n ++ "\" is not an integer: " ++ l
  | .keyNotText t => "'" ++ t ++ "' object has no attribute 'strip'"
  | .numberTooLong => Number.textTooLongMessage
  | .snapshot e => e.message

/-- The kind of error a refused request is, named as the exception class that carries it. -/
def PlayError.kind : PlayError → String
  | .notInteger _ => "TypeError"
  | .keyNotText _ => "AttributeError"
  | .numberTooLong => "ValueError"
  | .snapshot e => e.kind
  | _ => "ProgressError"

/-- How a choice is picked: by its place on the page, by the choice itself, or by anything else,
which picks nothing. -/
inductive Pick where
  | index (i : Int)
  | choice (c : Choice)
  | other
  deriving DecidableEq, Repr

/-- A playthrough. -/
structure Session where
  doc : Document
  enterLogic : Bool
  progress : Progress
  deriving Repr

/-- The warning given when installed progress points to a page the story does not declare. -/
def unknownPageWarning (page : List Nat) : String :=
  "Progress points to unknown page: " ++ Codes.toString page

namespace Session

/-- The data of the current page; none at the end or on an undeclared page. -/
def currentPage? (s : Session) : Option Page := s.doc.findCodes? s.progress.page

def isFinished (s : Session) : Bool := s.progress.page == Codes.ofString endName

/-- Move to a page without guards or logic. -/
def goto (s : Session) (name : List Nat) : Session :=
  { s with progress := { s.progress with page := Codes.canonical name } }

/-- A variable's value, 0 when unset. -/
def getVar (s : Session) (name : Name) : Int := s.progress.vars.get name.canonical

/-- Set a variable; 0 unsets it. -/
def setVar (s : Session) (name : Name) (value : Int) : Session :=
  { s with progress := { s.progress with vars := s.progress.vars.set name.canonical value } }

/-- Run one piece of logic: state logic changes the variable and gives false; guard logic
compares and changes nothing. -/
def run (s : Session) (l : Logic) : Bool × Session :=
  let v := s.getVar (.ofString l.lhs)
  match l.op with
  | .assign => (false, s.setVar (.ofString l.lhs) l.rhs)
  | .increase => (false, s.setVar (.ofString l.lhs) (v + l.rhs))
  | .eq => (decide (v = l.rhs), s)
  | .ne => (decide (v ≠ l.rhs), s)
  | .lt => (decide (v < l.rhs), s)
  | .gt => (decide (v > l.rhs), s)

/-- Run a page's state logic in order; without a page, the current page's. -/
def applyPage (s : Session) (page : Option Page) : Session :=
  match page <|> s.currentPage? with
  | some p => p.logics.foldl (fun s l => (s.run l).2) s
  | none => s

/-- Whether a choice shows: no guard, or a comparing guard that holds; a changing guard never
holds. -/
def isVisible (s : Session) (c : Choice) : Bool :=
  match c.guard with
  | none => true
  | some g => if g.op.changes then false else (s.run g).1

/-- The choices of the current page that show, with their places. -/
def visible (s : Session) : List (Nat × Choice) :=
  match s.currentPage? with
  | some p => (p.choices.zipIdx.filter fun (c, _) => s.isVisible c).map fun (c, i) => (i, c)
  | none => []

/-- Back to the entry page with no variables, running its logic when entering runs logic. -/
def reset (s : Session) : Session :=
  let s' := { s with progress := ⟨Codes.ofString s.doc.entry, Vars.empty⟩ }
  if s.enterLogic then s'.applyPage none else s'

/-- A new playthrough of a story. -/
def start (doc : Document) (enterLogic : Bool) : Session :=
  reset ⟨doc, enterLogic, ⟨Codes.ofString doc.entry, Vars.empty⟩⟩

/-- The choice of the current page that a pick names. -/
def resolve (s : Session) (pick : Pick) : Option Choice :=
  match s.currentPage?, pick with
  | some p, .index i => if 0 ≤ i then p.choices[i.toNat]? else none
  | some p, .choice c => if p.choices.contains c then some c else none
  | _, _ => none

/-- Take a choice: when it exists and shows, move to its page and, when entering runs logic, run
that page's logic. -/
def choose (s : Session) (pick : Pick) : Bool × Session :=
  match s.resolve pick with
  | some c =>
    if s.isVisible c then
      let s' := s.goto (Codes.ofString c.link)
      (true, if s.enterLogic then s'.applyPage none else s')
    else (false, s)
  | none => (false, s)

/-- Whether the current page moves on without asking. -/
def hasAuto (s : Session) : Bool :=
  match s.currentPage? with
  | some p => p.hasAutoChoice
  | none => false

/-- Take the current page's automatic choice, if it has one. -/
def auto (s : Session) : Bool × Session := if s.hasAuto then s.choose (.index 0) else (false, s)

/-- The value a placeholder shows. -/
def placeholderValue (s : Session) (name : List Char) : Int := s.getVar (.ofString (String.ofList name))

/-- Whether a text can be shown: the value of each of its placeholders is short enough to be
written in decimal. -/
def canShow (s : Session) (t : String) : Bool :=
  (Text.placeholderNames t.toList).all fun n => Number.fitsDigitLimit (s.placeholderValue n)

/-- A text with each placeholder `{name}` replaced by the variable's value; a value too long to be
written in decimal cannot be shown. -/
def text (s : Session) (t : String) : Except WriteError String :=
  if s.canShow t then
    .ok (String.ofList (Text.fill (fun n => (toString (s.placeholderValue n)).toList) t.toList))
  else .error .numberTooLong

/-- The error of a variable whose value is no integer. Its message shows the name and the value,
and an integer too long to be written in decimal cannot be shown. -/
def badVarError (k x : Value) : PlayError :=
  if k.intsFit && x.intsFit then .badVar k.plain x.literal else .numberTooLong

/-- Install one variable: its value must be an integer that is not a truth value, and a non-zero
one is stored under the canonical form of its name, text or bytes. -/
def installVar (acc : Vars) (k x : Value) : Except PlayError Vars :=
  match x.asVarValue? with
  | none => .error (badVarError k x)
  | some 0 => .ok acc
  | some n =>
    match k.name? with
    | some name => .ok (acc.put name.canonical n)
    | none => .error (.keyNotText k.className)

/-- The session with installed progress, and the warning for a page the story does not declare
(other than the end). -/
def installed (s : Session) (page : List Nat) (vars : Vars) : Session × List String :=
  let warnings := if page != Codes.ofString endName && (s.doc.findCodes? page).isNone then
    [unknownPageWarning page] else []
  ({ s with progress := ⟨page, vars⟩ }, warnings)

/-- Install progress from a page and a variable map: the map must be present, the page must be
text, and every variable an integer; names are brought to canonical form and zeros dropped. A page
the story does not declare (other than the end) gives a warning. -/
def install (s : Session) (page? vars? : Option Value) : Except PlayError (Session × List String) := do
  let vars ← match vars? with
    | some (.map vs) => pure vs
    | _ => throw .noVars
  let page ← match page?.bind Value.codes? with
    | some p => pure p
    | none => throw .noPage
  let stored ← vars.foldlM (fun acc (k, x) => installVar acc k x) Vars.empty
  pure (s.installed (Codes.canonical page) stored)

/-- Install progress given as data: a map with a page and a map of variables. -/
def installData (s : Session) (v : Value) : Except PlayError (Session × List String) :=
  match v with
  | .map es => s.install (snapshotPage? es) (Value.lookup es "vars")
  | other => .error (.unsupported other.typeName)

/-- Install a progress: its variables are integers, so nothing is refused. -/
def installProgress (s : Session) (p : Progress) : Session × List String :=
  s.installed (Codes.canonical p.page) (Vars.ofList p.vars.toList)

end Session

end Gamebook
