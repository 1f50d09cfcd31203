import Gamebook.Play.Vars
import Gamebook.Story.Name
import Gamebook.Data.Literal
import Gamebook.Number.Read
/- The progress of a playthrough, the only state a session keeps: the current page, as code points,
   and the variables. A snapshot of it is a map `{currentPage: page, vars: {name: value}}`;
   reading one back checks it and brings its names to canonical form. -/
namespace Gamebook

/-- The current page and the variables. -/
structure Progress where
  page : List Nat
  vars : Vars
  deriving DecidableEq, Repr, Inhabited

/-- Why a snapshot cannot be read back. -/
inductive SnapshotError where
  | unreadable (message : String)
  | notMapping (type : String)
  | missingPage
  | missingVars
  | notInteger (name : String)
  | keyNotText (type : String)
  /-- a variable that is no integer has a name too long to be written in decimal -/
  | nameTooLong
  /-- the snapshot text nests too deep to be read -/
  | tooDeep
  deriving DecidableEq, Repr

namespace SnapshotError

/-- The text of a snapshot error. -/
def message : SnapshotError → String
  | unreadable m => "State loading error: " ++ m
  | notMapping t => "State loading error: expected a mapping, got " ++ t
  | missingPage => "State loading error: missing current page"
  | missingVars => "State loading error: missing variable mapping"
  | notInteger n => "State loading error: variable \"" ++ n ++ "\" is not an integer"
  | keyNotText t => "'" ++ t ++ "' object has no attribute 'strip'"
  | nameTooLong => Number.textTooLongMessage
  | tooDeep => "recursion"

/-- The kind of error a snapshot error is, named as the exception class that carries it. -/
def kind : SnapshotError → String
  | keyNotText _ => "AttributeError"
  | nameTooLong => "ValueError"
  | tooDeep => "RecursionError"
  | _ => "ProgressError"

/-- A name that is not text has no canonical form: that is an error of another kind. -/
def isKeyError : SnapshotError → Bool
  | keyNotText _ => true
  | _ => false

end SnapshotError

/-- A value a variable may hold: an integer that is not a truth value. -/
def Value.asVarValue? : Value → Option Int
  | .int n => some n
  | _ => none

/-- The name a key of a map gives a variable: text, or bytes. -/
def Value.name? : Value → Option Name
  | .bytes bs => some (.bytes bs)
  | v => v.codes?.map .text

/-- A name as data. -/
def Name.toValue : Name → Value
  | .text cs => .ofCodes cs
  | .bytes bs => .bytes bs

/-- The page a snapshot names: under `currentPage` when that key is present, else under
`current_page`. -/
def snapshotPage? (entries : List (Value × Value)) : Option Value :=
  match Value.lookup entries "currentPage" with
  | some p => some p
  | none => Value.lookup entries "current_page"

/-- A snapshot to be written: a page and variables, as data of any kind. A progress gives one,
and one may also be given unchecked. -/
structure Snapshot where
  page : Value
  vars : List (Value × Value)

/-- The data of a snapshot, `{currentPage: page, vars: {name: value}}`: variables whose value does
not count as true are left out. -/
def Snapshot.toData (s : Snapshot) : Value :=
  .map [(.str "currentPage", s.page), (.str "vars", .map (s.vars.filter (·.2.truthy)))]

namespace Progress

/-- Two progresses are equal, as they compare: the same page, and the same variables in any
order. -/
def Same (p q : Progress) : Prop := p.page = q.page ∧ p.vars.Same q.vars

instance (p q : Progress) : Decidable (p.Same q) := inferInstanceAs (Decidable (_ ∧ _))

/-- The snapshot of a progress. -/
def snapshot (p : Progress) : Snapshot :=
  ⟨.ofCodes p.page, p.vars.toList.map fun (k, x) => (k.toValue, .int x)⟩

/-- The snapshot of a progress as data: zero variables are left out. -/
def toData (p : Progress) : Value := p.snapshot.toData

/-- The name of a variable in an error message: an integer too long to be written in decimal
cannot be named. -/
def nameText (k : Value) : Except SnapshotError String :=
  match k with
  | .int n => if Number.fitsDigitLimit n then .ok k.plain else .error .nameTooLong
  | _ => .ok k.plain

/-- Add the variables of a snapshot in order: each value must be an integer; a non-zero one is
stored under the canonical form of its name, text or bytes, so a later name wins. -/
def addVars (p : Progress) : List (Value × Value) → Except SnapshotError Progress
  | [] => .ok p
  | (k, x) :: rest =>
    match x.asVarValue? with
    | none => do .error (.notInteger (← nameText k))
    | some 0 => addVars p rest
    | some n =>
      match k.name? with
      | some name => addVars { p with vars := p.vars.put name.canonical n } rest
      | none => .error (.keyNotText k.className)

/-- Read a snapshot back: a map with a text page and a map of variables. -/
def ofData : Value → Except SnapshotError Progress
  | .map entries =>
    match (snapshotPage? entries).bind Value.codes? with
    | some page =>
      match Value.lookup entries "vars" with
      | some (.map vars) => addVars ⟨Codes.canonical page, Vars.empty⟩ vars
      | _ => .error .missingVars
    | _ => .error .missingPage
  | other => .error (.notMapping other.typeName)

end Progress

end Gamebook
