import Gamebook.Logic.Basic
import Gamebook.Story.Name
import Gamebook.Text.Codes
/- Stories: pages with body texts, state logic and choices, kept in declaration order under their
   canonical names, with the first page declared as the entry. -/
namespace Gamebook

/-- A way out of a page: the page it leads to, the label shown, and a guard. A choice with no
label and no guard is taken without asking. -/
structure Choice where
  link : String
  text : Option String := none
  guard : Option Logic := none
  deriving DecidableEq, Repr, Inhabited

namespace Choice

/-- Taken without asking: no label (or an empty one) and no guard. -/
def isAuto (c : Choice) : Bool := (c.text.getD "").isEmpty && c.guard.isNone

/-- Leads to the end of the story. -/
def isEnding (c : Choice) : Bool := c.link == endName

end Choice

/-- A page: body fragments, choices, state logic applied on entry, and the line it was declared
on (0 when built directly). -/
structure Page where
  texts : List String
  choices : List Choice
  logics : List Logic := []
  line : Nat := 0
  deriving DecidableEq, Repr, Inhabited

/-- A page with a single choice that is taken without asking. -/
def Page.hasAutoChoice (p : Page) : Bool :=
  match p.choices with
  | [c] => c.isAuto
  | _ => false

/-- A story: the entry page's name and the pages in declaration order under their names. -/
structure Document where
  entry : String
  pages : List (String × Page)
  deriving DecidableEq, Repr, Inhabited

/-- Why pages cannot form a story. -/
inductive DocumentError where
  | duplicatePage (name : String)
  deriving DecidableEq, Repr

/-- The text of a document error. -/
def DocumentError.message : DocumentError → String
  | .duplicatePage n => "Duplicate page name: \"" ++ n ++ "\""

namespace Document

/-- The page stored under exactly this name. -/
def find? (d : Document) (name : String) : Option Page := d.pages.lookup name

/-- The page stored under the name with exactly these code points; text holding a lone surrogate
names no page. -/
def findCodes? (d : Document) (page : List Nat) : Option Page :=
  if Codes.isString page then d.find? (Codes.toString page) else none

/-- The page a name refers to, compared in canonical form. -/
def page? (d : Document) (name : String) : Option Page := d.find? (canonicalName name)

/-- Whether a name refers to a page. -/
def contains (d : Document) (name : String) : Bool := (d.page? name).isSome

/-- Whether a page is stored under exactly this name. -/
def declares (d : Document) (name : String) : Bool := (d.find? name).isSome

/-- Whether a link leads to the end or to a declared page. -/
def resolves (d : Document) (link : String) : Bool := link == endName || d.declares link

/-- The number of pages. -/
def size (d : Document) : Nat := d.pages.length

/-- The page names in declaration order. -/
def names (d : Document) : List String := d.pages.map (·.1)

/-- Add pages under their canonical names; a name met before is refused. -/
def addPages : List (String × Page) → List (String × Page) → Except DocumentError (List (String × Page))
  | acc, [] => .ok acc.reverse
  | acc, (n, p) :: rest =>
    let key := canonicalName n
    if acc.any (·.1 == key) then .error (.duplicatePage key) else addPages ((key, p) :: acc) rest

/-- A story from an entry name and named pages, every name in canonical form. -/
def build (entry : String) (pages : List (String × Page)) : Except DocumentError Document :=
  (addPages [] pages).map fun ps => ⟨canonicalName entry, ps⟩

end Document

end Gamebook
