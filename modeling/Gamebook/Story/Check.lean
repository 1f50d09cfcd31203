import Gamebook.Story.Reach
/- Checking a story: the entry is declared; then page by page, in declaration order, the page has
   body text, has choices, and each choice leads to the end or to a declared page; last, every
   page is reachable from the entry. The first failure is reported. -/
namespace Gamebook

/-- A failed check of a story. -/
inductive CheckError where
  | entryMissing (entry : String)
  | noTexts (page : String)
  | noChoices (page : String)
  | unresolved (page link : String)
  | unreferenced (page : String)
  deriving DecidableEq, Repr

namespace CheckError

/-- The text of a failed check. -/
def message : CheckError → String
  | entryMissing e => "Entry page \"" ++ e ++ "\" is not declared"
  | noTexts p => "Page \"" ++ p ++ "\": no texts"
  | noChoices p => "Page \"" ++ p ++ "\": no choices"
  | unresolved p l => "Unresolved link from page \"" ++ p ++ "\" to unknown \"" ++ l ++ "\""
  | unreferenced p => "Page without references: \"" ++ p ++ "\""

/-- The page a failed check is about. -/
def page : CheckError → String
  | entryMissing e => e
  | noTexts p | noChoices p | unresolved p _ | unreferenced p => p

/-- The link a failed check is about. -/
def link? : CheckError → Option String
  | unresolved _ l => some l
  | _ => none

end CheckError

namespace Document

/-- The first failure among the pages' own checks, in declaration order. -/
def checkPages (d : Document) : List (String × Page) → Except CheckError Unit
  | [] => .ok ()
  | (n, p) :: rest =>
    if p.texts.isEmpty then .error (.noTexts n)
    else if p.choices.isEmpty then .error (.noChoices n)
    else match p.choices.find? (fun c => !d.resolves c.link) with
      | some c => .error (.unresolved n c.link)
      | none => d.checkPages rest

/-- Check a story. -/
def check (d : Document) : Except CheckError Unit := do
  if !d.declares d.entry then throw (.entryMissing d.entry)
  d.checkPages d.pages
  let seen := d.reachable
  match d.names.find? (fun n => !seen.contains n) with
  | some n => throw (.unreferenced n)
  | none => pure ()

end Document

end Gamebook
