import Gamebook.Markup.Line
import Gamebook.Markup.Error
import Gamebook.Story.Basic
/- Reading markup into a story. The significant lines fall into page blocks: a header line, the
   lines that open with `{` (state logic), the lines that open with neither `*` nor `-` (body), and
   the lines that open with `*` (choices). Each block is then read line by line; the first fault
   found, in reading order, is reported at the line where it shows. -/
namespace Gamebook.Markup
open Unicode

/-- The lines of one page. -/
structure Block where
  header : Line
  logic : List Line
  body : List Line
  choices : List Line
  deriving DecidableEq, Repr

def opensWith (c : Char) (l : Line) : Bool := l.text.head? == some c

/-- A body line opens with neither `*` nor `-`. -/
def isBodyLine (l : Line) : Bool := !(opensWith '*' l || opensWith '-' l)

/-- Cut the lines after a header into its page block and the lines after the block. -/
def Block.split (header : Line) (rest : List Line) : Block × List Line :=
  let logic := rest.takeWhile (opensWith '{')
  let r1 := rest.dropWhile (opensWith '{')
  let body := r1.takeWhile isBodyLine
  let r2 := r1.dropWhile isBodyLine
  (⟨header, logic, body, r2.takeWhile (opensWith '*')⟩, r2.dropWhile (opensWith '*'))

theorem Block.split_rest_le (header : Line) (rest : List Line) :
    (Block.split header rest).2.length ≤ rest.length := by
  simp only [Block.split]
  have h1 := (List.dropWhile_suffix (l := rest) (opensWith '{')).length_le
  have h2 := (List.dropWhile_suffix (l := rest.dropWhile (opensWith '{')) isBodyLine).length_le
  have h3 := (List.dropWhile_suffix
    (l := (rest.dropWhile (opensWith '{')).dropWhile isBodyLine) (opensWith '*')).length_le
  omega

/-- The text after the first `->` that is followed, past white space, by a word character, and
the text before that arrow. -/
def splitAtArrow : List Char → Option (List Char × List Char)
  | [] => none
  | '-' :: '>' :: rest =>
    match rest.dropWhile isSpace with
    | c :: more =>
      if isWord c then some ([], c :: more)
      else (splitAtArrow ('>' :: rest)).map fun (b, n) => ('-' :: b, n)
    | [] => (splitAtArrow ('>' :: rest)).map fun (b, n) => ('-' :: b, n)
  | c :: rest => (splitAtArrow rest).map fun (b, n) => (c :: b, n)

/-- The page name a header line declares. -/
def readHeader (l : Line) : Except Error String :=
  match splitAtArrow l.text with
  | none => .error ⟨l.number, .badHeader⟩
  | some (_, n) =>
    let name := canonicalName (String.ofList n)
    if name = endName then .error ⟨l.number, .reservedName⟩ else .ok name

/-- The logic of a state line `{...}`: braces only at its two ends, something inside. -/
def readLogicLine (l : Line) : Except Error Logic :=
  match l.text with
  | '{' :: rest =>
    let inner := rest.dropLast
    if rest.getLast? == some '}' ∧ !(inner.any fun c => c == '{' || c == '}') ∧ !(Text.trim inner).isEmpty
    then (Logic.parse (String.ofList inner) .state).mapError fun e => ⟨l.number, .logic e⟩
    else .error ⟨l.number, .badLogicLine⟩
  | _ => .error ⟨l.number, .badLogicLine⟩

/-- Drop one white space character at the front. -/
def dropOneSpace : List Char → List Char
  | c :: rest => if isSpace c then rest else c :: rest
  | [] => []

theorem dropOneSpace_length_le (l : List Char) : (dropOneSpace l).length ≤ l.length := by
  unfold dropOneSpace; split <;> (try split) <;> simp

/-- Cut a body at its break markers `[br]`, each with at most one white space character taken
from either side; `cur` holds the piece read so far, reversed. -/
def splitBreaks (cur : List Char) : List Char → List (List Char)
  | [] => [cur.reverse]
  | c :: rest =>
    if isSpace c ∧ rest.take 4 = ['[', 'b', 'r', ']'] then
      cur.reverse :: splitBreaks [] (dropOneSpace (rest.drop 4))
    else if (c :: rest).take 4 = ['[', 'b', 'r', ']'] then
      cur.reverse :: splitBreaks [] (dropOneSpace (rest.drop 3))
    else splitBreaks (c :: cur) rest
termination_by s => s.length
decreasing_by
  all_goals simp only [List.length_cons]
  · have := dropOneSpace_length_le (rest.drop 4); simp at this; omega
  · have := dropOneSpace_length_le (rest.drop 3); simp at this; omega
  · omega

/-- The body fragments of a page: its lines joined by single spaces, cut at the break markers,
empty pieces dropped. -/
def bodyTexts (body : List Line) : List String :=
  ((splitBreaks [] (" ".intercalate (body.map fun l => String.ofList l.text)).toList).filter
    (!·.isEmpty)).map String.ofList

/-- The choice a choice line declares. -/
def readChoice (l : Line) : Except Error Choice :=
  match l.text with
  | '*' :: rest =>
    match splitAtArrow rest with
    | none => .error ⟨l.number, .badChoice⟩
    | some (before, n) =>
      let link := canonicalName (String.ofList n)
      match Text.trim before with
      | [] => .ok { link }
      | '{' :: inside =>
        let guardText := inside.takeWhile fun c => c != '{' && c != '}'
        match inside.dropWhile (fun c => c != '{' && c != '}') with
        | '}' :: after =>
          match Logic.parse (String.ofList guardText) .guard with
          | .error e => .error ⟨l.number, .logic e⟩
          | .ok g =>
            let text := Text.trim after
            if text.isEmpty then .error ⟨l.number, .guardWithoutText⟩
            else .ok { link, text := some (String.ofList text), guard := some g }
        | _ => .ok { link, text := some (String.ofList (Text.trim before)) }
      | label => .ok { link, text := some (String.ofList label) }
  | _ => .error ⟨l.number, .badChoice⟩

/-- The line read last in a block. -/
def Block.lastLine (b : Block) : Line :=
  (b.choices.getLast? <|> b.body.getLast? <|> b.logic.getLast?).getD b.header

/-- Read a page block. -/
def Block.read (b : Block) : Except Error (String × Page) := do
  let name ← readHeader b.header
  let logics ← b.logic.mapM readLogicLine
  let texts := bodyTexts b.body
  if texts.isEmpty then
    throw ⟨(b.body.getLast? <|> b.logic.getLast?).getD b.header |>.number, .noTexts⟩
  let choices ← b.choices.mapM readChoice
  match choices with
  | [] => throw ⟨b.lastLine.number, .noChoices⟩
  | [c] => if c.guard.isSome then throw ⟨b.lastLine.number, .guardedAuto⟩
  | _ => if choices.any (fun c => (c.text.getD "").isEmpty) then
      throw ⟨b.lastLine.number, .autoAmongOthers⟩
  pure (name, { texts, choices, logics, line := b.header.number })

/-- Read the pages of the lines, after those in `acc`, reversed. -/
def readPages (acc : List (String × Page)) : List Line → Except Error (List (String × Page))
  | [] => .ok acc.reverse
  | header :: rest =>
    match _h : Block.split header rest with
    | (b, after) =>
      match b.read with
      | .error e => .error e
      | .ok (name, page) =>
        if acc.any (·.1 == name) then .error ⟨page.line, .duplicatePage name⟩
        else readPages ((name, page) :: acc) after
termination_by lines => lines.length
decreasing_by
  have := Block.split_rest_le header rest
  rw [_h] at this
  simp only [List.length_cons] at this ⊢
  omega

/-- Read a markup text into a story whose entry is its first page. -/
def parse (markup : String) : Except Error Document :=
  match significantLines markup with
  | [] => .error ⟨0, .noMarkup⟩
  | lines =>
    match readPages [] lines with
    | .error e => .error e
    | .ok [] => .error ⟨0, .noMarkup⟩
    | .ok ((entry, p) :: ps) => .ok ⟨entry, (entry, p) :: ps⟩

end Gamebook.Markup
