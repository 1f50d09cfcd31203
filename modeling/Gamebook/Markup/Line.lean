import Gamebook.Text.Basic
/- The significant lines of markup: after leading byte-order marks are dropped and the text is cut
   at its line boundaries, each line is trimmed; empty lines and `//` comments are dropped. Each
   kept line remembers its physical number, from 1. A cursor walks the lines with a one-line step
   back. -/
namespace Gamebook.Markup

/-- A significant line: its physical number and its trimmed text. -/
structure Line where
  number : Nat
  text : List Char
  deriving DecidableEq, Repr

/-- Whether a trimmed line carries nothing: it is empty or a comment. -/
def isBlankOrComment (t : List Char) : Bool := t.isEmpty || t.take 2 == ['/', '/']

/-- The significant lines of a markup text. -/
def significantLines (markup : String) : List Line :=
  let body := markup.toList.dropWhile (· == '\uFEFF')
  ((Text.lines body).zipIdx 1).filterMap fun (raw, n) =>
    let t := Text.trim raw
    if isBlankOrComment t then none else some ⟨n, t⟩

/-- A position among the significant lines. -/
structure Cursor where
  lines : List Line
  pointer : Nat := 0

namespace Cursor

/-- The cursor before the first significant line of a markup text. -/
def ofMarkup (markup : String) : Cursor := ⟨significantLines markup, 0⟩

/-- Whether every line has been read. -/
def atEnd (c : Cursor) : Bool := c.pointer ≥ c.lines.length

/-- Read a line; at the end, the empty line and no move. -/
def next (c : Cursor) : String × Cursor :=
  match c.lines[c.pointer]? with
  | some l => (String.ofList l.text, { c with pointer := c.pointer + 1 })
  | none => ("", c)

/-- Step back one line, unless at the start. -/
def previous (c : Cursor) : Cursor := { c with pointer := c.pointer - 1 }

/-- The number of the line read last (of the first line before any read), 0 with no lines. -/
def lineNumber (c : Cursor) : Nat :=
  match c.lines[min (c.pointer - 1) (c.lines.length - 1)]? with
  | some l => l.number
  | none => 0

end Cursor

end Gamebook.Markup
