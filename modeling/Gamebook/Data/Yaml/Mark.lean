import Gamebook.Data.Literal
/- Places in a YAML text and the errors that point at them. A mark is a character offset with
   its line and column; an error names what was being read and where it began, what went wrong
   and where, and shows each place as its line cut to at most 75 characters with a caret under
   the place. -/
namespace Gamebook.Yaml

/-- A place in the text: offset, line and column, all from 0. -/
structure Mark where
  index : Nat
  line : Nat
  column : Nat
  deriving DecidableEq, Repr, Inhabited

/-- Characters that end a line of the text, and the end of the text itself. -/
def isLineEnd (c : Char) : Bool :=
  c == '\x00' || c == '\r' || c == '\n' || c == '\x85' || c == '\u2028' || c == '\u2029'

namespace Mark

/-- How many characters before the place stand on its line, counting at most `bound`. -/
def lineBefore (buf : Array Char) (i : Nat) : Nat → Nat
  | 0 => 0
  | bound + 1 =>
    match i with
    | 0 => 0
    | j + 1 => if isLineEnd (buf.getD j '\x00') then 0 else lineBefore buf j bound + 1

/-- How many characters from the place on stand on its line, counting at most `bound`. -/
def lineAfter (buf : Array Char) (i : Nat) : Nat → Nat
  | 0 => 0
  | bound + 1 =>
    if i < buf.size && !isLineEnd (buf.getD i '\x00') then lineAfter buf (i + 1) bound + 1 else 0

/-- The line of the place, cut to 32 characters on each side with ` ... `, and a caret under
the place, both indented by four spaces. -/
def snippet (buf : Array Char) (m : Mark) : String :=
  let before := lineBefore buf m.index 37
  let after := lineAfter buf m.index 37
  let (start, head) := if before ≥ 37 then (m.index - 32, " ... ") else (m.index - before, "")
  let (stop, tail) := if after ≥ 37 then (m.index + 32, " ... ") else (m.index + after, "")
  let text := String.ofList ((buf.extract start stop).toList)
  "    " ++ head ++ text ++ tail ++ "\n" ++
    String.ofList (List.replicate (4 + m.index - start + head.length) ' ') ++ "^"

/-- The place as the lines of an error message show it. -/
def describe (buf : Array Char) (m : Mark) : String :=
  "  in \"<unicode string>\", line " ++ toString (m.line + 1) ++ ", column " ++
    toString (m.column + 1) ++ ":\n" ++ m.snippet buf

end Mark

/-- Why a YAML text cannot be read. -/
inductive Error where
  /-- A character that may not appear in the text at all, with its offset. -/
  | badCharacter (code position : Nat)
  /-- The text breaks the grammar or names what cannot be built: what was being read and where
  it began, then the problem and where it lies. -/
  | marked (context : Option String) (contextMark : Option Mark) (problem : String) (mark : Mark)
  /-- A number or a date whose text cannot be read or whose value is out of range. -/
  | badValue (message : String)
  /-- A truth value that is no known word, given as the word's literal. -/
  | unknownWord (literal : String)
  /-- A timestamp tag on a text that is no timestamp. -/
  | noTimestamp
  /-- An integer tag on an empty text. -/
  | emptyNumber
  /-- A number too large for the machine word or float it must go into. -/
  | overflow (message : String)
  /-- A pattern was matched against data that is no text: the kind of data. -/
  | notText (kind : String)
  /-- The text nests deeper, or refers to itself more often, than reading goes. -/
  | tooDeep
  deriving DecidableEq, Repr, Inhabited

namespace Error

/-- A problem at a place, while nothing larger was being read. -/
def bare (problem : String) (mark : Mark) : Error := marked none none problem mark

/-- A problem at a place, while reading what began at `start`. -/
def within (context : String) (start : Mark) (problem : String) (mark : Mark) : Error :=
  marked (some context) (some start) problem mark

/-- Whether the error belongs to the text's grammar and meaning, rather than to reading a
number, a date or a truth value. -/
def isTextError : Error → Bool
  | badCharacter _ _ | marked _ _ _ _ => true
  | _ => false

/-- The text of an error, showing its places in `buf`, the text with a NUL after it. -/
def message (buf : Array Char) : Error → String
  | badCharacter code pos =>
    "unacceptable character #x" ++ hexDigits 4 code ++
      ": special characters are not allowed\n  in \"<unicode string>\", position " ++ toString pos
  | marked context contextMark problem mark =>
    let shown := match contextMark with
      | some c => if c.line != mark.line || c.column != mark.column then [c.describe buf] else []
      | none => []
    "\n".intercalate (context.toList ++ shown ++ [problem, mark.describe buf])
  | badValue m => m
  | unknownWord w => w
  | noTimestamp => "'NoneType' object has no attribute 'groupdict'"
  | emptyNumber => "string index out of range"
  | overflow m => m
  | notText k => "expected string or bytes-like object, got " ++ textLiteral k
  | tooDeep => "maximum recursion depth exceeded"

end Error

/-- Calls that making a mark, token, event or node takes below the call that makes it: one that
makes the object, and one that sets it up. -/
def makeCalls : Nat := 2

end Gamebook.Yaml
