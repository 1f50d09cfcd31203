import Gamebook.Data.Value
import Gamebook.Number.Layout
import Gamebook.Unicode.Class
/- Data literals: the text that shows a value as it would be written in source, as reports and
   error messages show lists, text and numbers. Text takes single quotes unless it holds a single
   quote and no double quote; characters that do not print are escaped by their code point in
   lowercase hexadecimal. -/
namespace Gamebook

/-- `n` as `width` lowercase hexadecimal digits. -/
def hexDigits (width n : Nat) : String :=
  let ds := Nat.toDigits 16 n
  String.ofList (List.replicate (width - ds.length) '0' ++ ds)

/-- The escape of one character inside a literal quoted by `q`. -/
def literalChar (q : Char) (c : Char) : String :=
  if c == q ∨ c == '\\' then "\\" ++ c.toString
  else if c == '\t' then "\\t"
  else if c == '\n' then "\\n"
  else if c == '\r' then "\\r"
  else if c.toNat < 0x20 ∨ c.toNat == 0x7F then "\\x" ++ hexDigits 2 c.toNat
  else if c.toNat < 0x7F ∨ Unicode.isPrintable c then c.toString
  else if c.toNat ≤ 0xFF then "\\x" ++ hexDigits 2 c.toNat
  else if c.toNat ≤ 0xFFFF then "\\u" ++ hexDigits 4 c.toNat
  else "\\U" ++ hexDigits 8 c.toNat

/-- The literal of a text. -/
def textLiteral (s : String) : String :=
  let q := if s.contains '\'' ∧ !s.contains '"' then '"' else '\''
  q.toString ++ String.join (s.toList.map (literalChar q)) ++ q.toString

/-- The literal of text given as code points; a lone surrogate does not print and is escaped. -/
def codesLiteral (cs : List Nat) : String :=
  let q := if cs.contains 39 ∧ !cs.contains 34 then '"' else '\''
  let one (n : Nat) : String :=
    if Codes.isSurrogate n then "\\u" ++ hexDigits 4 n else literalChar q (Char.ofNat n)
  q.toString ++ String.join (cs.map one) ++ q.toString

/-- The literal of a byte string: `b` and a quoted text, bytes outside printable ASCII escaped. -/
def bytesLiteral (data : List UInt8) : String :=
  let q := if data.contains 39 ∧ !data.contains 34 then '"' else '\''
  let one (b : UInt8) : String :=
    let c := Char.ofNat b.toNat
    if c == q ∨ c == '\\' then "\\" ++ c.toString
    else if c == '\t' then "\\t"
    else if c == '\n' then "\\n"
    else if c == '\r' then "\\r"
    else if b < 0x20 ∨ b ≥ 0x7F then "\\x" ++ hexDigits 2 b.toNat
    else c.toString
  "b" ++ q.toString ++ String.join (data.map one) ++ q.toString

namespace Value

mutual

/-- The literal of a value. -/
def literal : Value → String
  | null => "None"
  | bool b => if b then "True" else "False"
  | int n => toString n
  | float x => x.shortText .literal
  | str s => textLiteral s
  | list items => "[" ++ ", ".intercalate (literalItems items) ++ "]"
  | map entries => "\x7b" ++ ", ".intercalate (literalMembers entries) ++ "\x7d"
  | stamp t => t.literal
  | set [] => "set()"
  | set items => "\x7b" ++ ", ".intercalate (literalItems items) ++ "\x7d"
  | bytes data => bytesLiteral data
  | codes cs => codesLiteral cs

/-- The literals of the items of a list. -/
def literalItems : List Value → List String
  | [] => []
  | v :: vs => literal v :: literalItems vs

/-- The literals `key: value` of the members of a map. -/
def literalMembers : List (Value × Value) → List String
  | [] => []
  | (k, v) :: rest => (literal k ++ ": " ++ literal v) :: literalMembers rest

end

/-- The plain text of a value: text as itself, anything else as its literal. -/
def plain : Value → String
  | str s => s
  | codes cs => Codes.toString cs
  | stamp t => t.text
  | v => v.literal

end Value

end Gamebook
