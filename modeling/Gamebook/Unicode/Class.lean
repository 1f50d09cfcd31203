import Gamebook.Unicode.Alnum
import Gamebook.Unicode.Printable
/- Character classes of Unicode 14.0 decided by the tables: white space, line boundaries,
   letters and digits, word characters, decimal digits with their values, printable characters. -/
namespace Gamebook.Unicode

/-- White space: tab to carriage return, the four information separators and the space, next
line, no-break space, and the space, line and paragraph separators of Unicode. -/
def isSpace (c : Char) : Bool :=
  let n := c.toNat
  (9 ≤ n && n ≤ 13) || (28 ≤ n && n ≤ 32) || n == 0x85 || n == 0xA0 || n == 0x1680 ||
    (0x2000 ≤ n && n ≤ 0x200A) || n == 0x2028 || n == 0x2029 || n == 0x202F ||
    n == 0x205F || n == 0x3000

/-- Line boundaries: line feed, carriage return, the two tabulations, three information
separators, next line, and the line and paragraph separators. -/
def isLineBreak (c : Char) : Bool :=
  let n := c.toNat
  (10 ≤ n && n ≤ 13) || (28 ≤ n && n ≤ 30) || n == 0x85 || n == 0x2028 || n == 0x2029

/-- Letters and characters with a numeric value. -/
def isAlnum (c : Char) : Bool := inRanges alnumRanges c.toNat

/-- Word characters: letters, characters with a numeric value, and the underscore. -/
def isWord (c : Char) : Bool := c == '_' || isAlnum c

/-- Characters with a digit value, superscript and circled digits included. -/
def isDigit (c : Char) : Bool := inRanges digitRanges c.toNat

/-- The value of a decimal digit of any script: its distance from the zero of its run of ten. -/
def decimalValue? (c : Char) : Option Nat :=
  match lastAtMost decimalZeros id c.toNat with
  | some z => if c.toNat - z < 10 then some (c.toNat - z) else none
  | none => none

/-- Decimal digits of any script (general category Nd). -/
def isDecimal (c : Char) : Bool := (decimalValue? c).isSome

/-- Characters shown as themselves when text is quoted. -/
def isPrintable (c : Char) : Bool := inRanges printableRanges c.toNat

end Gamebook.Unicode
