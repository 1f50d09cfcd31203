import Gamebook.Unicode.Class
/- Text as lists of characters: trimming white space, cutting into lines, and the searches that
   the markup rules use. -/
namespace Gamebook.Text
open Unicode

/-- The text without white space at either end. -/
def trim (s : List Char) : List Char :=
  ((s.dropWhile isSpace).reverse.dropWhile isSpace).reverse

/-- The text without white space at its end. -/
def trimRight (s : List Char) : List Char :=
  (s.reverse.dropWhile isSpace).reverse

/-- Cut a text at its line boundaries, a carriage return and line feed counting as one; a
boundary at the very end opens no further line. -/
def lines (s : List Char) : List (List Char) :=
  go s []
where
  go : List Char → List Char → List (List Char)
    | [], acc => if acc.isEmpty then [] else [acc.reverse]
    | '\r' :: '\n' :: rest, acc => acc.reverse :: go rest []
    | c :: rest, acc => if isLineBreak c then acc.reverse :: go rest [] else go rest (c :: acc)

end Gamebook.Text
