import Gamebook.Unicode.Lower
import Gamebook.Unicode.Class
/- Text as code points. Text decoded from a `\u` escape may hold a lone surrogate (a code point
   from U+D800 to U+DFFF), which no `Char` and so no `String` holds; such text is kept as its list
   of code points. Text without one turns into a `String` and back without loss. -/
namespace Gamebook.Codes

def isSurrogate (n : Nat) : Bool := 0xD800 ≤ n && n ≤ 0xDFFF

/-- The code points of a string. -/
def ofString (s : String) : List Nat := s.toList.map Char.toNat

/-- Whether every code point is a character, so that the text is a `String`. -/
def isString (cs : List Nat) : Bool := cs.all fun n => !isSurrogate n && n < 0x110000

/-- The character of a code point; a lone surrogate becomes U+FFFD. -/
def char (n : Nat) : Char := if !isSurrogate n && n < 0x110000 then Char.ofNat n else '\uFFFD'

/-- The characters of code points, each lone surrogate as U+FFFD. -/
def chars (cs : List Nat) : List Char := cs.map char

/-- The string of code points, each lone surrogate as U+FFFD. -/
def toString (cs : List Nat) : String := String.ofList (chars cs)

/-- Lower-case a run of text that holds no lone surrogate. -/
def lowerRun (run : List Nat) : List Nat := (Unicode.lower (chars run)).map Char.toNat

/-- Lower-case text after the run `run`, reversed, of the text before it. -/
def lowerWithRun (run : List Nat) : List Nat → List Nat
  | [] => lowerRun run.reverse
  | n :: rest =>
    if isSurrogate n then lowerRun run.reverse ++ n :: lowerWithRun [] rest
    else lowerWithRun (n :: run) rest

/-- Lower-case text. A lone surrogate is neither cased nor ignorable in casing, so it bounds the
context of the final-sigma rule like any uncased character: the runs between surrogates are
lowered each on its own. -/
def lower (cs : List Nat) : List Nat := lowerWithRun [] cs

/-- White space; a lone surrogate is none. -/
def isSpace (n : Nat) : Bool := Unicode.isSpace (char n)

/-- The text without white space at either end. -/
def trim (cs : List Nat) : List Nat := ((cs.dropWhile isSpace).reverse.dropWhile isSpace).reverse

/-- The canonical form of a name given as code points: trimmed, then lowercased. -/
def canonical (cs : List Nat) : List Nat := lower (trim cs)

def isHighSurrogate (n : Nat) : Bool := 0xD800 ≤ n && n ≤ 0xDBFF

def isLowSurrogate (n : Nat) : Bool := 0xDC00 ≤ n && n ≤ 0xDFFF

/-- Whether a high surrogate stands right before a low one. JSON text writes the two as escapes,
and reading them back gives the one code point the pair encodes. -/
def holdsPair : List Nat → Bool
  | a :: b :: rest => (isHighSurrogate a && isLowSurrogate b) || holdsPair (b :: rest)
  | _ => false

theorem valid_toNat (c : Char) : (!isSurrogate c.toNat && c.toNat < 0x110000) = true := by
  have h := c.valid
  simp only [UInt32.isValidChar, Nat.isValidChar] at h
  show (!(decide (0xD800 ≤ c.val.toNat) && decide (c.val.toNat ≤ 0xDFFF)) &&
    decide (c.val.toNat < 0x110000)) = true
  simp only [Bool.and_eq_true, Bool.not_and, Bool.or_eq_true, Bool.not_eq_true',
    decide_eq_false_iff_not, decide_eq_true_eq]
  omega

theorem ofString_isString (s : String) : isString (ofString s) = true := by
  simp only [isString, ofString, List.all_map, List.all_eq_true, Function.comp_apply]
  exact fun c _ => valid_toNat c

end Gamebook.Codes
