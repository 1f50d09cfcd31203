import Gamebook.Text.Basic
import Gamebook.Unicode.Lower
/- Names of pages and variables are compared in one canonical form: trimmed, then lowercased. -/
namespace Gamebook

/-- The canonical form of a page or variable name: no white space at either end, lowercase. -/
def canonicalName (s : String) : String :=
  String.ofList (Unicode.lower (Text.trim s.toList))

/-- The reserved link that ends a story; no page of a parsed story carries this name. -/
def endName : String := "end"

end Gamebook
