import Gamebook.Number.Read
/- Page logic: a variable, an operator and an integer. State logic (`=`, `+=`) changes a variable
   when a page is entered; guard logic (`==`, `!=`, `<`, `>`) decides whether a choice shows. -/
namespace Gamebook

/-- Where a piece of logic may stand: in a page's state block or as a choice's guard. -/
inductive Role where
  | state
  | guard
  deriving DecidableEq, Repr, Inhabited

/-- The six operators of page logic. -/
inductive Operator where
  | assign
  | increase
  | eq
  | ne
  | lt
  | gt
  deriving DecidableEq, Repr, Inhabited

namespace Operator

/-- How an operator is written. -/
def symbol : Operator → String
  | assign => "="
  | increase => "+="
  | eq => "=="
  | ne => "!="
  | lt => "<"
  | gt => ">"

/-- The operator written as `s`, if any. -/
def ofSymbol? (s : String) : Option Operator :=
  [assign, increase, eq, ne, lt, gt].find? (·.symbol == s)

/-- `=` and `+=` change a variable; the others compare it. -/
def changes : Operator → Bool
  | assign | increase => true
  | _ => false

/-- State operators change, guard operators compare. -/
def role (o : Operator) : Role := if o.changes then .state else .guard

end Operator

/-- One piece of page logic, `lhs op rhs`. -/
structure Logic where
  op : Operator
  lhs : String
  rhs : Int
  deriving DecidableEq, Repr, Inhabited

namespace Logic

/-- Guard logic compares; state logic changes. -/
def isGuard (l : Logic) : Bool := !l.op.changes

/-- The normal written form `lhs op rhs`, as the parser reads it back. -/
def render (l : Logic) : String := l.lhs ++ " " ++ l.op.symbol ++ " " ++ toString l.rhs

/-- The written form as the program prints it: a value whose decimal text passes the digit limit
cannot be printed. -/
def print? (l : Logic) : Option String := if Number.fitsDigitLimit l.rhs then some l.render else none

end Logic

end Gamebook
