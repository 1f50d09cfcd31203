import Gamebook.Number.Double
/- Sums and products of binary64 numbers, each the exact result rounded to the nearest number,
   a tie to the even one. NaN in gives NaN out; infinity times zero and the sum of opposite
   infinities are NaN; an exact zero sum is negative only when both terms are negative zeros. -/
namespace Gamebook.Double

/-- Whether a natural number rounds to a finite number: it lies below the midpoint between the
largest finite number, 2^1024 - 2^971, and 2^1024, where a tie goes up to the even 2^1024. -/
def natFits (n : Nat) : Bool := n < Nat.pow 2 1024 - Nat.pow 2 970

/-- A finite number as a sign and a ratio of naturals. -/
def quotient (x : Double) : Bool × Nat × Nat :=
  let b := x.magnitude
  (x.isNegative, b.m * Nat.pow 2 b.q.toNat, Nat.pow 2 (-b.q).toNat)

/-- The number nearest to a signed ratio; a zero ratio takes the given sign. -/
def ofSignedQuotient (negative : Bool) (num den : Nat) : Double :=
  let x := ofQuotient num den
  if negative then x.negate else x

def mul (x y : Double) : Double :=
  let negative := x.isNegative != y.isNegative
  if x.isNaN || y.isNaN then nan
  else if x.isInfinite || y.isInfinite then
    if x.isZero || y.isZero then nan
    else if negative then negInfinity else posInfinity
  else
    let (_, a, b) := x.quotient
    let (_, c, d) := y.quotient
    ofSignedQuotient negative (a * c) (b * d)

def add (x y : Double) : Double :=
  if x.isNaN || y.isNaN then nan
  else if x.isInfinite && y.isInfinite then
    if x.isNegative == y.isNegative then x else nan
  else if x.isInfinite then x
  else if y.isInfinite then y
  else
    let (sx, a, b) := x.quotient
    let (sy, c, d) := y.quotient
    let p : Int := (if sx then -1 else 1) * (a * d : Nat)
    let q : Int := (if sy then -1 else 1) * (c * b : Nat)
    let s := p + q
    if s == 0 then
      if x.isNegative && y.isNegative then negate ⟨0⟩ else ⟨0⟩
    else ofSignedQuotient (s < 0) s.natAbs (b * d)

end Gamebook.Double
