/- Binary64 floating-point numbers held as their bits: the exact value a finite number stands
   for, the interval of reals that round to it, and the number nearest to a ratio of naturals. -/
namespace Gamebook

/-- A binary64 floating-point number, held as its IEEE 754 bits. -/
structure Double where
  bits : UInt64
  deriving DecidableEq, Repr, Inhabited

/-- A decimal `digits * 10 ^ exp`. -/
structure Dec where
  digits : Nat
  exp : Int
  deriving DecidableEq, Repr, Inhabited

/-- A finite non-negative binary64 value `m * 2 ^ q`; `narrowBelow` marks a power of two whose
gap to the value below is half the gap to the value above. -/
structure Binary where
  m : Nat
  q : Int
  narrowBelow : Bool
  deriving DecidableEq, Repr

namespace Double

def exponentField (x : Double) : Nat := ((x.bits >>> 52) &&& 0x7FF).toNat

def fraction (x : Double) : Nat := (x.bits &&& 0xFFFFFFFFFFFFF).toNat

def isNegative (x : Double) : Bool := x.bits >>> 63 == 1

def isNaN (x : Double) : Bool := x.exponentField == 0x7FF && x.fraction != 0

def isInfinite (x : Double) : Bool := x.exponentField == 0x7FF && x.fraction == 0

def isZero (x : Double) : Bool := x.exponentField == 0 && x.fraction == 0

/-- The magnitude of a finite number as `m * 2 ^ q`. -/
def magnitude (x : Double) : Binary :=
  let e := x.exponentField
  let f := x.fraction
  if e == 0 then ⟨f, -1074, false⟩ else ⟨Nat.pow 2 52 + f, (e : Int) - 1075, f == 0 && e > 1⟩

def posInfinity : Double := ⟨0x7FF0000000000000⟩

def negInfinity : Double := ⟨0xFFF0000000000000⟩

/-- The quiet NaN. -/
def nan : Double := ⟨0x7FF8000000000000⟩

/-- The same number with the sign bit set. -/
def negate (x : Double) : Double := ⟨x.bits ^^^ 0x8000000000000000⟩

end Double

/-- Compare `a * 10 ^ i` with `n * 2 ^ j`, exactly. -/
def cmpScaled (a : Nat) (i : Int) (n : Nat) (j : Int) : Ordering :=
  compare (a * Nat.pow 10 i.toNat * Nat.pow 2 (-j).toNat) (n * Nat.pow 2 j.toNat * Nat.pow 10 (-i).toNat)

/-- Whether the decimal `d` lies among the reals that round to `x` (to nearest, a tie to the even
neighbour): strictly between the midpoints to the neighbours, or on one when `m` is even. -/
def Binary.readsBack (x : Binary) (d : Dec) : Bool :=
  let lo := if x.narrowBelow then 4 * x.m - 1 else 4 * x.m - 2
  let hi := 4 * x.m + 2
  let incl := x.m % 2 == 0
  let cl := cmpScaled d.digits d.exp lo (x.q - 2)
  let ch := cmpScaled d.digits d.exp hi (x.q - 2)
  (cl == .gt || (incl && cl == .eq)) && (ch == .lt || (incl && ch == .eq))

/-- `n / d` rounded to the nearest natural, a half going to the even one. -/
def roundHalfEven (n d : Nat) : Nat :=
  let q := n / d
  let r := n % d
  if 2 * r < d then q else if 2 * r > d then q + 1 else if q % 2 == 0 then q else q + 1

namespace Double

/-- The positive number with biased exponent `e` (from 1) and significand `s` (from `2 ^ 52`). -/
def ofNormal (e s : Nat) : Double := ⟨(e.toUInt64 <<< 52) ||| (s - Nat.pow 2 52).toUInt64⟩

/-- The number nearest to `num / den`, a tie going to the even significand; a ratio beyond the
largest finite number rounds to infinity. -/
def ofQuotient (num den : Nat) : Double :=
  if num = 0 ∨ den = 0 then ⟨0⟩ else
  let e0 : Int := (num.log2 : Int) - den.log2
  -- 2 ^ k ≤ num / den < 2 ^ (k + 1)
  let k : Int := if num * Nat.pow 2 (-e0).toNat ≥ den * Nat.pow 2 e0.toNat then e0 else e0 - 1
  if k > 1023 then posInfinity else
  if k ≥ -1022 then
    let sh : Int := 52 - k
    let s := roundHalfEven (num * Nat.pow 2 sh.toNat) (den * Nat.pow 2 (-sh).toNat)
    if s = Nat.pow 2 53 then
      if k + 1 > 1023 then posInfinity else ofNormal (k + 1 + 1023).toNat (Nat.pow 2 52)
    else ofNormal (k + 1023).toNat s
  else
    ⟨(roundHalfEven (num * Nat.pow 2 1074) den).toUInt64⟩

/-- The number of decimal digits of a positive natural. -/
def digitCount (n : Nat) : Nat := (Nat.repr n).length

/-- The number nearest to `m * 10 ^ e`, negated when `negative`; magnitudes far outside the range
of finite numbers give zero or infinity without computing their powers. -/
def ofDecimal (negative : Bool) (m : Nat) (e : Int) : Double :=
  let x : Double :=
    if m = 0 then ⟨0⟩
    else if (digitCount m : Int) + e > 310 then posInfinity
    else if (digitCount m : Int) + e < -330 then ⟨0⟩
    else if e ≥ 0 then ofQuotient (m * Nat.pow 10 e.toNat) 1
    else ofQuotient m (Nat.pow 10 (-e).toNat)
  if negative then x.negate else x

/-- The number nearest to the integer `n`. -/
def ofInt (n : Int) : Double := ofDecimal (n < 0) n.natAbs 0

/-- Whether a finite number equals the integer `n` exactly. -/
def eqInt (x : Double) (n : Int) : Bool :=
  if x.isNaN || x.isInfinite then false else
  let b := x.magnitude
  let v : Int := if b.q ≥ 0 then (b.m * Nat.pow 2 b.q.toNat : Nat) else 0
  let exact := b.q ≥ 0 || b.m % Nat.pow 2 (-b.q).toNat == 0
  let w : Int := if b.q ≥ 0 then v else (b.m / Nat.pow 2 (-b.q).toNat : Nat)
  exact && (if x.isNegative then -w else w) == n

end Double

end Gamebook
