import Gamebook.Number.Double
/- The shortest decimal that reads back as a given binary64 value: for one, two, ... seventeen
   digits, the two neighbours of the value on that decimal grid are tested against the interval
   of reals that round to it; the first grid with a hit wins, and of two hits the nearer, a tie
   going to the even digits. -/
namespace Gamebook

namespace Binary

/-- The least `k` with `m * 2 ^ q < 10 ^ k`, for `m > 0`: estimated from the binary exponent,
then corrected by exact comparisons. -/
def scale (x : Binary) : Int :=
  let b : Int := (x.m.log2 : Int) + x.q
  let k0 : Int := (b * 30103) / 100000 + 1
  let up (k : Int) : Int := if cmpScaled 1 k x.m x.q != .gt then k + 1 else k
  let down (k : Int) : Int := if cmpScaled 1 (k - 1) x.m x.q == .gt then k - 1 else k
  down (down (down (up (up (up k0)))))

/-- The value divided by `10 ^ e`, rounded down. -/
def floorOnGrid (x : Binary) (e : Int) : Nat :=
  (x.m * Nat.pow 2 x.q.toNat * Nat.pow 10 (-e).toNat) / (Nat.pow 2 (-x.q).toNat * Nat.pow 10 e.toNat)

/-- Twice the value against `(2 * d + 1) * 10 ^ e`: `lt` when `d * 10 ^ e` is the nearer of
`d * 10 ^ e` and `(d + 1) * 10 ^ e`, `gt` when the other is. -/
def lowerNearer (x : Binary) (d : Nat) (e : Int) : Ordering :=
  compare (2 * x.m * Nat.pow 2 x.q.toNat * Nat.pow 10 (-e).toNat)
    ((2 * d + 1) * Nat.pow 2 (-x.q).toNat * Nat.pow 10 e.toNat)

/-- The decimal of `n` digits that reads back, if one of the two neighbours on that grid does. -/
def onGrid (x : Binary) (n : Nat) : Option Dec :=
  let e := x.scale - n
  let d := x.floorOnGrid e
  let lo : Dec := ⟨d, e⟩
  let hi : Dec := ⟨d + 1, e⟩
  match x.readsBack lo, x.readsBack hi with
  | true, true =>
    match x.lowerNearer d e with
    | .lt => some lo
    | .gt => some hi
    | .eq => some (if d % 2 == 0 then lo else hi)
  | true, false => some lo
  | false, true => some hi
  | false, false => none

/-- The exact decimal value. -/
def exact (x : Binary) : Dec :=
  if x.q ≥ 0 then ⟨x.m * Nat.pow 2 x.q.toNat, 0⟩ else ⟨x.m * Nat.pow 5 (-x.q).toNat, x.q⟩

end Binary

/-- The same decimal without trailing zeros in its digits. -/
def Dec.normalize (d : Dec) : Dec :=
  if h : d.digits ≠ 0 ∧ d.digits % 10 = 0 then
    Dec.normalize ⟨d.digits / 10, d.exp + 1⟩
  else d
termination_by d.digits
decreasing_by exact Nat.div_lt_self (Nat.pos_of_ne_zero h.1) (by decide)

/-- The shortest decimal that reads back as the positive value `x`, nearest among the shortest. -/
def Binary.shortest (x : Binary) : Dec :=
  match (List.range 17).findSome? (fun i => x.onGrid (i + 1)) with
  | some d => d.normalize
  | none => x.exact.normalize

end Gamebook
