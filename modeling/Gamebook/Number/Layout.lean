import Gamebook.Number.Shortest
/- How numbers are written. A finite value is written with its shortest digits: positionally
   when its leading digit stands at a decimal exponent from -4 to 15, with at least one digit after
   the point, and otherwise as `d.ddde+XX` with a signed exponent of at least two digits. Fixed
   places round the exact binary value, a half going to the even neighbour. -/
namespace Gamebook

/-- `n` zeros. -/
def zeros (n : Nat) : String := String.ofList (List.replicate n '0')

/-- The decimal exponent `e` of an exponent field, signed and with at least two digits. -/
def exponentText (e : Int) : String :=
  let body := toString e.natAbs
  (if e < 0 then "-" else "+") ++ (if body.length < 2 then "0" ++ body else body)

/-- Lay out a decimal without trailing zeros in its digits. -/
def Dec.layout (d : Dec) : String :=
  let ds := toString d.digits
  let len : Int := ds.length
  -- the value is 0.ds * 10 ^ point
  let point : Int := len + d.exp
  if point ≤ -4 ∨ point > 16 then
    let rest := ds.drop 1
    String.ofList (ds.toList.take 1) ++ (if rest.isEmpty then "" else "." ++ rest.copy) ++
      "e" ++ exponentText (point - 1)
  else if point ≤ 0 then "0." ++ zeros (-point).toNat ++ ds
  else if point < len then
    (ds.take point.toNat).copy ++ "." ++ (ds.drop point.toNat).copy
  else ds ++ zeros (point - len).toNat ++ ".0"

/-- Texts for the values without digits. -/
structure SpecialTexts where
  nan : String
  inf : String

/-- The texts of a data literal: `nan`, `inf`. -/
def SpecialTexts.literal : SpecialTexts := ⟨"nan", "inf"⟩

/-- The texts of JSON output: `NaN`, `Infinity`. -/
def SpecialTexts.json : SpecialTexts := ⟨"NaN", "Infinity"⟩

/-- The shortest text of a number that reads back as it. -/
def Double.shortText (t : SpecialTexts) (x : Double) : String :=
  if x.isNaN then t.nan
  else
    let sign := if x.isNegative then "-" else ""
    if x.isInfinite then sign ++ t.inf
    else if x.isZero then sign ++ "0.0"
    else sign ++ x.magnitude.shortest.layout

/-- The text of a number with `places` digits after the point, rounded from its exact value. -/
def Double.fixedText (places : Nat) (x : Double) : String :=
  if x.isNaN then "nan"
  else
    let sign := if x.isNegative then "-" else ""
    if x.isInfinite then sign ++ "inf"
    else
      let b := x.magnitude
      let r := roundHalfEven (b.m * Nat.pow 2 b.q.toNat * Nat.pow 10 places) (Nat.pow 2 (-b.q).toNat)
      let whole := toString (r / Nat.pow 10 places)
      let frac := toString (r % Nat.pow 10 places)
      sign ++ whole ++ (if places = 0 then "" else "." ++ zeros (places - frac.length) ++ frac)

end Gamebook
