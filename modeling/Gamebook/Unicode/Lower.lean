import Gamebook.Unicode.CaseTables
/- Lowercase text by the full mapping of Unicode 14.0: capital I with dot above becomes two
   characters, and capital sigma becomes the final form when it ends a word. -/
namespace Gamebook.Unicode

/-- Characters that case operations see through, such as combining marks and apostrophes. -/
def isCaseIgnorable (c : Char) : Bool := inRanges caseIgnorableRanges c.toNat

/-- Characters with case that are not case-ignorable. -/
def isCased (c : Char) : Bool := inRanges casedRanges c.toNat

/-- The lowercase form of one character, apart from the sigma context. -/
def lowerChar (c : Char) : List Char :=
  if c.toNat = 0x130 then ['i', '\u0307'] else
  match lastAtMost lowerRuns (·.1) c.toNat with
  | some (a, b, step, shift) =>
    if c.toNat ≤ b ∧ (c.toNat - a) % step = 0 then [Char.ofNat (c.toNat + shift).toNat] else [c]
  | none => [c]

/-- A capital sigma is final when a cased character precedes it and none follows it, looking
through case-ignorable characters on both sides; `before` is the text before it, reversed. -/
def finalSigma (before after : List Char) : Bool :=
  (match before.dropWhile isCaseIgnorable with
   | c :: _ => isCased c
   | [] => false) &&
  (match after.dropWhile isCaseIgnorable with
   | c :: _ => !isCased c
   | [] => true)

/-- Lowercase `s`, given the text before it, reversed. -/
def lowerFrom : List Char → List Char → List Char
  | _, [] => []
  | before, c :: rest =>
    (if c = 'Σ' then [if finalSigma before rest then 'ς' else 'σ'] else lowerChar c) ++
      lowerFrom (c :: before) rest

/-- The lowercase form of a text. -/
def lower (s : List Char) : List Char := lowerFrom [] s

end Gamebook.Unicode
