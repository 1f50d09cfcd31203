/- Tables of code points sorted by their first point, and the search for the entry that covers
   a point. Every character class of the library is decided through these two functions. -/
namespace Gamebook.Unicode

/-- The last entry of a table sorted by `key` whose key is at most `n`, by halving `[lo, hi)`. -/
def lastAtMost {α : Type} (t : Array α) (key : α → Nat) (n : Nat) : Option α :=
  go 0 t.size none
where
  go (lo hi : Nat) (best : Option α) : Option α :=
    if lo < hi then
      match t[(lo + hi) / 2]? with
      | some x => if key x ≤ n then go ((lo + hi) / 2 + 1) hi (some x) else go lo ((lo + hi) / 2) best
      | none => best
    else best
  termination_by hi - lo
  decreasing_by all_goals omega

/-- Whether a table of sorted, disjoint inclusive ranges covers `n`. -/
def inRanges (t : Array (Nat × Nat)) (n : Nat) : Bool :=
  match lastAtMost t Prod.fst n with
  | some (_, b) => n ≤ b
  | none => false

end Gamebook.Unicode
