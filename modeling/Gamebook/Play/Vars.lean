import Gamebook.Text.Codes
/- The variables of a playthrough: a dictionary from names to integers. A name is text, kept as
   its code points so that lone surrogates stay apart, or bytes, as a snapshot may give it. The
   dictionary holds each name once and keeps names in the order they were first set; a missing
   name reads as 0. Two dictionaries are equal when they hold the same names with the same
   values, in any order. -/
namespace Gamebook

/-- A variable name as a dictionary holds it: text as its code points, or bytes. -/
inductive Name where
  | text (points : List Nat)
  | bytes (data : List UInt8)
  deriving DecidableEq, Repr, Inhabited

namespace Name

/-- The name written by a string. -/
def ofString (s : String) : Name := text (Codes.ofString s)

/-- ASCII white space: tab to carriage return, and the space. -/
def isByteSpace (b : UInt8) : Bool := (9 ≤ b && b ≤ 13) || b == 32

/-- A byte with an ASCII capital lowered. -/
def lowerByte (b : UInt8) : UInt8 := if 65 ≤ b && b ≤ 90 then b + 32 else b

/-- The canonical form of a name: text trimmed of white space and lowercased; bytes trimmed of
ASCII white space, with ASCII capitals lowered. -/
def canonical : Name → Name
  | text cs => text (Codes.canonical cs)
  | bytes bs => bytes (((bs.dropWhile isByteSpace).reverse.dropWhile isByteSpace).reverse.map lowerByte)

end Name

/-- Entries with a name set to a value: an entry under the name keeps its place and takes the
value; a new name comes last. -/
def putEntries : List (Name × Int) → Name → Int → List (Name × Int)
  | [], k, x => [(k, x)]
  | (k', x') :: rest, k, x => if k' = k then (k, x) :: rest else (k', x') :: putEntries rest k x

theorem keys_putEntries (k : Name) (x : Int) :
    ∀ l : List (Name × Int), (putEntries l k x).map Prod.fst =
      if k ∈ l.map Prod.fst then l.map Prod.fst else l.map Prod.fst ++ [k]
  | [] => by simp [putEntries]
  | (k', x') :: rest => by
    by_cases same : k' = k
    · subst same
      simp [putEntries]
    · have ne : k ≠ k' := Ne.symm same
      simp only [putEntries, if_neg same, List.map_cons, keys_putEntries k x rest, List.mem_cons, ne,
        false_or]
      split <;> simp

theorem nodup_putEntries {l : List (Name × Int)} (k : Name) (x : Int)
    (nodup : (l.map Prod.fst).Nodup) : ((putEntries l k x).map Prod.fst).Nodup := by
  rw [keys_putEntries]
  split
  · exact nodup
  · rename_i fresh
    refine List.nodup_append.mpr ⟨nodup, List.nodup_cons.mpr ⟨List.not_mem_nil, List.nodup_nil⟩, ?_⟩
    intro a member b single
    rw [List.mem_singleton] at single
    subst single
    exact fun same => fresh (same ▸ member)

/-- Variables: each name once, in the order the names were first set. -/
structure Vars where
  toList : List (Name × Int)
  nodup : (toList.map Prod.fst).Nodup
  deriving DecidableEq, Repr

namespace Vars

def empty : Vars := ⟨[], List.nodup_nil⟩

instance : Inhabited Vars := ⟨empty⟩

/-- The value under a name, 0 when there is none. -/
def get (v : Vars) (k : Name) : Int := (v.toList.lookup k).getD 0

/-- Set the value under a name: a name held keeps its place, a new one comes last. -/
def put (v : Vars) (k : Name) (x : Int) : Vars := ⟨putEntries v.toList k x, nodup_putEntries k x v.nodup⟩

/-- Remove a name, if it is held. -/
def erase (v : Vars) (k : Name) : Vars :=
  ⟨v.toList.filter (·.1 != k), by
    have sub : ((v.toList.filter (·.1 != k)).map Prod.fst).Sublist (v.toList.map Prod.fst) :=
      (List.filter_sublist).map Prod.fst
    exact sub.nodup v.nodup⟩

/-- Set a variable; 0 removes it. -/
def set (v : Vars) (k : Name) (x : Int) : Vars := if x = 0 then v.erase k else v.put k x

/-- The variables of a list set in turn under the canonical forms of their names; a zero is left
out, and a later name wins. -/
def ofList (l : List (Name × Int)) : Vars :=
  l.foldl (fun acc (k, x) => if x = 0 then acc else acc.put k.canonical x) empty

/-- Two dictionaries are equal, as they compare: the same names with the same values, in any
order. -/
def Same (v w : Vars) : Prop := v.toList.Perm w.toList

instance (v w : Vars) : Decidable (v.Same w) := inferInstanceAs (Decidable (List.Perm _ _))

end Vars

end Gamebook
