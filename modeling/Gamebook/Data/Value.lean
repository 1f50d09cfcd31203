import Gamebook.Number.Double
import Gamebook.Data.Stamp
import Gamebook.Text.Codes
/- Data trees: what a snapshot text reads as, and what a request may pass in its place. A map
   keeps its keys in the order they were first set; setting a key again replaces its value in
   place. Keys compare as data: numbers by value (a truth value counts as 0 or 1), text by text. -/
namespace Gamebook

/-- A data tree. -/
inductive Value where
  | null
  | bool (b : Bool)
  | int (n : Int)
  | float (x : Double)
  | str (s : String)
  | list (items : List Value)
  | map (entries : List (Value × Value))
  | stamp (t : Stamp)
  | set (items : List Value)
  | bytes (data : List UInt8)
  /-- text holding a lone surrogate, which no `String` holds, as its code points -/
  | codes (points : List Nat)
  deriving Inhabited

namespace Value

/-- The kind of a value, as error messages name it. -/
def typeName : Value → String
  | null => "NoneType"
  | bool _ => "bool"
  | int _ => "int"
  | float _ => "float"
  | str _ => "str"
  | list _ => "list"
  | map _ => "dict"
  | stamp t => t.typeName
  | set _ => "set"
  | bytes _ => "bytes"
  | codes _ => "str"

/-- The full name of a value's kind, as attribute errors name it. -/
def className : Value → String
  | stamp t => "datetime." ++ t.typeName
  | v => v.typeName

/-- A number's value as an integer, when it is one: truth values count as 0 and 1. -/
def intValue? : Value → Option Int
  | bool b => some (if b then 1 else 0)
  | int n => some n
  | _ => none

/-- The value of text given as code points: a string when it holds no lone surrogate. -/
def ofCodes (cs : List Nat) : Value := if Codes.isString cs then str (Codes.toString cs) else codes cs

/-- Whether a value counts as true: null, false, zero and empty text or collections do not. -/
def truthy : Value → Bool
  | null => false
  | bool b => b
  | int n => n != 0
  | float x => !x.isZero
  | str s => !s.isEmpty
  | codes cs => !cs.isEmpty
  | list xs => !xs.isEmpty
  | set xs => !xs.isEmpty
  | bytes bs => !bs.isEmpty
  | stamp _ => true
  | map es => !es.isEmpty

/-- The code points of a text value. -/
def codes? : Value → Option (List Nat)
  | str s => some (Codes.ofString s)
  | codes cs => some cs
  | _ => none

/-- Whether two values are the same key of a map. -/
def sameKey : Value → Value → Bool
  | null, null => true
  | str a, str b => a == b
  | stamp a, stamp b => a.same b
  | bytes a, bytes b => a == b
  | codes a, codes b => a == b
  -- a NaN is no key that can be met again by value
  | float x, float y => !x.isNaN && (x == y || (x.isZero && y.isZero))
  | float x, k => match k.intValue? with
    | some n => x.eqInt n
    | none => false
  | k, float y => match k.intValue? with
    | some n => y.eqInt n
    | none => false
  | a, b => match a.intValue?, b.intValue? with
    | some m, some n => m == n
    | _, _ => false

/-- Set a key of a map: an existing key keeps its place and takes the new value. -/
def setKey : List (Value × Value) → Value → Value → List (Value × Value)
  | [], k, v => [(k, v)]
  | (k', v') :: rest, k, v => if sameKey k' k then (k', v) :: rest else (k', v') :: setKey rest k v

/-- The map built by setting each key in turn. -/
def ofEntries (entries : List (Value × Value)) : Value :=
  map (entries.foldl (fun acc (k, v) => setKey acc k v) [])

/-- The value at a text key of a map. -/
def lookup (entries : List (Value × Value)) (key : String) : Option Value :=
  (entries.find? (fun e => sameKey e.1 (str key))).map (·.2)

end Value

/-- Why data cannot be written out as text. -/
inductive WriteError where
  /-- an integer has too many digits to be written in decimal -/
  | numberTooLong
  /-- the data nests deeper than the calls left to the writer reach -/
  | tooDeep
  /-- keys of kinds that do not compare were to be sorted: the kind met later, and the first -/
  | unorderedKeys (later first : String)
  /-- a key of a kind that no key of the written text can be -/
  | badKey (type : String)
  deriving DecidableEq, Repr

/-- The first error of a list, if any. -/
def firstError : List (Option WriteError) → Option WriteError
  | [] => none
  | some e :: _ => some e
  | none :: rest => firstError rest

end Gamebook
