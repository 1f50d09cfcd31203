import Gamebook.Data.Value
import Gamebook.Number.Layout
import Gamebook.Number.Read
/- Writing a data tree as JSON text: items and members apart by `, `, a key from its value by
   `: `, numbers in their shortest form. Text escapes the quote, the backslash and the control
   characters; in ASCII form it also escapes every character outside space to tilde, by UTF-16
   units in lowercase hexadecimal, and a lone surrogate is always escaped. Sorted keys are in
   order of their code points. -/
namespace Gamebook.Json

/-- Choices of the written form. -/
structure Style where
  ascii : Bool
  sortKeys : Bool

/-- Four lowercase hexadecimal digits. -/
def hex4 (n : Nat) : String :=
  let ds := Nat.toDigits 16 n
  String.ofList (List.replicate (4 - ds.length) '0' ++ ds)

/-- The escape of one character. -/
def escapeChar (ascii : Bool) (c : Char) : String :=
  match c with
  | '"' => "\\\""
  | '\\' => "\\\\"
  | '\n' => "\\n"
  | '\r' => "\\r"
  | '\t' => "\\t"
  | '\x08' => "\\b"
  | '\x0c' => "\\f"
  | c =>
    if c.toNat < 0x20 then "\\u" ++ hex4 c.toNat
    else if ascii ∧ c.toNat > 0x7E then
      if c.toNat ≥ 0x10000 then
        let v := c.toNat - 0x10000
        "\\u" ++ hex4 (0xD800 + v / 0x400) ++ "\\u" ++ hex4 (0xDC00 + v % 0x400)
      else "\\u" ++ hex4 c.toNat
    else c.toString

/-- A quoted JSON string. -/
def quote (ascii : Bool) (s : String) : String :=
  "\"" ++ String.join (s.toList.map (escapeChar ascii)) ++ "\""

/-- The escape of one code point: a lone surrogate is written as its `\u` escape, any other
code point as its character. -/
def escapeCode (ascii : Bool) (n : Nat) : String :=
  if Codes.isSurrogate n then "\\u" ++ hex4 n else escapeChar ascii (Char.ofNat n)

/-- A quoted JSON string of text given as code points. -/
def quoteCodes (ascii : Bool) (cs : List Nat) : String :=
  "\"" ++ String.join (cs.map (escapeCode ascii)) ++ "\""

/-- Whether one key comes before another or is the same, comparing their code points in turn; a
key comes after its prefixes. -/
def keyLe : List Nat → List Nat → Bool
  | [], _ => true
  | _ :: _, [] => false
  | a :: as, b :: bs => a < b || (a == b && keyLe as bs)

/-- The code points a key is written with. -/
def keyCodes : Value → List Nat
  | .str s => Codes.ofString s
  | .codes cs => cs
  | .int n => Codes.ofString (toString n)
  | .bool b => Codes.ofString (if b then "true" else "false")
  | .null => Codes.ofString "null"
  | .float x => Codes.ofString (x.shortText .json)
  | _ => []

mutual

/-- The JSON text of a value. -/
def render (o : Style) : Value → String
  | .null => "null"
  | .bool b => if b then "true" else "false"
  | .int n => toString n
  | .float x => x.shortText .json
  | .str s => quote o.ascii s
  | .codes cs => quoteCodes o.ascii cs
  | .list items => "[" ++ ", ".intercalate (renderItems o items) ++ "]"
  | .map entries =>
    let members := renderMembers o entries
    let members := if o.sortKeys then members.mergeSort (fun a b => keyLe a.1 b.1) else members
    "\x7b" ++ ", ".intercalate (members.map fun (k, v) => quoteCodes o.ascii k ++ ": " ++ v) ++ "\x7d"
  | .stamp _ | .set _ | .bytes _ => "null"

/-- The JSON texts of the items of an array. -/
def renderItems (o : Style) : List Value → List String
  | [] => []
  | v :: vs => render o v :: renderItems o vs

/-- The key code points and JSON texts of the members of an object. -/
def renderMembers (o : Style) : List (Value × Value) → List (List Nat × String)
  | [] => []
  | (k, v) :: rest => (keyCodes k, render o v) :: renderMembers o rest

end

/-- The kinds of keys that compare with each other when keys are sorted: text with text, bytes
with bytes, numbers and truth values with each other. -/
def sortKind (k : Value) : String :=
  match k with
  | .str _ | .codes _ => "str"
  | .int _ | .bool _ | .float _ => "number"
  | _ => k.typeName

/-- Whether a value may be a key of an object: text, a number, a truth value or null. -/
def isKey : Value → Bool
  | .str _ | .codes _ | .int _ | .bool _ | .float _ | .null => true
  | _ => false

/-- Why the keys of an object, in the order it holds them, cannot be written sorted. Sorting
compares each key with keys before it, so the first key of another kind than the first key is
compared with a key of that kind and refused; keys of one kind are sorted, and then the first one
written must be a key. -/
def keysError? : List Value → Option WriteError
  | [] => none
  | k :: rest =>
    match rest.find? (fun k' => sortKind k' != sortKind k) with
    | some k' => some (.unorderedKeys k'.typeName k.typeName)
    | none => if isKey k then none else some (.badKey k.typeName)

mutual

/-- The first reason, in the order of writing with sorted keys, that a value cannot be written:
an integer too long for decimal, arrays and objects nested deeper than `room` (the writer entering
each one by a call of its own), or keys that cannot be sorted or written. -/
def writeError? (room : Nat) : Value → Option WriteError
  | .int n => if Number.fitsDigitLimit n then none else some .numberTooLong
  | .list items =>
    match room with
    | 0 => some .tooDeep
    | room + 1 => firstError (itemErrors room items)
  | .map entries =>
    match room with
    | 0 => some .tooDeep
    | room + 1 =>
      match keysError? (entries.map (·.1)) with
      | some e => some e
      | none => firstError (((memberErrors room entries).mergeSort fun a b => keyLe a.1 b.1).map (·.2))
  | _ => none

/-- The write errors of the items of an array. -/
def itemErrors (room : Nat) : List Value → List (Option WriteError)
  | [] => []
  | v :: vs => writeError? room v :: itemErrors room vs

/-- The key code points and write errors of the members of an object. -/
def memberErrors (room : Nat) : List (Value × Value) → List (List Nat × Option WriteError)
  | [] => []
  | (k, v) :: rest => (keyCodes k, writeError? room v) :: memberErrors room rest

end

end Gamebook.Json
