import Mathlib
import Gamebook.Data.Json.Read
/- What JSON text reads as. An object's keys are strings and an integer has at most 4300 digits,
   so every map in a value read from JSON text, at any depth, has text keys, and every integer in
   it keeps within the digit limit; the reader builds objects by setting keys one at a time and
   recurses through three mutually recursive readers on one fuel, so the property is carried by a
   single induction on the fuel, one step lemma per reader. Main statement:
   `Json.decoded_of_read`. -/

namespace Gamebook

namespace Value

/-- Data as JSON text reads: every map, at any depth through maps and lists, has text keys, and
every integer keeps within the digit limit. -/
inductive Decoded : Value → Prop
  | null : Decoded .null
  | bool (b : Bool) : Decoded (.bool b)
  | float (x : Double) : Decoded (.float x)
  | int {n : Int} (fits : Number.fitsDigitLimit n = true) : Decoded (.int n)
  | text {v : Value} (isText : v.codes?.isSome) : Decoded v
  | list {items : List Value} (each : ∀ x ∈ items, Decoded x) : Decoded (.list items)
  | map {entries : List (Value × Value)} (keys : ∀ e ∈ entries, e.1.codes?.isSome)
      (values : ∀ e ∈ entries, Decoded e.2) : Decoded (.map entries)

theorem Decoded.keys {entries : List (Value × Value)} (decoded : (Value.map entries).Decoded) :
    ∀ e ∈ entries, e.1.codes?.isSome := by
  cases decoded with
  | text isText => cases isText
  | map keys _ => exact keys

theorem Decoded.lookup {entries : List (Value × Value)} (decoded : (Value.map entries).Decoded)
    {key : String} {w : Value} (found : Value.lookup entries key = some w) : w.Decoded := by
  cases decoded with
  | text isText => cases isText
  | map _ values =>
    simp only [Value.lookup, Option.map_eq_some_iff] at found
    obtain ⟨e, found, rfl⟩ := found
    exact values e (List.mem_of_find?_eq_some found)

theorem intsFit_of_codes? {v : Value} (isText : v.codes?.isSome) : v.intsFit = true := by
  cases v with
  | str _ | codes _ => rfl
  | _ => simp [codes?] at isText

theorem itemsFit_of_forall {items : List Value} (each : ∀ x ∈ items, x.intsFit = true) :
    itemsFit items = true := by
  induction items with
  | nil => rfl
  | cons x rest ih =>
    simp only [itemsFit, each x List.mem_cons_self, Bool.true_and]
    exact ih fun y member => each y (List.mem_cons_of_mem _ member)

theorem membersFit_of_forall {entries : List (Value × Value)}
    (each : ∀ e ∈ entries, e.1.intsFit = true ∧ e.2.intsFit = true) : membersFit entries = true := by
  induction entries with
  | nil => rfl
  | cons e rest ih =>
    obtain ⟨k, v⟩ := e
    obtain ⟨key, value⟩ := each (k, v) List.mem_cons_self
    simp only [membersFit, key, value, Bool.true_and]
    exact ih fun e member => each e (List.mem_cons_of_mem _ member)

theorem Decoded.intsFit {v : Value} (decoded : v.Decoded) : v.intsFit = true := by
  induction decoded with
  | null | bool | float => rfl
  | int fits => exact fits
  | text isText => exact intsFit_of_codes? isText
  | list _ ih => exact itemsFit_of_forall ih
  | map keys _ ih => exact membersFit_of_forall fun e member => ⟨intsFit_of_codes? (keys e member), ih e member⟩

theorem codes?_ofCodes (cs : List Nat) : (ofCodes cs).codes?.isSome := by
  unfold ofCodes
  split <;> rfl

theorem mem_setKey {acc : List (Value × Value)} {k v : Value} {e : Value × Value}
    (member : e ∈ setKey acc k v) : e ∈ acc ∨ e.2 = v ∧ (e.1 = k ∨ ∃ x, (e.1, x) ∈ acc) := by
  induction acc with
  | nil =>
    simp only [setKey, List.mem_singleton] at member
    subst member
    exact .inr ⟨rfl, .inl rfl⟩
  | cons first rest ih =>
    obtain ⟨k', v'⟩ := first
    unfold setKey at member
    split at member
    · rcases List.mem_cons.1 member with rfl | later
      · exact .inr ⟨rfl, .inr ⟨v', List.mem_cons_self⟩⟩
      · exact .inl (List.mem_cons_of_mem _ later)
    · rcases List.mem_cons.1 member with rfl | later
      · exact .inl List.mem_cons_self
      · rcases ih later with old | ⟨same, key | ⟨x, old⟩⟩
        · exact .inl (List.mem_cons_of_mem _ old)
        · exact .inr ⟨same, .inl key⟩
        · exact .inr ⟨same, .inr ⟨x, List.mem_cons_of_mem _ old⟩⟩

theorem codes?_setKey {acc : List (Value × Value)} {k v : Value}
    (keys : ∀ e ∈ acc, e.1.codes?.isSome) (key : k.codes?.isSome) :
    ∀ e ∈ setKey acc k v, e.1.codes?.isSome := by
  intro e member
  rcases mem_setKey member with old | ⟨-, rfl | ⟨x, old⟩⟩
  · exact keys e old
  · exact key
  · exact keys (e.1, x) old

theorem decoded_setKey {acc : List (Value × Value)} {k v : Value}
    (values : ∀ e ∈ acc, e.2.Decoded) (value : v.Decoded) :
    ∀ e ∈ setKey acc k v, e.2.Decoded := by
  intro e member
  rcases mem_setKey member with old | ⟨same, -⟩
  · exact values e old
  · exact same ▸ value

end Value

namespace Json

theorem digit_of_lt_skipDigits {s : Array Char} {i : Nat} :
    ∀ k, i ≤ k → k < skipDigits s i → ∃ d, s[k]? = some d ∧ isDigit d = true := by
  fun_induction skipDigits s i with
  | case1 i inside digit ih =>
    intro k low high
    by_cases here : k = i
    · subst here
      exact ⟨_, Array.getElem?_eq_getElem inside, digit⟩
    · exact ih k (by omega) high
  | case2 i _ _ => intro k low high; omega
  | case3 i _ => intro k low high; omega

theorem mem_slice {s : Array Char} {i j : Nat} {d : Char} (member : d ∈ slice s i j) :
    ∃ k, i ≤ k ∧ k < j ∧ s[k]? = some d := by
  obtain ⟨n, bound, rfl⟩ := List.getElem_of_mem member
  simp only [slice, List.length_take, List.length_drop, Array.length_toList] at bound
  refine ⟨i + n, by omega, by omega, ?_⟩
  simp [slice, List.getElem_take, List.getElem_drop, Array.getElem?_eq_getElem (by omega : i + n < s.size)]

theorem digitsValue_lt {ds : List Char} (digits : ∀ d ∈ ds, isDigit d = true) :
    digitsValue ds < 10 ^ ds.length := by
  -- the fold from any start: each digit adds less than the next power of ten
  suffices ∀ acc, ds.foldl (fun n d => n * 10 + (d.toNat - '0'.toNat)) acc < (acc + 1) * 10 ^ ds.length by
    simpa [digitsValue] using this 0
  induction ds with
  | nil => intro acc; simp
  | cons d rest ih =>
    intro acc
    have small : d.toNat - '0'.toNat < 10 := by
      have := digits d List.mem_cons_self
      simp only [isDigit, Bool.and_eq_true, decide_eq_true_eq, Char.le_def,
        UInt32.le_iff_toNat_le] at this
      have zero : ('0' : Char).val.toNat = 48 := rfl
      have nine : ('9' : Char).val.toNat = 57 := rfl
      simp only [Char.toNat]
      omega
    have later := ih (fun d' member => digits d' (List.mem_cons_of_mem _ member)) (acc * 10 + (d.toNat - '0'.toNat))
    rw [List.foldl_cons, List.length_cons, Nat.pow_succ]
    calc _ < (acc * 10 + (d.toNat - '0'.toNat) + 1) * 10 ^ rest.length := later
      _ ≤ (acc + 1) * (10 ^ rest.length * 10) := by
        rw [Nat.mul_comm (10 ^ rest.length) 10, ← Nat.mul_assoc]
        exact Nat.mul_le_mul_right _ (by omega)

theorem digits_of_intPart {s : Array Char} {i : Nat} {c : Char} (first : s[i]? = some c)
    (digit : (c == '0') = true ∨ isDigit c = true) :
    ∀ d ∈ slice s i (if (c == '0') = true then i + 1 else skipDigits s (i + 1)), isDigit d = true := by
  have isDigit_c : isDigit c = true := by
    rcases digit with zero | digit
    · rw [beq_iff_eq] at zero
      subst zero
      rfl
    · exact digit
  intro d member
  obtain ⟨k, low, high, at_k⟩ := mem_slice member
  by_cases here : k = i
  · subst here
    rw [first] at at_k
    cases at_k
    exact isDigit_c
  · split at high
    · omega
    · obtain ⟨d', at_k', digit'⟩ := digit_of_lt_skipDigits k (by omega) high
      rw [at_k] at at_k'
      cases at_k'
      exact digit'

theorem readNumber_decoded {s : Array Char} {i : Nat} {v : Value} {j : Nat}
    (h : readNumber s i = .ok (v, j)) : v.Decoded := by
  unfold readNumber at h
  dsimp only at h
  generalize (if (s[i]? == some '-') = true then i + 1 else i) = k at h
  split at h
  · cases h
  · next c first =>
    -- the branches are split by rewriting: `split` would first simplify the large conditions
    rw [ite_eq_iff] at h
    rcases h with ⟨digit, h⟩ | ⟨-, h⟩
    · rw [ite_eq_iff] at h
      rcases h with ⟨-, h⟩ | ⟨-, h⟩
      · obtain ⟨rfl, -⟩ := Prod.mk.inj (Except.ok.inj h).symm
        exact .float _
      · rw [ite_eq_iff] at h
        rcases h with ⟨-, h⟩ | ⟨short, h⟩
        · cases h
        · obtain ⟨rfl, -⟩ := Prod.mk.inj (Except.ok.inj h).symm
          refine .int ?_
          have bound := digitsValue_lt (digits_of_intPart first digit)
          have within : 10 ^ (slice s _ _).length ≤ 10 ^ Number.decimalDigitLimit :=
            Nat.pow_le_pow_right (by decide) (Nat.le_of_not_lt short)
          simp only [Number.fitsDigitLimit, decide_eq_true_eq, Nat.pow_eq]
          split <;> simp only [Int.natAbs_neg, Int.natAbs_natCast] <;> omega
    · cases h

section Steps

variable {s : Array Char} {room fuel : Nat}

theorem readValue_step
    (members : ∀ i room v j, readMembers s i room [] fuel = .ok (v, j) → v.Decoded)
    (items : ∀ i room v j, readItems s i room [] fuel = .ok (v, j) → v.Decoded)
    {i : Nat} {v : Value} {j : Nat} (read : readValue s i room (fuel + 1) = .ok (v, j)) :
    v.Decoded := by
  unfold readValue at read
  dsimp only at read
  split at read
  · cases read
  · cases reading : readString s i (i + 1) [] with
    | error e => simp [reading, Except.map] at read
    | ok r =>
      simp only [reading, Except.map, Except.ok.injEq, Prod.mk.injEq] at read
      rw [← read.1]
      exact .text (Value.codes?_ofCodes _)
  · split at read
    · cases read
    · split at read
      · cases read
        exact .map (by simp) (by simp)
      · exact members _ _ _ _ read
  · split at read
    · cases read
    · split at read
      · cases read
        exact .list (by simp)
      · exact items _ _ _ _ read
  · -- a literal, or else a number
    split_ifs at read
    all_goals first
      | (cases read; first | exact .null | exact .bool _ | exact .float _)
      | exact readNumber_decoded read

theorem readMembers_step
    (value : ∀ i room v j, readValue s i room fuel = .ok (v, j) → v.Decoded)
    (members : ∀ i room acc v j, (∀ e ∈ acc, e.1.codes?.isSome) → (∀ e ∈ acc, e.2.Decoded) →
      readMembers s i room acc fuel = .ok (v, j) → v.Decoded)
    {i : Nat} {acc : List (Value × Value)} {v : Value} {j : Nat}
    (keys : ∀ e ∈ acc, e.1.codes?.isSome) (values : ∀ e ∈ acc, e.2.Decoded)
    (read : readMembers s i room acc (fuel + 1) = .ok (v, j)) : v.Decoded := by
  unfold readMembers at read
  dsimp only at read
  split at read
  · cases read
  · split at read
    · cases read
    · next key _ _ =>
      split at read
      · cases read
      · split at read
        · cases read
        · next member k reading =>
          have keys' := Value.codes?_setKey (v := member) keys (Value.codes?_ofCodes key)
          have values' := Value.decoded_setKey (k := Value.ofCodes key) values
            (value _ _ _ _ reading)
          split at read
          · cases read
            exact .map keys' values'
          · split at read
            · cases read
            · exact members _ _ _ _ _ keys' values' read

theorem readItems_step
    (value : ∀ i room v j, readValue s i room fuel = .ok (v, j) → v.Decoded)
    (items : ∀ i room acc v j, (∀ x ∈ acc, x.Decoded) →
      readItems s i room acc fuel = .ok (v, j) → v.Decoded)
    {i : Nat} {acc : List Value} {v : Value} {j : Nat} (values : ∀ x ∈ acc, x.Decoded)
    (read : readItems s i room acc (fuel + 1) = .ok (v, j)) : v.Decoded := by
  unfold readItems at read
  dsimp only at read
  split at read
  · cases read
  · next item k reading =>
    have values' : ∀ x ∈ item :: acc, x.Decoded := by
      simpa using ⟨value _ _ _ _ reading, values⟩
    split at read
    · cases read
      exact .list fun x member => values' x (List.mem_reverse.1 member)
    · split at read
      · cases read
      · exact items _ _ _ _ _ values' read

end Steps

theorem decoded_of_reads : ∀ fuel : Nat,
    (∀ s i room v j, readValue s i room fuel = .ok (v, j) → v.Decoded) ∧
    (∀ s i room acc v j, (∀ e ∈ acc, e.1.codes?.isSome) → (∀ e ∈ acc, e.2.Decoded) →
      readMembers s i room acc fuel = .ok (v, j) → v.Decoded) ∧
    (∀ s i room acc v j, (∀ x ∈ acc, x.Decoded) →
      readItems s i room acc fuel = .ok (v, j) → v.Decoded)
  | 0 => ⟨by simp [readValue], by simp [readMembers], by simp [readItems]⟩
  | fuel + 1 =>
    have ⟨value, members, items⟩ := decoded_of_reads fuel
    ⟨fun s _ _ _ _ read => readValue_step (fun _ _ _ _ => members s _ _ [] _ _ (by simp) (by simp))
        (fun _ _ _ _ => items s _ _ [] _ _ (by simp)) read,
      fun s _ _ _ _ _ keys values read => readMembers_step (value s) (members s) keys values read,
      fun s _ _ _ _ _ values read => readItems_step (value s) (items s) values read⟩

theorem decoded_of_read {room : Nat} {text : String} {v : Value}
    (read : Json.read room text = .ok v) : v.Decoded := by
  unfold Json.read at read
  dsimp only at read
  split at read
  · cases read
  · split at read
    · cases read
    · next reading =>
      split at read
      · cases read
        exact (decoded_of_reads _).1 _ _ _ _ _ reading
      · cases read

end Json

end Gamebook
