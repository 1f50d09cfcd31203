import Mathlib
import Gamebook.Data.Json.Read
import Gamebook.Data.Json.Write
import Gamebook.Proofs.CanonicalName
/- What the JSON reader makes of the text the writer writes for text and integers. Positions are
   reasoned about through `remaining s i`, the characters from position `i` on, and each step of
   the reader is a lemma that takes characters off the front. Text is read back code point by
   code point, escapes included, a code point past the basic plane through its surrogate pair and a
   lone surrogate through its own escape; a high surrogate right before a low one is the one thing
   that does not come back, as the two escapes read as one pair. An integer within the digit limit
   is read back when a comma or a closing brace follows it. Main statements:
   `Json.readString_quotedCodes`, `Json.readValue_codes`, `Json.readValue_int`. -/

namespace Gamebook.Json

/-- The characters of `s` from position `i` on. -/
def remaining (s : Array Char) (i : Nat) : List Char := s.toList.drop i

theorem getElem?_of_remaining {s : Array Char} {i : Nat} {l : List Char} (h : remaining s i = l)
    (k : Nat) : s[i + k]? = l[k]? := by
  rw [← h, remaining, List.getElem?_drop, Array.getElem?_toList]

theorem remaining_cons {s : Array Char} {i : Nat} {c : Char} {t : List Char}
    (h : remaining s i = c :: t) : s[i]? = some c ∧ remaining s (i + 1) = t := by
  refine ⟨by simpa using getElem?_of_remaining h 0, ?_⟩
  have rest : s.toList.drop i = c :: t := h
  rw [remaining, ← List.drop_drop, rest]
  rfl

theorem remaining_append {s : Array Char} {i : Nat} {l t : List Char}
    (h : remaining s i = l ++ t) : remaining s (i + l.length) = t := by
  have rest : s.toList.drop i = l ++ t := h
  rw [remaining, ← List.drop_drop, rest, List.drop_left]

theorem lt_size_of_remaining {s : Array Char} {i : Nat} {c : Char} {t : List Char}
    (h : remaining s i = c :: t) : i < s.size := by
  have := congrArg List.length h
  simp only [remaining, List.length_drop, Array.length_toList, List.length_cons] at this
  omega

theorem remaining_nil {s : Array Char} {i : Nat} (h : remaining s i = []) : ¬ i < s.size := by
  have := congrArg List.length h
  simp only [remaining, List.length_drop, Array.length_toList, List.length_nil] at this
  omega

theorem getElem_of_remaining {s : Array Char} {i : Nat} {c : Char} {t : List Char}
    (h : remaining s i = c :: t) (size : i < s.size) : s[i] = c := by
  have found := (remaining_cons h).1
  rwa [Array.getElem?_eq_getElem size, Option.some.injEq] at found

theorem getElem!_of_remaining {s : Array Char} {i : Nat} {c : Char} {t : List Char}
    (h : remaining s i = c :: t) : s[i]! = c := by
  rw [getElem!_pos s i (lt_size_of_remaining h), getElem_of_remaining h]

theorem remaining_of_lt {s : Array Char} {i : Nat} (size : i < s.size) :
    remaining s i = s[i]! :: remaining s (i + 1) := by
  rw [remaining, List.drop_eq_getElem_cons (by simpa using size), getElem!_pos s i size]
  simp [remaining]

theorem skipBlank_of_not_blank {s : Array Char} {i : Nat} {c : Char} {t : List Char}
    (h : remaining s i = c :: t) (solid : isBlank c = false) : skipBlank s i = i := by
  have size := lt_size_of_remaining h
  rw [skipBlank, dif_pos size, getElem_of_remaining h size, solid]
  rfl

theorem skipBlank_end {s : Array Char} {i : Nat} (h : remaining s i = []) : skipBlank s i = i := by
  rw [skipBlank, dif_neg (remaining_nil h)]

theorem skipBlank_space {s : Array Char} {i : Nat} {c : Char} {t : List Char}
    (h : remaining s i = ' ' :: c :: t) (solid : isBlank c = false) : skipBlank s i = i + 1 := by
  have size := lt_size_of_remaining h
  rw [skipBlank, dif_pos size, getElem_of_remaining h size]
  exact skipBlank_of_not_blank (remaining_cons h).2 solid

theorem hex4_toList {n : Nat} (small : n < 0x10000) :
    (hex4 n).toList = [(n / 4096).digitChar, (n / 256 % 16).digitChar, (n / 16 % 16).digitChar,
      (n % 16).digitChar] := by
  rw [hex4, String.toList_ofList]
  have zero : (0 : Nat).digitChar = '0' := rfl
  -- the digits are taken off from the last one, as many times as the number has digits
  have last := Nat.toDigits_of_base_le (b := 16) (n := n) (by omega)
  have second := Nat.toDigits_of_base_le (b := 16) (n := n / 16) (by omega)
  have third := Nat.toDigits_of_base_le (b := 16) (n := n / 16 / 16) (by omega)
  by_cases d1 : n < 16
  · rw [Nat.toDigits_of_lt_base d1]
    have : n / 4096 = 0 ∧ n / 256 % 16 = 0 ∧ n / 16 % 16 = 0 ∧ n % 16 = n := by omega
    simp [this, zero]
  by_cases d2 : n < 256
  · rw [last (by omega), Nat.toDigits_of_lt_base (by omega : n / 16 < 16)]
    have : n / 4096 = 0 ∧ n / 256 % 16 = 0 ∧ n / 16 % 16 = n / 16 := by omega
    simp [this, zero]
  by_cases d3 : n < 4096
  · rw [last (by omega), second (by omega), Nat.toDigits_of_lt_base (by omega : n / 16 / 16 < 16)]
    have : n / 4096 = 0 ∧ n / 256 % 16 = n / 16 / 16 ∧ n / 16 % 16 = n / 16 % 16 := by omega
    simp [this, zero]
  · rw [last (by omega), second (by omega), third (by omega),
      Nat.toDigits_of_lt_base (by omega : n / 16 / 16 / 16 < 16)]
    have : n / 4096 = n / 16 / 16 / 16 ∧ n / 256 % 16 = n / 16 / 16 % 16 := by omega
    simp [this]

theorem length_hex4 {n : Nat} (small : n < 0x10000) : (hex4 n).length = 4 := by
  rw [← String.length_toList, hex4_toList small]
  rfl

theorem hexValue_digitChar : ∀ d, d < 16 → hexValue? (Nat.digitChar d) = some d := by decide

theorem hex4?_of_remaining {s : Array Char} {i n : Nat} {t : List Char} (small : n < 0x10000)
    (h : remaining s i = (hex4 n).toList ++ t) : hex4? s i = some n := by
  rw [hex4_toList small] at h
  have g := getElem?_of_remaining h
  have g0 : s[i]? = some (n / 4096).digitChar := by simpa using g 0
  have g1 : s[i + 1]? = some (n / 256 % 16).digitChar := by simpa using g 1
  have g2 : s[i + 2]? = some (n / 16 % 16).digitChar := by simpa using g 2
  have g3 : s[i + 3]? = some (n % 16).digitChar := by simpa using g 3
  simp only [hex4?, g0, g1, g2, g3, Option.bind_eq_bind, Option.bind_some,
    hexValue_digitChar _ (by omega : n / 4096 < 16),
    hexValue_digitChar _ (by omega : n / 256 % 16 < 16),
    hexValue_digitChar _ (by omega : n / 16 % 16 < 16),
    hexValue_digitChar _ (by omega : n % 16 < 16)]
  show some _ = some n
  rw [Option.some.injEq]
  omega

theorem readString_quote {s : Array Char} {start i : Nat} {acc : List Nat} {t : List Char}
    (h : remaining s i = '"' :: t) : readString s start i acc = .ok (acc.reverse, i + 1) := by
  have size := lt_size_of_remaining h
  rw [readString, dif_pos size]
  simp [getElem_of_remaining h size]

theorem readString_plain {s : Array Char} {start i : Nat} {acc : List Nat} {c : Char}
    {t : List Char} (h : remaining s i = c :: t) (notQuote : c ≠ '"') (notBackslash : c ≠ '\\')
    (printable : 0x1F < c.toNat) :
    readString s start i acc = readString s start (i + 1) (c.toNat :: acc) := by
  have size := lt_size_of_remaining h
  rw [readString, dif_pos size]
  simp [getElem_of_remaining h size, notQuote, notBackslash, Nat.not_le.2 printable]

theorem readString_simple {s : Array Char} {start i : Nat} {acc : List Nat} {e : Char}
    {t : List Char} {d : Nat} (h : remaining s i = '\\' :: e :: t) (notU : e ≠ 'u')
    (simple : simpleEscape? e = some d) :
    readString s start i acc = readString s start (i + 2) (d :: acc) := by
  have size := lt_size_of_remaining h
  have next := (remaining_cons h).2
  have more : i + 1 ≠ s.size := Nat.ne_of_lt (lt_size_of_remaining next)
  rw [readString, dif_pos size]
  simp [getElem_of_remaining h size, more, getElem!_of_remaining next, notU, simple]

/-- Text that does not open with the `\u` escape of a low surrogate, so that a high surrogate
escaped right before it stays alone. -/
def OpensNoLow (l : List Char) : Prop :=
  ∀ t, l = '\\' :: 'u' :: t →
    ∃ k more, t = (hex4 k).toList ++ more ∧ k < 0x10000 ∧ ¬(0xDC00 ≤ k ∧ k ≤ 0xDFFF)

theorem readString_unicode {s : Array Char} {start i : Nat} {acc : List Nat} {t : List Char}
    {n : Nat} (h : remaining s i = '\\' :: 'u' :: t) (room : 4 < t.length)
    (hex : hex4? s (i + 2) = some n)
    (alone : (0xD800 ≤ n ∧ n ≤ 0xDBFF) → OpensNoLow (remaining s (i + 6))) :
    readString s start i acc = readString s start (i + 6) (n :: acc) := by
  have size := lt_size_of_remaining h
  have next := (remaining_cons h).2
  have long := congrArg List.length h
  simp only [remaining, List.length_drop, Array.length_toList, List.length_cons] at long
  have more : i + 1 ≠ s.size := by omega
  have inside : ¬(i + 6 ≥ s.size) := by omega
  rw [readString, dif_pos size]
  have notQuote : ('\\' == '"') = false := by decide
  simp only [getElem_of_remaining h size, notQuote, beq_self_eq_true, more, inside,
    getElem!_of_remaining next, hex, Bool.false_eq_true, ↓reduceIte]
  by_cases paired : 0xD800 ≤ n ∧ n ≤ 0xDBFF ∧ i + 12 < s.size ∧ (s[i + 6]! == '\\') = true ∧
      (s[i + 7]! == 'u') = true
  · -- the text after the escape opens with a `\u` escape, which is of no low surrogate
    obtain ⟨high, low, far, backslash, letter⟩ := paired
    have after : remaining s (i + 6) = '\\' :: 'u' :: remaining s (i + 8) := by
      rw [remaining_of_lt (by omega), remaining_of_lt (by omega), eq_of_beq backslash,
        eq_of_beq letter]
    obtain ⟨k, rest, digits, small, notLow⟩ := alone ⟨high, low⟩ _ after
    rw [if_pos ⟨high, low, far, backslash, letter⟩, hex4?_of_remaining small digits]
    exact if_neg notLow
  · rw [if_neg paired]

theorem readString_pair {s : Array Char} {start i : Nat} {acc : List Nat} {t t' : List Char}
    {hi lo : Nat} (h : remaining s i = '\\' :: 'u' :: t) (hexHi : hex4? s (i + 2) = some hi)
    (high : 0xD800 ≤ hi ∧ hi ≤ 0xDBFF) (second : remaining s (i + 6) = '\\' :: 'u' :: t')
    (room : 4 < t'.length) (hexLo : hex4? s (i + 8) = some lo)
    (low : 0xDC00 ≤ lo ∧ lo ≤ 0xDFFF) :
    readString s start i acc =
      readString s start (i + 12) ((0x10000 + (hi - 0xD800) * 0x400 + (lo - 0xDC00)) :: acc) := by
  have size := lt_size_of_remaining h
  have next := (remaining_cons h).2
  have long := congrArg List.length second
  simp only [remaining, List.length_drop, Array.length_toList, List.length_cons] at long
  have more : i + 1 ≠ s.size := by omega
  have inside : ¬(i + 6 ≥ s.size) := by omega
  have at6 : s[i + 6]! = '\\' := getElem!_of_remaining second
  have at7 : s[i + 7]! = 'u' := getElem!_of_remaining (remaining_cons second).2
  have paired : 0xD800 ≤ hi ∧ hi ≤ 0xDBFF ∧ i + 12 < s.size ∧
      (s[i + 6]! == '\\') = true ∧ (s[i + 7]! == 'u') = true :=
    ⟨high.1, high.2, by omega, by rw [at6]; rfl, by rw [at7]; rfl⟩
  have notQuote : ('\\' == '"') = false := by decide
  rw [readString, dif_pos size]
  simp only [getElem_of_remaining h size, notQuote, beq_self_eq_true, more, inside,
    getElem!_of_remaining next, hexHi, Bool.false_eq_true, ↓reduceIte]
  rw [if_pos paired, hexLo]
  exact if_pos low

theorem toList_unicodeEscape (n : Nat) (rest : List Char) :
    ("\\u" ++ hex4 n).toList ++ rest = '\\' :: 'u' :: ((hex4 n).toList ++ rest) := by
  simp only [String.toList_append]
  rfl

theorem readString_unicodeEscape {s : Array Char} {start i : Nat} {acc : List Nat} {n : Nat}
    {rest : List Char} (small : n < 0x10000) (notHigh : ¬(0xD800 ≤ n ∧ n ≤ 0xDBFF))
    (h : remaining s i = ("\\u" ++ hex4 n).toList ++ rest) (more : rest ≠ []) :
    readString s start i acc = readString s start (i + 6) (n :: acc) := by
  rw [toList_unicodeEscape] at h
  have digits := (remaining_cons (remaining_cons h).2).2
  have room : 4 < ((hex4 n).toList ++ rest).length := by
    have : rest.length ≠ 0 := by simpa using more
    simp [String.length_toList, length_hex4 small]
    omega
  exact readString_unicode h room (hex4?_of_remaining small digits) fun high => absurd high notHigh

theorem readString_pairEscape {s : Array Char} {start i : Nat} {acc : List Nat} {n : Nat}
    {rest : List Char} (astral : 0x10000 ≤ n) (bound : n < 0x110000)
    (h : remaining s i = ("\\u" ++ hex4 (0xD800 + (n - 0x10000) / 0x400) ++ "\\u" ++
      hex4 (0xDC00 + (n - 0x10000) % 0x400)).toList ++ rest) (more : rest ≠ []) :
    readString s start i acc = readString s start (i + 12) (n :: acc) := by
  generalize hiEq : 0xD800 + (n - 0x10000) / 0x400 = hi at h
  generalize loEq : 0xDC00 + (n - 0x10000) % 0x400 = lo at h
  have hiSmall : hi < 0x10000 := by omega
  have loSmall : lo < 0x10000 := by omega
  have split :
      remaining s i = ("\\u" ++ hex4 hi).toList ++ (("\\u" ++ hex4 lo).toList ++ rest) := by
    rw [h]
    simp only [String.toList_append, List.append_assoc]
  have second := remaining_append split
  rw [String.length_toList, String.length_append, length_hex4 hiSmall,
    toList_unicodeEscape] at second
  rw [toList_unicodeEscape] at split
  have room : 4 < ((hex4 lo).toList ++ rest).length := by
    have : rest.length ≠ 0 := by simpa using more
    simp [String.length_toList, length_hex4 loSmall]
    omega
  have code : 0x10000 + (hi - 0xD800) * 0x400 + (lo - 0xDC00) = n := by omega
  rw [readString_pair split (hex4?_of_remaining hiSmall (remaining_cons (remaining_cons split).2).2)
    (by omega) second room (hex4?_of_remaining loSmall (remaining_cons (remaining_cons second).2).2)
    (by omega), code]

theorem toNat_valid (c : Char) :
    c.toNat < 0xD800 ∨ (0xDFFF < c.toNat ∧ c.toNat < 0x110000) := by
  have h := c.valid
  simp only [UInt32.isValidChar, Nat.isValidChar] at h
  exact h

theorem readString_escapeChar {s : Array Char} {start i : Nat} {acc : List Nat} {c : Char}
    {rest : List Char} (h : remaining s i = (escapeChar true c).toList ++ rest)
    (more : rest ≠ []) :
    readString s start i acc =
      readString s start (i + (escapeChar true c).length) (c.toNat :: acc) := by
  have valid := toNat_valid c
  revert h
  unfold escapeChar
  split
  case h_1 | h_2 | h_3 | h_4 | h_5 | h_6 | h_7 =>
    intro h
    exact readString_simple h (by decide) rfl
  case h_8 _ notQuote notBackslash _ _ _ _ _ =>
    intro h
    by_cases control : c.toNat < 0x20
    · rw [if_pos control] at h ⊢
      rw [readString_unicodeEscape (by omega) (by omega) h more, String.length_append,
        length_hex4 (by omega)]
      rfl
    rw [if_neg control] at h ⊢
    by_cases wide : true = true ∧ c.toNat > 0x7E
    · rw [if_pos wide] at h ⊢
      by_cases astral : c.toNat ≥ 0x10000
      · rw [if_pos astral] at h ⊢
        rw [readString_pairEscape astral (by omega) h more]
        simp only [String.length_append,
          length_hex4 (show 0xD800 + (c.toNat - 0x10000) / 0x400 < 0x10000 by omega),
          length_hex4 (show 0xDC00 + (c.toNat - 0x10000) % 0x400 < 0x10000 by omega)]
        rfl
      · rw [if_neg astral] at h ⊢
        rw [readString_unicodeEscape (by omega) (by omega) h more, String.length_append,
          length_hex4 (by omega)]
        rfl
    · rw [if_neg wide] at h ⊢
      have h' : remaining s i = c :: rest := by simpa using h
      rw [readString_plain h' notQuote notBackslash (by omega)]
      simp

/-- Code points that JSON text writes and reads back as they are: each below 0x110000, and no
high surrogate right before a low one, which reading would join into one code point. -/
structure PlainText (cs : List Nat) : Prop where
  scalar : ∀ n ∈ cs, n < 0x110000
  unpaired : Codes.holdsPair cs = false

theorem PlainText.tail {n : Nat} {cs : List Nat} (plain : PlainText (n :: cs)) : PlainText cs := by
  refine ⟨fun m member => plain.scalar m (List.mem_cons_of_mem _ member), ?_⟩
  have unpaired := plain.unpaired
  cases cs with
  | nil => rfl
  | cons m rest =>
    simp only [Codes.holdsPair, Bool.or_eq_false_iff] at unpaired
    exact unpaired.2

theorem PlainText.next_not_low {n m : Nat} {cs : List Nat} (plain : PlainText (n :: m :: cs))
    (high : 0xD800 ≤ n ∧ n ≤ 0xDBFF) : ¬(0xDC00 ≤ m ∧ m ≤ 0xDFFF) := by
  have unpaired := plain.unpaired
  simp only [Codes.holdsPair, Bool.or_eq_false_iff, Bool.and_eq_false_iff, Codes.isHighSurrogate,
    Codes.isLowSurrogate, Bool.and_eq_false_iff, decide_eq_false_iff_not] at unpaired
  omega

theorem holdsPair_of_free : ∀ {cs : List Nat}, (∀ n ∈ cs, Codes.isSurrogate n = false) →
    Codes.holdsPair cs = false
  | [], _ => rfl
  | [_], _ => rfl
  | n :: m :: rest, free => by
    have first := free n List.mem_cons_self
    simp only [Codes.isSurrogate, Bool.and_eq_false_iff, decide_eq_false_iff_not] at first
    rw [Codes.holdsPair, holdsPair_of_free fun k member => free k (List.mem_cons_of_mem _ member)]
    simp only [Codes.isHighSurrogate, Bool.or_false, Bool.and_eq_false_iff, decide_eq_false_iff_not]
    omega

theorem plainText_ofString (str : String) : PlainText (Codes.ofString str) := by
  refine ⟨fun n member => ?_, holdsPair_of_free fun n member => ?_⟩
  · obtain ⟨c, -, rfl⟩ := List.mem_map.1 member
    rcases toNat_valid c with low | ⟨-, high⟩ <;> omega
  · obtain ⟨c, -, rfl⟩ := List.mem_map.1 member
    exact Codes.isSurrogate_toNat c

theorem opensNoLow_quote (rest : List Char) : OpensNoLow ('"' :: rest) := by
  intro t same
  cases same

theorem toList_pairEscape (hi lo : Nat) (rest : List Char) :
    ("\\u" ++ hex4 hi ++ "\\u" ++ hex4 lo).toList ++ rest =
      '\\' :: 'u' :: ((hex4 hi).toList ++ '\\' :: 'u' :: ((hex4 lo).toList ++ rest)) := by
  simp only [String.toList_append, List.append_assoc]
  rfl

theorem opensNoLow_escapeCode {m : Nat} (scalar : m < 0x110000)
    (notLow : ¬(0xDC00 ≤ m ∧ m ≤ 0xDFFF)) (rest : List Char) :
    OpensNoLow ((escapeCode true m).toList ++ rest) := by
  intro t same
  unfold escapeCode at same
  by_cases surrogate : Codes.isSurrogate m = true
  · -- a lone high surrogate is written as its own escape
    have small : m < 0x10000 := by simp [Codes.isSurrogate] at surrogate; omega
    rw [if_pos surrogate, toList_unicodeEscape] at same
    simp only [List.cons.injEq, true_and] at same
    exact ⟨m, rest, same.symm, small, notLow⟩
  · have code : (Char.ofNat m).toNat = m :=
      Unicode.toNat_ofNat (by simp [Codes.isSurrogate] at surrogate; simp only [Nat.isValidChar]; omega)
    rw [if_neg surrogate] at same
    revert same
    unfold escapeChar
    split
    case h_1 => intro same; exact absurd (same : '\\' :: '"' :: rest = _) (by simp)
    case h_2 => intro same; exact absurd (same : '\\' :: '\\' :: rest = _) (by simp)
    case h_3 => intro same; exact absurd (same : '\\' :: 'n' :: rest = _) (by simp)
    case h_4 => intro same; exact absurd (same : '\\' :: 'r' :: rest = _) (by simp)
    case h_5 => intro same; exact absurd (same : '\\' :: 't' :: rest = _) (by simp)
    case h_6 => intro same; exact absurd (same : '\\' :: 'b' :: rest = _) (by simp)
    case h_7 => intro same; exact absurd (same : '\\' :: 'f' :: rest = _) (by simp)
    case h_8 _ notBackslash _ _ _ _ _ =>
      simp only [code, gt_iff_lt, true_and, ge_iff_le]
      intro same
      split at same
      · rw [toList_unicodeEscape] at same
        simp only [List.cons.injEq, true_and] at same
        exact ⟨m, rest, same.symm, by omega, notLow⟩
      split at same
      · split at same
        · -- the high surrogate of a pair comes first
          rw [toList_pairEscape] at same
          simp only [List.cons.injEq, true_and] at same
          exact ⟨_, _, same.symm, by omega, by omega⟩
        · rw [toList_unicodeEscape] at same
          simp only [List.cons.injEq, true_and] at same
          exact ⟨m, rest, same.symm, by omega, notLow⟩
      · simp only [Char.toString, String.toList_singleton, List.singleton_append,
          List.cons.injEq] at same
        exact absurd same.1 notBackslash

theorem readString_escapeCode {s : Array Char} {start i : Nat} {acc : List Nat} {n : Nat}
    {rest : List Char} (h : remaining s i = (escapeCode true n).toList ++ rest)
    (scalar : n < 0x110000) (alone : (0xD800 ≤ n ∧ n ≤ 0xDBFF) → OpensNoLow rest)
    (more : rest ≠ []) :
    readString s start i acc = readString s start (i + (escapeCode true n).length) (n :: acc) := by
  unfold escapeCode at h ⊢
  by_cases surrogate : Codes.isSurrogate n = true
  · have small : n < 0x10000 := by simp [Codes.isSurrogate] at surrogate; omega
    rw [if_pos surrogate] at h ⊢
    rw [toList_unicodeEscape] at h
    have digits := (remaining_cons (remaining_cons h).2).2
    have room : 4 < ((hex4 n).toList ++ rest).length := by
      have : rest.length ≠ 0 := by simpa using more
      simp [String.length_toList, length_hex4 small]
      omega
    have after : remaining s (i + 1 + 1 + (hex4 n).length) = rest := by
      have := remaining_append digits
      rwa [String.length_toList] at this
    rw [length_hex4 small] at after
    rw [readString_unicode h room (hex4?_of_remaining small digits) (after ▸ alone),
      String.length_append, length_hex4 small]
    rfl
  · rw [if_neg surrogate] at h ⊢
    have code : (Char.ofNat n).toNat = n :=
      Unicode.toNat_ofNat (by simp [Codes.isSurrogate] at surrogate; simp only [Nat.isValidChar]; omega)
    rw [readString_escapeChar h more, code]

theorem readString_escapedCodes {s : Array Char} {start : Nat} :
    ∀ (cs : List Nat) (i : Nat) (acc : List Nat) (rest : List Char), PlainText cs →
      remaining s i = (String.join (cs.map (escapeCode true))).toList ++ '"' :: rest →
      readString s start i acc = .ok (acc.reverse ++ cs,
        i + (String.join (cs.map (escapeCode true))).length + 1)
  | [], i, acc, rest, _, h => by
    rw [readString_quote (t := rest) (by simpa using h)]
    simp
  | n :: cs, i, acc, rest, plain, h => by
    rw [List.map_cons, String.join_cons, String.toList_append, List.append_assoc] at h
    have after := remaining_append h
    rw [String.length_toList] at after
    -- what follows the escape opens with the next code point, which is no low surrogate after a
    -- high one, or with the closing quote
    have alone : (0xD800 ≤ n ∧ n ≤ 0xDBFF) →
        OpensNoLow ((String.join (cs.map (escapeCode true))).toList ++ '"' :: rest) := by
      intro high
      cases cs with
      | nil => exact opensNoLow_quote rest
      | cons m more =>
        rw [List.map_cons, String.join_cons, String.toList_append, List.append_assoc]
        exact opensNoLow_escapeCode (plain.scalar m (by simp)) (plain.next_not_low high) _
    rw [readString_escapeCode h (plain.scalar n List.mem_cons_self) alone (by simp),
      readString_escapedCodes cs _ _ rest plain.tail after]
    simp [Nat.add_assoc]

theorem readString_quotedCodes {s : Array Char} {i : Nat} {cs : List Nat} {rest : List Char}
    (plain : PlainText cs) (h : remaining s i = (quoteCodes true cs).toList ++ rest) :
    readString s i (i + 1) [] = .ok (cs, i + (quoteCodes true cs).length) := by
  have body : remaining s (i + 1) =
      (String.join (cs.map (escapeCode true))).toList ++ '"' :: rest := by
    simp only [quoteCodes, String.toList_append, List.append_assoc] at h
    exact (remaining_cons h).2
  have quoteLength : "\"".length = 1 := rfl
  have position : i + 1 + (String.join (cs.map (escapeCode true))).length + 1 =
      i + (quoteCodes true cs).length := by
    simp only [quoteCodes, String.length_append, quoteLength]
    omega
  rw [readString_escapedCodes _ _ _ rest plain body, position, List.reverse_nil, List.nil_append]

theorem quote_eq_quoteCodes (o : Bool) (str : String) : quote o str = quoteCodes o (Codes.ofString str) := by
  have same : ∀ c : Char, escapeCode o c.toNat = escapeChar o c := fun c => by
    rw [escapeCode, if_neg (by simp [Codes.isSurrogate_toNat c]), Char.ofNat_toNat]
  simp only [quote, quoteCodes, Codes.ofString, List.map_map, Function.comp_def, same]

theorem readString_quoted {s : Array Char} {i : Nat} {str : String} {rest : List Char}
    (h : remaining s i = (quote true str).toList ++ rest) :
    readString s i (i + 1) [] = .ok (Codes.ofString str, i + (quote true str).length) := by
  rw [quote_eq_quoteCodes] at h ⊢
  exact readString_quotedCodes (plainText_ofString str) h

theorem ofCodes_ofString (str : String) : Value.ofCodes (Codes.ofString str) = .str str := by
  have same : Codes.char ∘ Char.toNat = id := funext fun c => by
    have valid := toNat_valid c
    have scalar : (!Codes.isSurrogate c.toNat && decide (c.toNat < 0x110000)) = true := by
      simp [Codes.isSurrogate]
      omega
    rw [Function.comp_apply, Codes.char, if_pos scalar, Char.ofNat_toNat, id]
  have text : Codes.toString (Codes.ofString str) = str := by
    simp [Codes.toString, Codes.chars, Codes.ofString, same]
  rw [Value.ofCodes, if_pos (Codes.ofString_isString str), text]

theorem isDigit_eq (c : Char) : isDigit c = c.isDigit := rfl

theorem ne_of_isDigit {d c : Char} (digit : isDigit d = true) (other : isDigit c = false) :
    d ≠ c := by
  rintro rfl
  rw [digit] at other
  cases other

theorem skipDigits_digits {s : Array Char} :
    ∀ (ds : List Char) (j : Nat) (rest : List Char), remaining s j = ds ++ rest →
      (∀ c ∈ ds, isDigit c = true) → (∀ c ∈ rest.head?, isDigit c = false) →
      skipDigits s j = j + ds.length
  | [], j, rest, h, _, stop => by
    rw [skipDigits]
    cases rest with
    | nil => rw [dif_neg (remaining_nil h)]; rfl
    | cons c more =>
      have size := lt_size_of_remaining h
      rw [dif_pos size, getElem_of_remaining h size, if_neg (by simp [stop c rfl])]
      rfl
  | d :: ds, j, rest, h, digits, stop => by
    have size := lt_size_of_remaining h
    rw [skipDigits, dif_pos size, getElem_of_remaining h size,
      if_pos (digits d List.mem_cons_self),
      skipDigits_digits ds (j + 1) rest (remaining_cons h).2
        (fun c member => digits c (List.mem_cons_of_mem d member)) stop]
    simp only [List.length_cons]
    omega

theorem digitsValue_toDigits (n : Nat) : digitsValue (Nat.toDigits 10 n) = n := by
  have same : digitsValue (Nat.toDigits 10 n) = Nat.ofDigitChars 10 (Nat.toDigits 10 n) 0 := by
    simp only [digitsValue, Nat.ofDigitChars_eq_foldl, Nat.mul_comm]
  rw [same, Nat.ofDigitChars_ten_toDigits]

theorem toDigits_head (n : Nat) :
    ∃ d more, Nat.toDigits 10 n = d :: more ∧ (d = '0' ↔ n = 0) := by
  induction n using Nat.strong_induction_on with
  | _ n ih =>
    by_cases small : n < 10
    · exact ⟨_, [], Nat.toDigits_of_lt_base small, Nat.digitChar_eq_zero⟩
    · obtain ⟨d, more, first, zero⟩ := ih (n / 10) (by omega)
      refine ⟨d, more ++ [Nat.digitChar (n % 10)], ?_, ?_⟩
      · rw [Nat.toDigits_of_base_le (by omega) (by omega), first, List.cons_append]
      · rw [zero]
        omega

theorem toList_toString_int (x : Int) :
    (toString x).toList = (if 0 ≤ x then [] else ['-']) ++ Nat.toDigits 10 x.natAbs := by
  rw [Int.toString_eq_repr, Int.repr_eq_if]
  by_cases sign : 0 ≤ x
  · rw [if_pos sign, if_pos sign, Nat.toList_repr, show x.toNat = x.natAbs by omega]
    rfl
  · rw [if_neg sign, if_neg sign, String.toList_append, Nat.toList_repr,
      show (-x).toNat = x.natAbs by omega]
    rfl

theorem length_toString_int (x : Int) :
    (toString x).length = (if 0 ≤ x then 0 else 1) + (Nat.toDigits 10 x.natAbs).length := by
  rw [← String.length_toList, toList_toString_int]
  split <;> simp [Nat.add_comm]

theorem isDigit_of_mem_toDigits {n : Nat} {c : Char} (member : c ∈ Nat.toDigits 10 n) :
    isDigit c = true := by
  rw [isDigit_eq]
  exact Nat.isDigit_of_mem_toDigits (by decide) (by decide) member

theorem slice_of_remaining {s : Array Char} {j : Nat} {ds rest : List Char}
    (h : remaining s j = ds ++ rest) : slice s j (j + ds.length) = ds := by
  have rest' : s.toList.drop j = ds ++ rest := h
  rw [slice, rest', Nat.add_sub_cancel_left, List.take_left]

theorem readNumber_of_digits {s : Array Char} {start j : Nat} {negative : Bool} {d : Char}
    {more rest : List Char} (signed : (s[start]? == some '-') = negative)
    (sign : j = if negative then start + 1 else start) (h : remaining s j = d :: more ++ rest)
    (digits : ∀ c ∈ d :: more, isDigit c = true) (leading : d = '0' → more = [])
    (stop : ∀ c ∈ rest.head?, c = ',' ∨ c = '}')
    (short : (d :: more).length ≤ Number.decimalDigitLimit) :
    readNumber s start = .ok (.int (if negative then -(digitsValue (d :: more) : Int)
      else digitsValue (d :: more)), j + (d :: more).length) := by
  have atFirst := (remaining_cons h).1
  have ends := remaining_append h
  have after : s[j + (d :: more).length]? = rest.head? := by
    simpa [List.head?_eq_getElem?] using getElem?_of_remaining ends 0
  have notDigit : ∀ c ∈ rest.head?, isDigit c = false := fun c member => by
    rcases stop c member with rfl | rfl <;> rfl
  have intEnd : (if (d == '0') = true then j + 1 else skipDigits s (j + 1)) =
      j + (d :: more).length := by
    by_cases z : d = '0'
    · simp [z, leading z]
    · rw [if_neg (by simpa using z), skipDigits_digits more (j + 1) rest (remaining_cons h).2
        (fun c member => digits c (List.mem_cons_of_mem d member)) notDigit]
      simp only [List.length_cons]
      omega
  have noPoint : (s[j + (d :: more).length]? == some '.') = false := by
    rw [after]
    rcases rest with _ | ⟨c, _⟩
    · rfl
    · rcases stop c rfl with rfl | rfl <;> rfl
  have noExp : ¬((s[j + (d :: more).length]? == some 'e') = true ∨
      (s[j + (d :: more).length]? == some 'E') = true) := by
    rw [after]
    rcases rest with _ | ⟨c, _⟩
    · simp
    · rcases stop c rfl with rfl | rfl <;> simp
  simp only [readNumber, signed, ← sign, atFirst, digits d List.mem_cons_self, or_true,
    ↓reduceIte, intEnd, noPoint, noExp, Bool.false_eq_true, and_false, false_and, or_self,
    slice_of_remaining h, Nat.not_lt.2 short]

theorem length_toDigits_le_of_lt {n k : Nat} (positive : 0 < k) (h : n < Nat.pow 10 k) :
    (Nat.toDigits 10 n).length ≤ k :=
  (Nat.length_toDigits_le_iff (by decide) positive).2 h

theorem readNumber_int {s : Array Char} {i : Nat} {x : Int} {rest : List Char}
    (h : remaining s i = (toString x).toList ++ rest) (fits : Number.fitsDigitLimit x = true)
    (stop : ∀ c ∈ rest.head?, c = ',' ∨ c = '}') :
    readNumber s i = .ok (.int x, i + (toString x).length) := by
  obtain ⟨d, more, first, zero⟩ := toDigits_head x.natAbs
  have digits : ∀ c ∈ d :: more, isDigit c = true := fun c member =>
    isDigit_of_mem_toDigits (first ▸ member)
  have leading : d = '0' → more = [] := fun isZero => by
    have only := first
    rw [zero.1 isZero, Nat.toDigits_zero, List.cons.injEq] at only
    exact only.2.symm
  have short : (d :: more).length ≤ Number.decimalDigitLimit := by
    rw [← first]
    exact length_toDigits_le_of_lt (by decide) (of_decide_eq_true fits)
  have value : digitsValue (d :: more) = x.natAbs := by rw [← first, digitsValue_toDigits]
  rw [toList_toString_int, first] at h
  rw [length_toString_int, first]
  by_cases sign : 0 ≤ x
  · rw [if_pos sign, List.nil_append] at h
    have unsigned : (s[i]? == some '-') = false := by
      rw [(remaining_cons h).1]
      simpa using ne_of_isDigit (digits d List.mem_cons_self) (by decide)
    rw [readNumber_of_digits unsigned rfl h digits leading stop short, value, if_pos sign]
    simp [abs_of_nonneg sign]
  · rw [if_neg sign, List.singleton_append, List.cons_append] at h
    have signed : (s[i]? == some '-') = true := by
      rw [(remaining_cons h).1]
      rfl
    rw [readNumber_of_digits signed rfl (remaining_cons h).2 digits leading stop short, value,
      if_neg sign]
    simp [abs_of_neg (not_le.1 sign), Nat.add_assoc, Nat.add_comm 1]

theorem hasAt_of_mismatch {s : Array Char} {i k : Nat} {lit : String} {c : Char}
    (listed : lit.toList[k]? = some c) (differs : s[i + k]? ≠ some c) :
    hasAt s i lit = false := by
  have member : (c, k) ∈ lit.toList.zipIdx := List.mem_zipIdx_iff_getElem?.2 listed
  unfold hasAt
  rw [Bool.and_eq_false_iff, List.all_eq_false]
  exact .inr ⟨(c, k), member, by simpa using differs⟩

theorem readValue_codes {s : Array Char} {i room fuel : Nat} {cs : List Nat} {rest : List Char}
    (plain : PlainText cs) (h : remaining s i = (quoteCodes true cs).toList ++ rest) :
    readValue s i room (fuel + 1) = .ok (.ofCodes cs, i + (quoteCodes true cs).length) := by
  have opening : s[i]? = some '"' := by simpa [quoteCodes] using getElem?_of_remaining h 0
  rw [readValue.eq_def]
  simp only [opening]
  rw [readString_quotedCodes plain h]
  rfl

theorem readValue_int {s : Array Char} {i room fuel : Nat} {x : Int} {rest : List Char}
    (h : remaining s i = (toString x).toList ++ rest) (fits : Number.fitsDigitLimit x = true)
    (stop : ∀ c ∈ rest.head?, c = ',' ∨ c = '}') :
    readValue s i room (fuel + 1) = .ok (.int x, i + (toString x).length) := by
  have number := readNumber_int h fits stop
  clear fits
  obtain ⟨d, more, first, -⟩ := toDigits_head x.natAbs
  have digit : isDigit d = true := isDigit_of_mem_toDigits (first ▸ List.mem_cons_self)
  have skip : ∀ c : Char, isDigit c = false → (d == c) = false := fun c other =>
    beq_false_of_ne (ne_of_isDigit digit other)
  rw [toList_toString_int, first] at h
  rw [readValue.eq_def]
  by_cases sign : 0 ≤ x
  · -- a digit opens no string, object or array, and none of the named literals
    rw [if_pos sign] at h
    simp only [(remaining_cons h).1]
    split
    case h_1 none => cases none
    case h_2 same | h_3 same | h_4 same =>
      exact absurd (Option.some.inj same) (ne_of_isDigit digit (by decide))
    case h_5 c _ _ _ same =>
      obtain rfl := Option.some.inj same
      simp only [skip 'n' (by decide), skip 't' (by decide), skip 'f' (by decide),
        skip 'N' (by decide), skip 'I' (by decide), skip '-' (by decide), Bool.false_eq_true,
        false_and, ↓reduceIte]
      exact number
  · -- a minus sign followed by a digit is no negative infinity
    rw [if_neg sign] at h
    have notInfinity : hasAt s i "-Infinity" = false := by
      refine hasAt_of_mismatch (k := 1) (c := 'I') rfl ?_
      rw [(remaining_cons (remaining_cons h).2).1]
      simpa using ne_of_isDigit digit (by decide)
    simp only [(remaining_cons h).1]
    split
    case h_1 none => cases none
    case h_2 same | h_3 same | h_4 same => exact absurd (Option.some.inj same) (by decide)
    case h_5 c _ _ _ same =>
      obtain rfl := Option.some.inj same
      simp only [(by decide : ('-' == 'n') = false), (by decide : ('-' == 't') = false),
        (by decide : ('-' == 'f') = false), (by decide : ('-' == 'N') = false),
        (by decide : ('-' == 'I') = false), notInfinity, Bool.false_eq_true, false_and, and_false,
        ↓reduceIte]
      exact number

end Gamebook.Json
