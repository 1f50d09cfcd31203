import Mathlib
import Gamebook.Proofs.LogicReading
import Gamebook.Proofs.JsonScalars
import Gamebook.Proofs.ArrowTargets
/- Printed logic read back. Logic is printed as its name, its operator and its value in decimal,
   with single spaces between them. Reading that text gives the same logic exactly when the name is
   one name token of the reader (an ASCII letter or underscore, then word characters), the
   operator suits the role the text is read for, and the value keeps to the digit limit. Logic
   that was read has the last two and a canonical name; but its name is lowercased after it is
   read, and lowercasing can leave the word characters: the dotted capital I becomes `i` and a
   combining dot. Main statement: `Logic.printed_logic_reads_back`. -/

namespace Gamebook
open Unicode

theorem Unicode.isWord_space : isWord ' ' = false := by
  cases word : isWord ' '
  · rfl
  · exact absurd (isSpace_of_isWord word) (by decide)

namespace Token

theorem decimalValue?_of_isDigit {d : Char} (digit : d.isDigit = true) :
    decimalValue? d = some (d.toNat - '0'.toNat) :=
  of_isDigit (P := fun d => decimalValue? d = some (d.toNat - '0'.toNat)) (by decide +kernel) digit

theorem isDecimal_of_isDigit {d : Char} (digit : d.isDigit = true) : isDecimal d = true := by
  simp [isDecimal, decimalValue?_of_isDigit digit]

theorem isSpace_of_isDigit {d : Char} (digit : d.isDigit = true) : isSpace d = false := by
  have bounds := toNat_of_isDigit digit
  simp only [isSpace, Bool.or_eq_false_iff, Bool.and_eq_false_iff, decide_eq_false_iff_not,
    beq_eq_false_iff_ne]
  omega

theorem digitsValue_toDigits (n : Nat) : digitsValue (Nat.toDigits 10 n) = n := by
  -- on ASCII digits the fold adds the same values as the reader of JSON numbers
  calc digitsValue (Nat.toDigits 10 n) = Json.digitsValue (Nat.toDigits 10 n) := by
        unfold digitsValue Json.digitsValue
        apply List.foldl_ext
        intro a d member
        rw [decimalValue?_of_isDigit (Nat.isDigit_of_mem_toDigits (by decide) (by decide) member)]
        rfl
    _ = n := Json.digitsValue_toDigits n

theorem Reads.spaced_operator (o : Operator) (more : List Char) :
    Reads (o.symbol.toList ++ ' ' :: more) (.op o) (' ' :: more) :=
  Reads.operator (by cases o <;> simp [Operator.scanOrder, Operator.symbol, List.isPrefixOf])

theorem Reads.printed_int (x : Int) {after : List Char}
    (stop : ∀ d ∈ after.head?, isDecimal d = false) :
    ∃ c rest, (toString x).toList ++ after = c :: rest ∧ isSpace c = false ∧
      Reads (c :: rest) (.number (toString x).toList x) after := by
  obtain ⟨d, more, first, -⟩ := Json.toDigits_head x.natAbs
  have digits : ∀ e ∈ Nat.toDigits 10 x.natAbs, e.isDigit = true := fun e member =>
    Nat.isDigit_of_mem_toDigits (by decide) (by decide) member
  have value : signedNumber (if 0 ≤ x then [] else ['-']) (Nat.toDigits 10 x.natAbs) = x := by
    have natural : decimalNumber (Nat.toDigits 10 x.natAbs) = x.natAbs := by
      rw [← digitsValue_eq, digitsValue_toDigits]
    by_cases sign : 0 ≤ x
    · rw [if_pos sign, signedNumber, if_neg (by simp), natural]
      omega
    · rw [if_neg sign, signedNumber, if_pos rfl, natural]
      omega
  have reads := @Reads.number (if 0 ≤ x then [] else ['-']) (Nat.toDigits 10 x.natAbs) after
    (by split <;> simp) (by simp [first]) (fun e member => isDecimal_of_isDigit (digits e member))
    stop
  rw [value, ← Json.toList_toString_int] at reads
  have opening : ∃ c rest, (toString x).toList ++ after = c :: rest ∧ isSpace c = false := by
    rw [Json.toList_toString_int, first]
    split
    · exact ⟨d, more ++ after, rfl, isSpace_of_isDigit (digits d (by simp [first]))⟩
    · exact ⟨'-', d :: more ++ after, rfl, by decide⟩
  obtain ⟨c, rest, text, solid⟩ := opening
  exact ⟨c, rest, text, solid, text ▸ reads⟩

theorem Reads.name_start {cs after n : List Char} (reads : Reads cs (.name n) after) :
    ∀ c ∈ cs.head?, isNameStart c = true := by
  cases reads with
  | name _ start _ _ => simpa using start

theorem filter_signs_of_decimal {ds : List Char} (decimals : ∀ c ∈ ds, isDecimal c = true) :
    ds.filter (fun c => c != '-' && c != '+') = ds := by
  rw [List.filter_eq_self]
  intro c member
  have unsigned : ∀ mark ∈ marks, c ≠ mark := fun mark marked same => by
    have decimal := decimals c member
    rw [same, isDecimal_of_mark marked] at decimal
    cases decimal
  simp [unsigned '-' (by simp [marks]), unsigned '+' (by simp [marks])]

theorem decimalValue?_lt {d : Char} {n : Nat} (h : decimalValue? d = some n) : n < 10 := by
  unfold decimalValue? at h
  split at h
  · split at h
    · injection h with same
      omega
    · cases h
  · cases h

theorem Reads.number_digits {cs after s : List Char} {v : Int}
    (reads : Reads cs (.number s v) after) :
    (Nat.toDigits 10 v.natAbs).length ≤ Logic.digitCount s := by
  cases reads with
  | number signs nonempty decimals _ =>
    rename_i sign ds rest
    have value : (signedNumber sign ds).natAbs = decimalNumber ds := by
      unfold signedNumber
      split <;> simp
    have below : decimalNumber ds < 10 ^ ds.length := by
      have bound := Nat.ofDigits_lt_base_pow_length (b := 10)
        (l := (ds.map fun d => (decimalValue? d).getD 0).reverse) (by decide) (fun x member => by
          obtain ⟨d, -, rfl⟩ := List.mem_map.1 (List.mem_reverse.1 member)
          cases found : decimalValue? d with
          | none => simp
          | some n => simpa using decimalValue?_lt found)
      simpa [decimalNumber] using bound
    have count : Logic.digitCount (sign ++ ds) = ds.length := by
      unfold Logic.digitCount
      rw [List.filter_append, filter_signs_of_decimal decimals]
      rcases signs with rfl | rfl | rfl <;> simp
    rw [value, count]
    exact (Nat.length_toDigits_le_iff (by decide) (List.length_pos_of_ne_nil nonempty)).2 below

theorem Scanned.reads {cs : List Char} {ts : List Token} (scanned : Scanned cs ts) :
    ∀ t ∈ ts, ∃ text after, Reads text t after := by
  induction scanned with
  | blank => simp
  | token _ _ reads _ ih =>
    intro t member
    rcases List.mem_cons.1 member with rfl | later
    · exact ⟨_, _, reads⟩
    · exact ih t later

end Token

namespace Logic

/-- Text the reader takes as one name: an ASCII letter or underscore, then word characters. -/
def isNameText : List Char → Bool
  | c :: cs => Token.isNameStart c && cs.all isWord
  | [] => false

theorem render_toList (l : Logic) :
    l.render.toList = l.lhs.toList ++ ' ' :: (l.op.symbol.toList ++ ' ' :: (toString l.rhs).toList) := by
  have space : " ".toList = [' '] := by simp
  simp only [render, String.toList_append, space, List.append_assoc, List.cons_append,
    List.nil_append]

theorem trimRight_render (l : Logic) : Text.trimRight l.render.toList = l.render.toList := by
  obtain ⟨d, more, first, -⟩ := Json.toDigits_head l.rhs.natAbs
  have last : ∀ c ∈ l.render.toList.getLast?, isSpace c = false := by
    intro c member
    have whole : l.render.toList = (l.lhs.toList ++ ' ' :: (l.op.symbol.toList ++
        ' ' :: (if 0 ≤ l.rhs then [] else ['-']))) ++ Nat.toDigits 10 l.rhs.natAbs := by
      rw [render_toList, Json.toList_toString_int]
      simp
    rw [whole, List.getLast?_append_of_ne_nil _ (by simp [first])] at member
    exact Token.isSpace_of_isDigit
      (Nat.isDigit_of_mem_toDigits (by decide) (by decide) (List.mem_of_getLast? member))
  simpa [Text.trimRight] using Text.trimRight_append_solid l.render.toList [] last

theorem symbol_opens (o : Operator) :
    ∃ s0 more, o.symbol.toList = s0 :: more ∧ isSpace s0 = false ∧ Token.isNameStart s0 = false := by
  cases o <;> exact ⟨_, _, rfl, by decide, by decide⟩

theorem isSpace_of_isNameStart {c : Char} (start : Token.isNameStart c = true) : isSpace c = false := by
  rcases Token.isNameStart_ranges start with rfl | letter
  · decide
  · -- a capital or a small letter lies above every white space of ASCII and below the rest
    simp only [isSpace, Bool.or_eq_false_iff, Bool.and_eq_false_iff, decide_eq_false_iff_not,
      beq_eq_false_iff_ne, ne_eq]
    omega

theorem digitCount_toString (x : Int) :
    digitCount (toString x).toList = (Nat.toDigits 10 x.natAbs).length := by
  have kept : (Nat.toDigits 10 x.natAbs).filter (fun c => c != '-' && c != '+') =
      Nat.toDigits 10 x.natAbs := Token.filter_signs_of_decimal fun c member =>
    Token.isDecimal_of_isDigit (Nat.isDigit_of_mem_toDigits (by decide) (by decide) member)
  unfold digitCount
  rw [Json.toList_toString_int, List.filter_append, kept]
  split <;> simp

theorem fits_iff_digitCount (x : Int) :
    Number.fitsDigitLimit x = true ↔ digitCount (toString x).toList ≤ Number.decimalDigitLimit := by
  rw [digitCount_toString, Number.fitsDigitLimit, decide_eq_true_iff, Nat.pow_eq]
  exact (Nat.length_toDigits_le_iff (by decide) (by decide)).symm

theorem scan_render {l : Logic} (name : isNameText l.lhs.toList = true) :
    Token.scan (Text.trimRight l.render.toList) =
      .ok [.name l.lhs.toList, .op l.op, .number (toString l.rhs).toList l.rhs] := by
  rw [trimRight_render, Token.scan_eq_ok_iff, render_toList]
  obtain ⟨c, cs, spelled⟩ : ∃ c cs, l.lhs.toList = c :: cs := by
    cases h : l.lhs.toList with
    | nil => rw [h] at name; cases name
    | cons c cs => exact ⟨c, cs, rfl⟩
  rw [spelled] at name ⊢
  simp only [isNameText, Bool.and_eq_true, List.all_eq_true] at name
  obtain ⟨start, words⟩ := name
  have space : ∀ d ∈ [' '], isSpace d = true := by simp [isSpace]
  obtain ⟨d, rest, text, solid, number⟩ := @Token.Reads.printed_int l.rhs [] (by simp)
  rw [List.append_nil] at text
  have value : Token.Scanned (' ' :: (toString l.rhs).toList)
      [.number (toString l.rhs).toList l.rhs] := by
    have scanned := @Token.Scanned.token [' '] rest [] d _ [] space solid number (.blank (by simp))
    rwa [← text] at scanned
  obtain ⟨s0, more, symbol, solid0, -⟩ := symbol_opens l.op
  have operator : Token.Scanned (' ' :: (l.op.symbol.toList ++ ' ' :: (toString l.rhs).toList))
      [.op l.op, .number (toString l.rhs).toList l.rhs] := by
    have reads := Token.Reads.spaced_operator l.op (toString l.rhs).toList
    rw [symbol, List.cons_append] at reads ⊢
    exact @Token.Scanned.token [' '] _ _ s0 _ _ space solid0 reads value
  have reads := @Token.Reads.word c (cs ++ ' ' :: (l.op.symbol.toList ++
    ' ' :: (toString l.rhs).toList)) start
  rw [List.takeWhile_append_of_pos words, List.dropWhile_append_of_pos words,
    List.takeWhile_cons_of_neg (by simp [isWord_space]),
    List.dropWhile_cons_of_neg (by simp [isWord_space]),
    List.append_nil] at reads
  exact @Token.Scanned.token [] _ _ c _ _ (by simp) (isSpace_of_isNameStart start) reads operator

theorem parse_render {l : Logic} {role : Role} (name : isNameText l.lhs.toList = true)
    (canonical : canonicalName l.lhs = l.lhs) (suits : l.op.role = role) :
    Logic.parse l.render role = if Number.fitsDigitLimit l.rhs then .ok l
      else .error (.tooManyDigits (digitCount (toString l.rhs).toList)) := by
  have scanned := scan_render name
  split
  · next fits =>
    have stands := Stands.triple (n := l.lhs.toList) (o := l.op) (v := l.rhs)
      ((fits_iff_digitCount l.rhs).1 fits)
    rw [String.ofList_toList, canonical] at stands
    exact parse_of_stands scanned stands suits
  · next long =>
    have past : Number.decimalDigitLimit < digitCount (toString l.rhs).toList :=
      Nat.lt_of_not_le fun within => long ((fits_iff_digitCount l.rhs).2 within)
    exact parse_of_refusal scanned (.tail (.tooManyDigits past))

theorem parse_ne_ok_of_front {code : String} {role : Role} {c : Char} {rest : List Char}
    (front : (Text.trimRight code.toList).dropWhile isSpace = c :: rest)
    (notName : Token.isNameStart c = false) (l : Logic) : Logic.parse code role ≠ .ok l := by
  obtain ⟨split, blank, solid⟩ := Token.blank_of_dropWhile front
  intro parsed
  cases found : Token.lead c rest with
  | none =>
    have failed := Token.scan_of_no_lead blank solid found
    rw [← split] at failed
    rw [parse_of_scan_error failed] at parsed
    cases parsed
  | some p =>
    obtain ⟨t, after⟩ := p
    have other : ∀ n, t ≠ .name n := by
      rintro n rfl
      rw [Token.Reads.name_start (Token.lead_eq_some_iff.1 found) c rfl] at notName
      cases notName
    have scanned := Token.scan_of_lead blank solid found
    rw [← split] at scanned
    cases more : Token.scan after with
    | error e =>
      rw [more] at scanned
      rw [parse_of_scan_error scanned] at parsed
      cases parsed
    | ok ts =>
      rw [more] at scanned
      have refusal : Refusal role (t :: ts) .noName :=
        .noName fun n more same => other n (List.cons.inj same).1
      have refused := parse_of_refusal scanned refusal
      rw [refused] at parsed
      cases parsed

theorem lhs_of_front {code : String} {role : Role} {c : Char} {rest : List Char}
    (front : Text.trimRight code.toList = c :: rest) (start : Token.isNameStart c = true)
    {l : Logic} (parsed : Logic.parse code role = .ok l) :
    l.lhs = canonicalName (String.ofList (c :: rest.takeWhile isWord)) := by
  have found := Token.lead_eq_some_iff.2 (@Token.Reads.word c rest start)
  have scanned := @Token.scan_of_lead [] rest _ c _ (by simp) (isSpace_of_isNameStart start) found
  rw [List.nil_append, ← front] at scanned
  cases more : Token.scan (rest.dropWhile isWord) with
  | error e =>
    rw [more] at scanned
    rw [parse_of_scan_error scanned] at parsed
    cases parsed
  | ok ts =>
    rw [more] at scanned
    obtain ⟨stands, -⟩ := (parse_eq_ok_iff_of_scan scanned l).1 parsed
    cases stands <;> rfl

theorem canonicalName_of_plain {cs : List Char} (stable : ∀ d ∈ cs, Stable d)
    (solid : ∀ d ∈ cs, isSpace d = false) : canonicalName (String.ofList cs) = String.ofList cs := by
  unfold canonicalName lower
  rw [String.toList_ofList, Text.trim_eq_self (fun c member => solid c (List.mem_of_mem_head? member))
    (fun c member => solid c (List.mem_of_getLast? member)), lowerFrom_of_stable stable]

theorem name_of_parse_render {l : Logic} {role : Role} (canonical : canonicalName l.lhs = l.lhs)
    (parsed : Logic.parse l.render role = .ok l) : isNameText l.lhs.toList = true := by
  have stable := stable_of_canonical canonical
  obtain ⟨s0, more, symbol, solid0, notName0⟩ := symbol_opens l.op
  have printed : Text.trimRight l.render.toList =
      l.lhs.toList ++ ' ' :: (l.op.symbol.toList ++ ' ' :: (toString l.rhs).toList) := by
    rw [trimRight_render, render_toList]
  cases spelled : l.lhs.toList with
  | nil =>
    have front : (Text.trimRight l.render.toList).dropWhile isSpace =
        s0 :: (more ++ ' ' :: (toString l.rhs).toList) := by
      rw [printed, spelled, symbol, List.nil_append, List.dropWhile_cons_of_pos (by simp [isSpace]),
        List.cons_append, List.dropWhile_cons_of_neg (by simp [solid0])]
    exact absurd parsed (parse_ne_ok_of_front front notName0 l)
  | cons c cs =>
    have solid : isSpace c = false := head?_of_canonical canonical c (by rw [spelled]; rfl)
    rw [spelled, List.cons_append] at printed
    by_cases start : Token.isNameStart c = true
    · have lhs := lhs_of_front printed start parsed
      -- the name read from the print stops at the space after the printed name, if not before
      have within : (cs ++ ' ' :: (l.op.symbol.toList ++ ' ' :: (toString l.rhs).toList)).takeWhile
          isWord <+: cs := by
        rw [List.takeWhile_append]
        split
        · rw [List.takeWhile_cons_of_neg (by simp [isWord_space]), List.append_nil]
        · exact List.takeWhile_prefix _
      rw [canonicalName_of_plain
        (fun d member => stable d (spelled ▸ List.cons_subset_cons c within.subset member))
        (fun d member => by
          rcases List.mem_cons.1 member with rfl | taken
          · exact solid
          · exact isSpace_of_isWord (List.mem_takeWhile_imp taken))] at lhs
      have same := congrArg String.toList lhs
      rw [spelled, String.toList_ofList, List.cons.injEq] at same
      simp only [isNameText, start, Bool.true_and, List.all_eq_true]
      intro d member
      rw [same.2] at member
      exact List.mem_takeWhile_imp member
    · have front : (Text.trimRight l.render.toList).dropWhile isSpace =
          c :: (cs ++ ' ' :: (l.op.symbol.toList ++ ' ' :: (toString l.rhs).toList)) := by
        rw [printed]
        exact Text.dropWhile_eq_self (by simpa using solid)
      exact absurd parsed (parse_ne_ok_of_front front (by simpa using start) l)

theorem fits_of_parse {code : String} {role : Role} {l : Logic}
    (parsed : Logic.parse code role = .ok l) : Number.fitsDigitLimit l.rhs = true := by
  cases scanned : Token.scan (Text.trimRight code.toList) with
  | error e =>
    rw [parse_of_scan_error scanned] at parsed
    cases parsed
  | ok ts =>
    obtain ⟨stands, -⟩ := (parse_eq_ok_iff_of_scan scanned l).1 parsed
    rw [fits_iff_digitCount, digitCount_toString]
    cases stands with
    | lone => simp [Number.decimalDigitLimit]
    | triple within =>
      rename_i n s o v
      obtain ⟨text, after, reads⟩ := (Token.scan_eq_ok_iff.1 scanned).reads (.number s v) (by simp)
      exact reads.number_digits.trans within

theorem parse_render_iff (l : Logic) (role : Role) (canonical : canonicalName l.lhs = l.lhs) :
    Logic.parse l.render role = .ok l ↔
      isNameText l.lhs.toList = true ∧ l.op.role = role ∧ Number.fitsDigitLimit l.rhs = true := by
  constructor
  · intro parsed
    have name := name_of_parse_render canonical parsed
    exact ⟨name, (Logic.parse_ok parsed).1, fits_of_parse parsed⟩
  · rintro ⟨name, suits, fits⟩
    rw [parse_render name canonical suits, if_pos fits]

/-- Printing logic and reading the print back. For logic with a canonical name, the print reads
back as the same logic exactly when the name is one name token, the operator suits the role the
print is read for, and the value keeps to the digit limit. Logic that was read meets the last two
and has a canonical name, so its print reads back exactly when its name is one name token, which
lowercasing can break. -/
theorem printed_logic_reads_back :
    (∀ (l : Logic) (role : Role), canonicalName l.lhs = l.lhs →
      (Logic.parse l.render role = .ok l ↔
        isNameText l.lhs.toList = true ∧ l.op.role = role ∧ Number.fitsDigitLimit l.rhs = true)) ∧
    ∀ (code : String) (role : Role) (l : Logic), Logic.parse code role = .ok l →
      (Logic.parse l.render role = .ok l ↔ isNameText l.lhs.toList = true) := by
  refine ⟨parse_render_iff, fun code role l parsed => ?_⟩
  have canonical := (Logic.parse_ok parsed).2
  rw [parse_render_iff l role canonical]
  exact ⟨fun reread => reread.1, fun name => ⟨name, (Logic.parse_ok parsed).1, fits_of_parse parsed⟩⟩

/-- The guard-free state logic of the tests, `Gold += -2`: read as `gold += -2`, whose name is
one name token, so its print reads back. -/
theorem gold_logic_reread :
    Logic.parse "Gold += -2" .state = .ok ⟨.increase, "gold", -2⟩ ∧
      (Logic.parse (Logic.render ⟨.increase, "gold", -2⟩) .state = .ok ⟨.increase, "gold", -2⟩ ↔
        isNameText "gold".toList = true) := by
  have parsed : Logic.parse "Gold += -2" .state = .ok ⟨.increase, "gold", -2⟩ := by decide +kernel
  exact ⟨parsed, printed_logic_reads_back.2 _ _ _ parsed⟩

/-- Logic on the name `xİ` is read with the name lowercased to `x`, `i` and a combining dot above,
which is no word character; printed, it is refused at that dot. -/
theorem dotted_capital_not_reread :
    Logic.parse "xİ = 5" .state = .ok ⟨.assign, "xi\u0307", 5⟩ ∧
      Logic.parse (Logic.render ⟨.assign, "xi\u0307", 5⟩) .state = .error (.unexpected ['\u0307']) := by
  constructor <;> decide +kernel

end Logic

end Gamebook
