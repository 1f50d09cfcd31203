import Mathlib
import Gamebook.Logic.Parse
import Gamebook.Proofs.MarkupReading
/- Reading page logic, against the pattern it follows. At each place, after white space, the
   token read is the first of a number (an optional sign and decimal digits of any script), a name
   (an ASCII letter or underscore, then word characters) and an operator (`+=`, `==`, `!=`, `=`,
   `<`, `>`, tried in that order) that matches there, each taking as much as it can; where none
   matches, the run of non-blank characters from there is refused. Scanning succeeds exactly on
   texts made of white space and such tokens in turn, so that the white space and the token texts
   make up the text; it fails exactly where, after such tokens, no token starts. Reading logic
   takes a lone name as the guard `name > 0`, or a name, an operator and a number within the
   digit limit, for the role its operator suits; otherwise it reports the first of its checks
   that fails. Main statement: `Logic.reading_follows_pattern`. -/

namespace Gamebook
open Unicode

namespace Unicode

theorem decimalZeros_ascii : decimalZeros.toList.all (fun z => z == 0x30 || 0x80 ≤ z) = true := by
  decide +kernel

theorem isDecimal_of_ascii {c : Char} (ascii : c.toNat < 0x80)
    (other : c.toNat < 0x30 ∨ 0x39 < c.toNat) : isDecimal c = false := by
  unfold isDecimal decimalValue?
  split
  · next z found =>
    obtain ⟨member, low⟩ := lastAtMost_mem found
    have zero := List.all_eq_true.1 decimalZeros_ascii z member
    simp only [id, Bool.or_eq_true, beq_iff_eq, decide_eq_true_eq] at zero low
    split
    · next close => omega
    · rfl
  · rfl

end Unicode

/-- The value of decimal digits of any script, the most significant first. -/
def decimalNumber (ds : List Char) : Nat :=
  Nat.ofDigits 10 (ds.map fun d => (decimalValue? d).getD 0).reverse

/-- The value of a number written with a sign (`-`, `+` or none) and decimal digits. -/
def signedNumber (sign ds : List Char) : Int :=
  if sign = ['-'] then -(decimalNumber ds : Int) else decimalNumber ds

namespace Operator

/-- The operators in the order the pattern tries them. -/
def scanOrder : List Operator := [increase, eq, ne, assign, lt, gt]

end Operator

namespace Token

theorem digitsValue_eq (ds : List Char) : digitsValue ds = decimalNumber ds := by
  -- the fold from any start `a` shifts `a` past the digits and adds their value
  have shifted : ∀ a : Nat, ds.foldl (fun n d => n * 10 + (decimalValue? d).getD 0) a =
      a * 10 ^ ds.length + decimalNumber ds := by
    induction ds with
    | nil => simp [decimalNumber]
    | cons d ds ih =>
      intro a
      simp only [List.foldl_cons, ih, decimalNumber, List.map_cons, List.reverse_cons,
        Nat.ofDigits_append, Nat.ofDigits_singleton, List.length_reverse, List.length_map,
        List.length_cons, pow_succ]
      ring
  simpa [digitsValue] using shifted 0

/-- A number starts at the front of a text: a decimal digit, alone or after a sign. -/
def StartsNumber : List Char → Prop
  | d :: rest => isDecimal d = true ∨ ((d = '-' ∨ d = '+') ∧ ∃ e ∈ rest.head?, isDecimal e = true)
  | [] => False

/-- The token the pattern reads at the front of a text, and what follows it. A number is tried
first, then a name, then the operators in their order; each takes as many characters as it can. -/
inductive Reads : List Char → Token → List Char → Prop
  /-- an optional sign and all the decimal digits that follow -/
  | number {sign ds rest : List Char} : (sign = [] ∨ sign = ['-'] ∨ sign = ['+']) → ds ≠ [] →
      (∀ d ∈ ds, isDecimal d = true) → (∀ d ∈ rest.head?, isDecimal d = false) →
      Reads (sign ++ ds ++ rest) (.number (sign ++ ds) (signedNumber sign ds)) rest
  /-- where no number starts, an ASCII letter or underscore and all the word characters that
  follow -/
  | name {c : Char} {w rest : List Char} : ¬ StartsNumber (c :: w ++ rest) →
      isNameStart c = true → (∀ d ∈ w, isWord d = true) → (∀ d ∈ rest.head?, isWord d = false) →
      Reads (c :: w ++ rest) (.name (c :: w)) rest
  /-- where neither a number nor a name starts, the first operator in order written there -/
  | op {o : Operator} {rest : List Char} : ¬ StartsNumber (o.symbol.toList ++ rest) →
      (∀ c ∈ o.symbol.toList.head?, isNameStart c = false) →
      Operator.scanOrder.find? (fun o' => o'.symbol.toList.isPrefixOf (o.symbol.toList ++ rest)) =
        some o →
      Reads (o.symbol.toList ++ rest) (.op o) rest

/-- The characters that open an operator, or a sign. -/
def marks : List Char := ['-', '+', '=', '!', '<', '>']

theorem isNameStart_of_mark {c : Char} (mark : c ∈ marks) : isNameStart c = false := by
  simp only [marks, List.mem_cons, List.not_mem_nil, or_false] at mark
  rcases mark with rfl | rfl | rfl | rfl | rfl | rfl <;> decide

theorem isNameStart_ranges {c : Char} (start : isNameStart c = true) :
    c = '_' ∨ (65 ≤ c.toNat ∧ c.toNat ≤ 90) ∨ (97 ≤ c.toNat ∧ c.toNat ≤ 122) := by
  simp only [isNameStart, Char.isAlpha, Char.isUpper, Char.isLower, Bool.or_eq_true,
    Bool.and_eq_true, decide_eq_true_eq, beq_iff_eq, ge_iff_le, UInt32.le_iff_toNat_le] at start
  have toNat : c.toNat = c.val.toNat := rfl
  rcases start with letter | rfl
  · rcases letter with ⟨low, high⟩ | ⟨low, high⟩ <;>
      simp only [Char.reduceVal, UInt32.reduceToNat] at low high <;> omega
  · exact .inl rfl

theorem ascii_of_isNameStart {c : Char} (start : isNameStart c = true) :
    c.toNat < 0x80 ∧ (c.toNat < 0x30 ∨ 0x39 < c.toNat) ∧ c ∉ marks := by
  have unmarked : c ∉ marks := fun mark => by
    rw [isNameStart_of_mark mark] at start
    cases start
  suffices ascii : c.toNat < 0x80 ∧ (c.toNat < 0x30 ∨ 0x39 < c.toNat) from
    ⟨ascii.1, ascii.2, unmarked⟩
  rcases isNameStart_ranges start with rfl | letter
  · decide
  · omega

theorem isDecimal_of_isNameStart {c : Char} (start : isNameStart c = true) : isDecimal c = false :=
  isDecimal_of_ascii (ascii_of_isNameStart start).1 (ascii_of_isNameStart start).2.1

theorem isDecimal_of_mark {c : Char} (mark : c ∈ marks) : isDecimal c = false := by
  simp only [marks, List.mem_cons, List.not_mem_nil, or_false] at mark
  rcases mark with rfl | rfl | rfl | rfl | rfl | rfl <;>
    exact isDecimal_of_ascii (by decide) (by decide)

theorem lead_plain {c : Char} (more : List Char) (plain : c ∉ marks) :
    lead c more = if isDecimal c then
        some (.number (c :: more.takeWhile isDecimal) (digitsValue (c :: more.takeWhile isDecimal)),
          more.dropWhile isDecimal)
      else if isNameStart c then some (.name (c :: more.takeWhile isWord), more.dropWhile isWord)
      else none := by
  simp only [marks, List.mem_cons, List.not_mem_nil, or_false, not_or] at plain
  obtain ⟨h1, h2, h3, h4, h5, h6⟩ := plain
  unfold lead
  split <;> simp_all

theorem Reads.digits {sign more : List Char} {d : Char}
    (signs : sign = [] ∨ sign = ['-'] ∨ sign = ['+']) (decimal : isDecimal d = true) :
    Reads (sign ++ d :: more)
      (.number (sign ++ d :: more.takeWhile isDecimal) (signedNumber sign (d :: more.takeWhile isDecimal)))
      (more.dropWhile isDecimal) := by
  have split : sign ++ d :: more = sign ++ (d :: more.takeWhile isDecimal) ++ more.dropWhile isDecimal := by
    simp
  rw [split]
  refine .number signs (List.cons_ne_nil _ _) (fun e member => ?_) Markup.head_dropWhile
  rcases List.mem_cons.1 member with rfl | taken
  · exact decimal
  · exact List.all_eq_true.1 List.all_takeWhile e taken

theorem Reads.word {c : Char} {more : List Char} (start : isNameStart c = true) :
    Reads (c :: more) (.name (c :: more.takeWhile isWord)) (more.dropWhile isWord) := by
  have split : c :: more = c :: more.takeWhile isWord ++ more.dropWhile isWord := by simp
  rw [split]
  refine .name ?_ start (fun e taken => List.all_eq_true.1 List.all_takeWhile e taken)
    Markup.head_dropWhile
  have plain := (ascii_of_isNameStart start).2.2
  simp only [marks, List.mem_cons, List.not_mem_nil, or_false, not_or] at plain
  simp [StartsNumber, isDecimal_of_isNameStart start, plain.1, plain.2.1]

theorem Reads.operator {o : Operator} {rest : List Char}
    (first : Operator.scanOrder.find? (fun o' => o'.symbol.toList.isPrefixOf (o.symbol.toList ++ rest)) =
      some o) :
    Reads (o.symbol.toList ++ rest) (.op o) rest := by
  have decimal : ∀ c ∈ marks, isDecimal c = false := fun c mark => isDecimal_of_mark mark
  have start : ∀ c ∈ marks, isNameStart c = false := fun c mark => isNameStart_of_mark mark
  simp only [marks, List.forall_mem_cons] at decimal start
  refine .op ?_ ?_ first <;> cases o
  all_goals simp [StartsNumber, Operator.symbol, decimal, start]

theorem Reads.operator_of_alone (o : Operator) (rest : List Char)
    (alone : o = .assign → ∀ more, rest ≠ '=' :: more) :
    Reads (o.symbol.toList ++ rest) (.op o) rest := by
  refine Reads.operator ?_
  cases o
  case assign =>
    cases rest with
    | nil => rfl
    | cons r more =>
      have other : ('=' == r) = false := beq_eq_false_iff_ne.2 fun same => alone rfl more (by rw [same])
      simp [Operator.scanOrder, Operator.symbol, List.find?, List.isPrefixOf, other]
  all_goals simp [Operator.scanOrder, Operator.symbol, List.find?, List.isPrefixOf]

theorem reads_of_lead {c : Char} {rest after : List Char} {t : Token}
    (h : lead c rest = some (t, after)) : Reads (c :: rest) t after := by
  unfold lead at h
  split at h
  · next d more =>
    split at h
    · next decimal =>
      cases h
      simpa [signedNumber, digitsValue_eq] using
        @Reads.digits ['-'] more _ (.inr (.inl rfl)) decimal
    · cases h
  · next d more =>
    split at h
    · next decimal =>
      cases h
      simpa [signedNumber, digitsValue_eq] using
        @Reads.digits ['+'] more _ (.inr (.inr rfl)) decimal
    · split at h
      · next equals =>
        cases h
        rw [equals]
        simpa [Operator.symbol] using Reads.operator_of_alone .increase _ (by simp)
      · cases h
  · cases h
    simpa [Operator.symbol] using Reads.operator_of_alone .eq _ (by simp)
  · cases h
    simpa [Operator.symbol] using Reads.operator_of_alone .ne _ (by simp)
  · next alone =>
    cases h
    simpa [Operator.symbol] using Reads.operator_of_alone .assign _ fun _ more same => alone more same
  · cases h
    simpa [Operator.symbol] using Reads.operator_of_alone .lt _ (by simp)
  · cases h
    simpa [Operator.symbol] using Reads.operator_of_alone .gt _ (by simp)
  · -- no sign or operator here: a digit opens a number, a name start a name
    split at h
    · next decimal =>
      cases h
      simpa [signedNumber, digitsValue_eq] using
        @Reads.digits [] rest _ (.inl rfl) decimal
    · split at h
      · next start =>
        cases h
        exact Reads.word start
      · cases h

theorem lead_of_reads {cs after : List Char} {t : Token} (reads : Reads cs t after) :
    ∃ c rest, cs = c :: rest ∧ lead c rest = some (t, after) := by
  cases reads with
  | @number sign ds after signs nonempty digits stop =>
    obtain ⟨d, ds, rfl⟩ := List.exists_cons_of_ne_nil nonempty
    have run := Markup.takeWhile_run (p := isDecimal) (fun e taken => digits e (List.mem_cons_of_mem _ taken))
      stop
    have decimal := digits d List.mem_cons_self
    rcases signs with rfl | rfl | rfl
    · -- no sign: the digit itself opens the number
      have plain : d ∉ marks := fun mark => by
        rw [isDecimal_of_mark mark] at decimal
        cases decimal
      refine ⟨d, ds ++ after, rfl, ?_⟩
      rw [lead_plain _ plain, if_pos decimal, run.1, run.2]
      simp [signedNumber, digitsValue_eq]
    · refine ⟨'-', d :: ds ++ after, rfl, ?_⟩
      simp [lead, decimal, run.1, run.2, signedNumber, digitsValue_eq]
    · refine ⟨'+', d :: ds ++ after, rfl, ?_⟩
      simp [lead, decimal, run.1, run.2, signedNumber, digitsValue_eq]
  | @name c w after _ start word stop =>
    have run := Markup.takeWhile_run (p := isWord) word stop
    refine ⟨c, w ++ after, rfl, ?_⟩
    rw [lead_plain _ (ascii_of_isNameStart start).2.2, if_neg (by simp [isDecimal_of_isNameStart start]),
      if_pos start, run.1, run.2]
  | @op o after _ _ first =>
    have equals : isDecimal '=' = false := isDecimal_of_mark (by simp [marks])
    cases o
    case assign =>
      -- after `=` comes no second `=`, else `==` would come first
      refine ⟨'=', after, by simp [Operator.symbol], ?_⟩
      cases after with
      | nil => simp [lead]
      | cons r more =>
        by_cases same : r = '='
        · subst same
          simp [Operator.scanOrder, Operator.symbol, List.find?, List.isPrefixOf] at first
        · simp [lead, same]
    case increase => exact ⟨'+', '=' :: after, by simp [Operator.symbol], by simp [lead, equals]⟩
    case eq => exact ⟨'=', '=' :: after, by simp [Operator.symbol], by simp [lead]⟩
    case ne => exact ⟨'!', '=' :: after, by simp [Operator.symbol], by simp [lead]⟩
    case lt => exact ⟨'<', after, by simp [Operator.symbol], by simp [lead]⟩
    case gt => exact ⟨'>', after, by simp [Operator.symbol], by simp [lead]⟩

theorem lead_eq_some_iff {c : Char} {rest after : List Char} {t : Token} :
    lead c rest = some (t, after) ↔ Reads (c :: rest) t after := by
  constructor
  · exact reads_of_lead
  · intro reads
    obtain ⟨c', rest', same, found⟩ := lead_of_reads reads
    injection same with first others
    rw [first, others]
    exact found

/-- A text the pattern reads to its end: white space, then a token where the white space ends,
then the rest read the same way; or white space alone. -/
inductive Scanned : List Char → List Token → Prop
  | blank {ws : List Char} : (∀ d ∈ ws, isSpace d = true) → Scanned ws []
  | token {ws rest after : List Char} {c : Char} {t : Token} {ts : List Token} :
      (∀ d ∈ ws, isSpace d = true) → isSpace c = false → Reads (c :: rest) t after →
      Scanned after ts → Scanned (ws ++ c :: rest) (t :: ts)

/-- Where the pattern stops reading a text, with the run of non-blank characters it refuses:
after white space and tokens, white space and then a character that starts no token. -/
inductive Stops : List Char → List Char → Prop
  | here {ws rest : List Char} {c : Char} : (∀ d ∈ ws, isSpace d = true) → isSpace c = false →
      (∀ t after, ¬ Reads (c :: rest) t after) →
      Stops (ws ++ c :: rest) (c :: rest.takeWhile fun d => !isSpace d)
  | later {ws rest after bad : List Char} {c : Char} {t : Token} :
      (∀ d ∈ ws, isSpace d = true) → isSpace c = false → Reads (c :: rest) t after →
      Stops after bad → Stops (ws ++ c :: rest) bad

theorem dropWhile_blank {ws rest : List Char} {c : Char} (blank : ∀ d ∈ ws, isSpace d = true)
    (solid : isSpace c = false) : (ws ++ c :: rest).dropWhile isSpace = c :: rest := by
  rw [List.dropWhile_append_of_pos blank, List.dropWhile_cons_of_neg (by simp [solid])]

theorem blank_of_dropWhile {cs rest : List Char} {c : Char} (h : cs.dropWhile isSpace = c :: rest) :
    cs = cs.takeWhile isSpace ++ c :: rest ∧ (∀ d ∈ cs.takeWhile isSpace, isSpace d = true) ∧
      isSpace c = false := by
  refine ⟨by rw [← h, List.takeWhile_append_dropWhile],
    fun d taken => List.all_eq_true.1 List.all_takeWhile d taken, ?_⟩
  have stops := Markup.head_dropWhile (p := isSpace) (l := cs)
  rw [h] at stops
  exact stops c rfl

theorem scan_of_lead {ws rest after : List Char} {c : Char} {t : Token}
    (blank : ∀ d ∈ ws, isSpace d = true) (solid : isSpace c = false)
    (found : lead c rest = some (t, after)) : scan (ws ++ c :: rest) = (scan after).map (t :: ·) := by
  rw [scan]
  split
  · next empty =>
    rw [dropWhile_blank blank solid] at empty
    cases empty
  · next c' rest' split =>
    rw [dropWhile_blank blank solid] at split
    injection split with same others
    subst same others
    split
    · next t' after' found' =>
      rw [found] at found'
      injection found' with same
      injection same with first second
      subst first second
      cases scan after <;> rfl
    · next missing =>
      rw [found] at missing
      cases missing

theorem scan_of_no_lead {ws rest : List Char} {c : Char} (blank : ∀ d ∈ ws, isSpace d = true)
    (solid : isSpace c = false) (unread : lead c rest = none) :
    scan (ws ++ c :: rest) = .error (.unexpected (c :: rest.takeWhile fun d => !isSpace d)) := by
  rw [scan]
  split
  · next empty =>
    rw [dropWhile_blank blank solid] at empty
    cases empty
  · next c' rest' split =>
    rw [dropWhile_blank blank solid] at split
    injection split with same others
    subst same others
    rw [unread]

theorem scan_of_blank {ws : List Char} (blank : ∀ d ∈ ws, isSpace d = true) : scan ws = .ok [] := by
  rw [scan]
  split
  · rfl
  · next c rest split =>
    rw [List.dropWhile_eq_nil_iff.2 blank] at split
    cases split

theorem scan_eq_ok_iff {cs : List Char} {ts : List Token} : scan cs = .ok ts ↔ Scanned cs ts := by
  constructor
  · intro scanned
    fun_induction scan cs generalizing ts with
    | case1 cs empty =>
      cases scanned
      exact .blank (List.dropWhile_eq_nil_iff.1 empty)
    | case2 cs c rest split t after found ts' rested ih =>
      cases scanned
      obtain ⟨whole, blank, solid⟩ := blank_of_dropWhile split
      rw [whole]
      exact .token blank solid (lead_eq_some_iff.1 found) (ih rested)
    | case3 => cases scanned
    | case4 => cases scanned
  · intro scanned
    induction scanned with
    | blank blank => exact scan_of_blank blank
    | token blank solid reads _ ih =>
      rw [scan_of_lead blank solid (lead_eq_some_iff.2 reads), ih]
      rfl

theorem scan_eq_error_iff {cs : List Char} {e : LogicError} :
    scan cs = .error e ↔ ∃ bad, e = .unexpected bad ∧ Stops cs bad := by
  constructor
  · intro failed
    fun_induction scan cs generalizing e with
    | case1 => cases failed
    | case2 => cases failed
    | case3 cs c rest split t after found e' rested ih =>
      cases failed
      obtain ⟨bad, rfl, stops⟩ := ih rested
      obtain ⟨whole, blank, solid⟩ := blank_of_dropWhile split
      rw [whole]
      exact ⟨bad, rfl, .later blank solid (lead_eq_some_iff.1 found) stops⟩
    | case4 cs c rest split unread =>
      cases failed
      obtain ⟨whole, blank, solid⟩ := blank_of_dropWhile split
      rw [whole]
      refine ⟨_, rfl, .here blank solid fun t after reads => ?_⟩
      rw [lead_eq_some_iff.2 reads] at unread
      cases unread
  · rintro ⟨bad, rfl, stops⟩
    induction stops with
    | @here ws rest c blank solid unread =>
      have missing : lead c rest = none := by
        cases found : lead c rest with
        | none => rfl
        | some p => exact absurd (lead_eq_some_iff.1 found) (unread p.1 p.2)
      exact scan_of_no_lead blank solid missing
    | later blank solid reads _ ih =>
      rw [scan_of_lead blank solid (lead_eq_some_iff.2 reads), ih]
      rfl

theorem Reads.text_append {cs after : List Char} {t : Token} (reads : Reads cs t after) :
    cs = t.text ++ after := by
  cases reads <;> simp [text]

theorem Scanned.pieces {cs : List Char} {ts : List Token} (scanned : Scanned cs ts) :
    ∃ (gaps : List (List Char)) (last : List Char), gaps.length = ts.length ∧
      (∀ g ∈ gaps, ∀ d ∈ g, isSpace d = true) ∧ (∀ d ∈ last, isSpace d = true) ∧
      cs = (List.zipWith (fun g t => g ++ t.text) gaps ts).flatten ++ last := by
  induction scanned with
  | @blank ws blank => exact ⟨[], ws, rfl, by simp, blank, by simp⟩
  | @token ws rest after c t ts blank _ reads _ ih =>
    obtain ⟨gaps, last, length, spaces, ending, whole⟩ := ih
    refine ⟨ws :: gaps, last, by simp [length], ?_, ending, ?_⟩
    · intro g member
      rcases List.mem_cons.1 member with rfl | later
      · exact blank
      · exact spaces g later
    · rw [reads.text_append, whole]
      simp

theorem Scanned.pieces_of_trimmed {cs : List Char} {ts : List Token} (scanned : Scanned cs ts)
    (trimmed : ∀ c ∈ cs.getLast?, isSpace c = false) :
    ∃ gaps : List (List Char), gaps.length = ts.length ∧ (∀ g ∈ gaps, ∀ d ∈ g, isSpace d = true) ∧
      cs = (List.zipWith (fun g t => g ++ t.text) gaps ts).flatten := by
  obtain ⟨gaps, last, length, spaces, ending, whole⟩ := scanned.pieces
  refine ⟨gaps, length, spaces, ?_⟩
  -- white space left after the last token would be the last character of the text
  rcases List.eq_nil_or_concat last with empty | ⟨front, c, rfl⟩
  · rw [whole, empty, List.append_nil]
  · have space := ending c (by simp)
    have solid := trimmed c (by rw [whole]; simp)
    rw [space] at solid
    cases solid

end Token

namespace Text

theorem getLast?_trimRight (l : List Char) : ∀ c ∈ (trimRight l).getLast?, isSpace c = false := by
  intro c last
  rw [trimRight, List.getLast?_reverse] at last
  exact Markup.head_dropWhile c last

end Text

namespace Logic

/-- The logic tokens stand for, whatever role it plays: a lone name is the guard `name > 0`, and
a name, an operator and a number within the digit limit are read as written. -/
inductive Stands : List Token → Logic → Prop
  | lone {n : List Char} : Stands [.name n] ⟨.gt, canonicalName (String.ofList n), 0⟩
  | triple {n s : List Char} {o : Operator} {v : Int} : digitCount s ≤ Number.decimalDigitLimit →
      Stands [.name n, .op o, .number s v] ⟨o, canonicalName (String.ofList n), v⟩

/-- The first check that the tokens after the name fail, in the order the checks are made: an
operator follows the name, a value follows the operator, the value is a number, the number keeps
to the digit limit, and nothing follows it. -/
inductive TailRefusal : List Token → LogicError → Prop
  | badOperation {t : Token} {more : List Token} : (∀ o, t ≠ .op o) →
      TailRefusal (t :: more) (.badOperation t.text)
  | missingValue {o : Operator} : TailRefusal [.op o] (.missingValue o)
  | notNumber {o : Operator} {t : Token} {more : List Token} : (∀ s v, t ≠ .number s v) →
      TailRefusal (.op o :: t :: more) .notNumber
  | tooManyDigits {o : Operator} {s : List Char} {v : Int} {more : List Token} :
      Number.decimalDigitLimit < digitCount s →
      TailRefusal (.op o :: .number s v :: more) (.tooManyDigits (digitCount s))
  | trailing {o : Operator} {s : List Char} {v : Int} {t : Token} {more : List Token} :
      digitCount s ≤ Number.decimalDigitLimit →
      TailRefusal (.op o :: .number s v :: t :: more) (.trailing t.text)

/-- The first check that the tokens of logic text fail: a name opens them; then the checks on
what follows the name; last, the operator suits the role. -/
inductive Refusal (role : Role) : List Token → LogicError → Prop
  | noName {ts : List Token} : (∀ n more, ts ≠ .name n :: more) → Refusal role ts .noName
  | tail {n : List Char} {more : List Token} {e : LogicError} : TailRefusal more e →
      Refusal role (.name n :: more) e
  | misplaced {ts : List Token} {l : Logic} : Stands ts l → l.op.role ≠ role →
      Refusal role ts (if role = .guard then .notGuard else .notState)

variable {code : String} {role : Role} {ts : List Token}

theorem parse_of_stands (scanned : Token.scan (Text.trimRight code.toList) = .ok ts) {l : Logic}
    (stands : Stands ts l) (suits : l.op.role = role) : Logic.parse code role = .ok l := by
  unfold Logic.parse
  rw [scanned]
  cases stands with
  | lone => simp [tail, ← suits]
  | triple within => simp [tail, ← suits, Nat.not_lt.2 within]

theorem parse_of_refusal (scanned : Token.scan (Text.trimRight code.toList) = .ok ts)
    {e : LogicError} (refusal : Refusal role ts e) : Logic.parse code role = .error e := by
  unfold Logic.parse
  rw [scanned]
  cases refusal with
  | noName other =>
    cases ts with
    | nil => rfl
    | cons t more =>
      cases t with
      | name n => exact absurd rfl (other n more)
      | _ => rfl
  | tail refused =>
    cases refused with
    | badOperation other =>
      rename_i t more
      cases t with
      | op o => exact absurd rfl (other o)
      | _ => rfl
    | missingValue => rfl
    | notNumber other =>
      rename_i t more
      cases t with
      | number s v => exact absurd rfl (other s v)
      | _ => rfl
    | tooManyDigits past => simp [tail, past]
    | trailing within => simp [tail, Nat.not_lt.2 within]
  | misplaced stands other =>
    cases stands with
    | lone => simp [tail, other]
    | triple within => simp [tail, other, Nat.not_lt.2 within]

theorem stands_or_refused (role : Role) (ts : List Token) :
    (∃ l, Stands ts l ∧ l.op.role = role) ∨ ∃ e, Refusal role ts e := by
  -- a lone name or a full triple stands for logic, which then suits the role or not
  have standing : ∀ l, Stands ts l → (∃ l, Stands ts l ∧ l.op.role = role) ∨ ∃ e, Refusal role ts e :=
    fun l stands => if suits : l.op.role = role then .inl ⟨l, stands, suits⟩
      else .inr ⟨_, .misplaced stands suits⟩
  match ts with
  | .name n :: [] => exact standing _ .lone
  | .name n :: .op o :: [] => exact .inr ⟨_, .tail .missingValue⟩
  | .name n :: .op o :: .number s v :: more =>
    by_cases past : Number.decimalDigitLimit < digitCount s
    · exact .inr ⟨_, .tail (.tooManyDigits past)⟩
    · cases more with
      | nil => exact standing _ (.triple (Nat.not_lt.1 past))
      | cons t more => exact .inr ⟨_, .tail (.trailing (Nat.not_lt.1 past))⟩
  | .name n :: .op o :: .name m :: more => exact .inr ⟨_, .tail (.notNumber (by simp))⟩
  | .name n :: .op o :: .op o' :: more => exact .inr ⟨_, .tail (.notNumber (by simp))⟩
  | .name n :: .name m :: more => exact .inr ⟨_, .tail (.badOperation (by simp))⟩
  | .name n :: .number s v :: more => exact .inr ⟨_, .tail (.badOperation (by simp))⟩
  | .number s v :: more => exact .inr ⟨_, .noName (by simp)⟩
  | .op o :: more => exact .inr ⟨_, .noName (by simp)⟩
  | [] => exact .inr ⟨_, .noName (by simp)⟩

theorem parse_eq_ok_iff_of_scan (scanned : Token.scan (Text.trimRight code.toList) = .ok ts)
    (l : Logic) : Logic.parse code role = .ok l ↔ Stands ts l ∧ l.op.role = role := by
  constructor
  · intro parsed
    rcases stands_or_refused role ts with ⟨l', stands, suits⟩ | ⟨e, refusal⟩
    · rw [parse_of_stands scanned stands suits] at parsed
      injection parsed with same
      subst same
      exact ⟨stands, suits⟩
    · rw [parse_of_refusal scanned refusal] at parsed
      cases parsed
  · rintro ⟨stands, suits⟩
    exact parse_of_stands scanned stands suits

theorem parse_eq_error_iff_of_scan (scanned : Token.scan (Text.trimRight code.toList) = .ok ts)
    (e : LogicError) : Logic.parse code role = .error e ↔ Refusal role ts e := by
  constructor
  · intro parsed
    rcases stands_or_refused role ts with ⟨l, stands, suits⟩ | ⟨e', refusal⟩
    · rw [parse_of_stands scanned stands suits] at parsed
      cases parsed
    · rw [parse_of_refusal scanned refusal] at parsed
      injection parsed with same
      subst same
      exact refusal
  · exact parse_of_refusal scanned

theorem parse_of_scan_error {e : LogicError}
    (failed : Token.scan (Text.trimRight code.toList) = .error e) : Logic.parse code role = .error e := by
  unfold Logic.parse
  rw [failed]

/-- Reading logic text follows the pattern of its tokens. Scanning the text with its trailing
white space trimmed succeeds exactly on a sequence of tokens the pattern reads to the end, and then
the skipped white space and the token texts make up the trimmed text; it fails exactly where the
pattern refuses a run. After a successful scan, the text is read as logic exactly when its tokens
stand for logic whose operator suits the role, and is refused with the error of the first check
its tokens fail; a failed scan is refused with the run the pattern refuses. -/
theorem reading_follows_pattern (code : String) (role : Role) :
    (∀ ts, Token.scan (Text.trimRight code.toList) = .ok ts ↔
      Token.Scanned (Text.trimRight code.toList) ts) ∧
    (∀ e, Token.scan (Text.trimRight code.toList) = .error e ↔
      ∃ bad, e = .unexpected bad ∧ Token.Stops (Text.trimRight code.toList) bad) ∧
    (∀ ts, Token.scan (Text.trimRight code.toList) = .ok ts →
      (∃ gaps : List (List Char), gaps.length = ts.length ∧
        (∀ g ∈ gaps, ∀ d ∈ g, isSpace d = true) ∧
        Text.trimRight code.toList = (List.zipWith (fun g t => g ++ t.text) gaps ts).flatten) ∧
      (∀ l, Logic.parse code role = .ok l ↔ Stands ts l ∧ l.op.role = role) ∧
      (∀ e, Logic.parse code role = .error e ↔ Refusal role ts e)) ∧
    (∀ e, Token.scan (Text.trimRight code.toList) = .error e → Logic.parse code role = .error e) := by
  refine ⟨fun ts => Token.scan_eq_ok_iff, fun e => Token.scan_eq_error_iff, ?_,
    fun e failed => parse_of_scan_error failed⟩
  intro ts scanned
  exact ⟨(Token.scan_eq_ok_iff.1 scanned).pieces_of_trimmed (Text.getLast?_trimRight _),
    parse_eq_ok_iff_of_scan scanned, parse_eq_error_iff_of_scan scanned⟩

/-- The text `x = ` and a value of 4300 zeros and a one, whose digits, the zeros counted, pass
the digit limit. -/
def paddedCode : String :=
  String.ofList (['x', ' ', '=', ' '] ++ List.replicate 4300 '0' ++ ['1'])

set_option maxRecDepth 100000 in
/-- The tokens of `paddedCode` are a name, the operator `=` of state logic and the number one,
yet the text is refused for the digits of its value. -/
theorem zero_padded_value_refused :
    Token.scan (Text.trimRight paddedCode.toList) =
        .ok [.name ['x'], .op .assign, .number (List.replicate 4300 '0' ++ ['1']) 1] ∧
      Operator.assign.role = .state ∧
      Logic.parse paddedCode .state = .error (.tooManyDigits 4301) := by
  -- the text is taken apart as a list of characters, so that the kernel does not encode it
  have scanned : Token.scan (Text.trimRight paddedCode.toList) =
      .ok [.name ['x'], .op .assign, .number (List.replicate 4300 '0' ++ ['1']) 1] := by
    unfold paddedCode
    rw [String.toList_ofList]
    decide +kernel
  have count : digitCount (List.replicate 4300 '0' ++ ['1']) = 4301 := by decide +kernel
  refine ⟨scanned, rfl, ?_⟩
  rw [← count]
  exact parse_of_refusal scanned (.tail (.tooManyDigits (by rw [count]; decide)))

end Logic

end Gamebook
