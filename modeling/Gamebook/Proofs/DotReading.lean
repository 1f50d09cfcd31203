import Mathlib
import Gamebook.Story.Dot
import Gamebook.Proofs.MarkupReading
import Gamebook.Proofs.CheckedPlay
/- Reading the DOT text of a story back. A reader of the statements the graph is made of (an
   identifier, bare or quoted, then an edge arrow and a second identifier or not, then an
   attribute list or not) reads every line of the graph of a story back to the page or the choice
   it was written for: a node names its page and carries its label, an edge names its page and
   its link, with the end written as `END`, and is dashed exactly when its choice is guarded. No
   line holds a line feed, so the text has one line per page and per choice besides the five of
   its frame. A DOT keyword is a keyword in any case of its letters, so names are read back only
   where they are not a keyword in another case, as canonical names never are; and a link `END`
   reads back as the end node. Main statement: `Dot.render_reads_back`. -/

namespace Gamebook.Dot
open Unicode

/-! ### Reading identifiers -/

/-- The characters of a bare identifier: ASCII letters, digits and the underscore, and every
character outside ASCII. -/
def isIdChar (c : Char) : Bool := c.isAlpha || c.isDigit || c == '_' || 0x80 ≤ c.toNat

/-- A word is a keyword in any case of its letters. -/
def isKeyword (w : List Char) : Bool := keywords.contains (String.ofList (w.map Char.toLower))

/-- The character an escape in a quoted string stands for. -/
def unescape : Char → Option Char
  | '\\' => some '\\'
  | '"' => some '"'
  | 'n' => some '\n'
  | _ => none

/-- The text of a quoted string up to its closing quote, its escapes undone, and what follows. -/
def readQuoted : List Char → Option (List Char × List Char)
  | [] => none
  | '"' :: rest => some ([], rest)
  | '\\' :: e :: rest => do
    let c ← unescape e
    let (s, after) ← readQuoted rest
    pure (c :: s, after)
  | c :: rest => do
    let (s, after) ← readQuoted rest
    pure (c :: s, after)

/-- The identifier at the front of a text, and what follows it: a quoted string, or a bare word
that does not open with a digit and is no keyword. -/
def readId : List Char → Option (String × List Char)
  | '"' :: rest => (readQuoted rest).map fun r => (String.ofList r.1, r.2)
  | cs =>
    match cs.takeWhile isIdChar with
    | [] => none
    | c :: w =>
      if c.isDigit || isKeyword (c :: w) then none
      else some (String.ofList (c :: w), cs.dropWhile isIdChar)

theorem readQuoted_shorter {cs s after : List Char} (read : readQuoted cs = some (s, after)) :
    after.length < cs.length := by
  fun_induction readQuoted cs generalizing s after with
  | case1 => cases read
  | case2 rest =>
    cases read
    simp
  | case3 e rest ih =>
    simp only [Option.bind_eq_bind, Option.bind_eq_some_iff] at read
    obtain ⟨c, -, ⟨s', after'⟩, found, same⟩ := read
    cases same
    have := ih found
    simp only [List.length_cons]
    omega
  | case4 c rest _ _ ih =>
    simp only [Option.bind_eq_bind, Option.bind_eq_some_iff] at read
    obtain ⟨⟨s', after'⟩, found, same⟩ := read
    cases same
    have := ih found
    simp only [List.length_cons]
    omega

theorem readId_shorter {cs after : List Char} {s : String} (read : readId cs = some (s, after)) :
    after.length < cs.length := by
  unfold readId at read
  split at read
  · next rest =>
    obtain ⟨r, found, same⟩ := Option.map_eq_some_iff.1 read
    cases same
    have := readQuoted_shorter found
    simp only [List.length_cons]
    omega
  · split at read
    · cases read
    · next c w taken =>
      split at read
      · cases read
      · cases read
        -- the word taken is not empty, so what is left is shorter
        have whole := List.takeWhile_append_dropWhile (p := isIdChar) (l := cs)
        rw [taken] at whole
        have := congrArg List.length whole
        simp only [List.length_append, List.length_cons] at this
        omega

/-! ### Reading statements -/

/-- What follows a literal at the front of a text. -/
def after (lit cs : List Char) : Option (List Char) :=
  if lit.isPrefixOf cs then some (cs.drop lit.length) else none

theorem after_append (lit rest : List Char) : after lit (lit ++ rest) = some rest := by
  simp [after]

theorem after_shorter {lit cs rest : List Char} (found : after lit cs = some rest) :
    rest.length ≤ cs.length := by
  unfold after at found
  split at found
  · cases found
    simp
  · cases found

/-- An attribute `key=value` at the front of a text, and what follows it. -/
def readAttr (cs : List Char) : Option ((String × String) × List Char) := do
  let (k, r) ← readId cs
  let r ← after ['='] r
  let (v, r) ← readId r
  pure ((k, v), r)

theorem readAttr_shorter {cs rest : List Char} {kv : String × String}
    (read : readAttr cs = some (kv, rest)) : rest.length < cs.length := by
  simp only [readAttr, Option.bind_eq_bind, Option.bind_eq_some_iff, Option.pure_def,
    Option.some.injEq] at read
  obtain ⟨⟨k, r⟩, key, r', sign, ⟨v, r''⟩, value, same⟩ := read
  cases same
  dsimp only at sign ⊢
  have := readId_shorter key
  have := after_shorter sign
  have := readId_shorter value
  omega

/-- An attribute list after its opening bracket, to the end of the statement: attributes parted
by `, `, then `];`. -/
def readAttrs (cs : List Char) : Option (List (String × String)) :=
  match _pair : readAttr cs with
  | none => none
  | some (kv, r) =>
    if r = [']', ';'] then some [kv]
    else
      match _parted : after [',', ' '] r with
      | none => none
      | some more => (kv :: ·) <$> readAttrs more
termination_by cs.length
decreasing_by
  have := readAttr_shorter _pair
  have := after_shorter _parted
  omega

/-- The end of a statement: `;` alone, or an attribute list and `;`. -/
def readTail : List Char → Option (List (String × String))
  | [';'] => some []
  | ' ' :: '[' :: more => readAttrs more
  | _ => none

/-- A statement of a graph: a node with its attributes, or an edge with its attributes. -/
inductive Stmt where
  | node (id : String) (attrs : List (String × String))
  | edge (source target : String) (attrs : List (String × String))
  deriving DecidableEq, Repr

/-- A statement on a line of its own, indented by two blanks. -/
def readStmt (cs : List Char) : Option Stmt := do
  let (a, rest) ← readId (← after ['\x20', '\x20'] cs)
  match after [' ', '-', '>', ' '] rest with
  | some rest' =>
    let (b, rest'') ← readId rest'
    let attrs ← readTail rest''
    pure (.edge a b attrs)
  | none =>
    let attrs ← readTail rest
    pure (.node a attrs)

/-! ### Writing identifiers -/

/-- How a quoted string writes a character: backslash, quote and line feed escaped. -/
def escapeChar (c : Char) : List Char :=
  if c = '\\' then ['\\', '\\'] else if c = '"' then ['\\', '"'] else if c = '\n' then ['\\', 'n']
  else [c]

theorem quote_toList (s : String) :
    (quote s).toList = '"' :: (s.toList.flatMap escapeChar ++ ['"']) := by
  have each : ∀ c : Char, (if c == '\\' then "\\\\" else if c == '"' then "\\\""
      else if c == '\n' then "\\n" else c.toString).toList = escapeChar c := by
    intro c
    unfold escapeChar
    split_ifs <;> simp_all
  simp only [quote, String.toList_append, String.toList_join, List.flatMap_map, each]
  rfl

theorem readQuoted_escape (s rest : List Char) :
    readQuoted (s.flatMap escapeChar ++ '"' :: rest) = some (s, rest) := by
  induction s with
  | nil => rfl
  | cons c s ih =>
    rw [List.flatMap_cons, List.append_assoc]
    by_cases backslash : c = '\\'
    · subst backslash
      simp [escapeChar, readQuoted, unescape, ih]
    by_cases quoteMark : c = '"'
    · subst quoteMark
      simp [escapeChar, readQuoted, unescape, ih]
    by_cases newline : c = '\n'
    · subst newline
      simp [escapeChar, readQuoted, unescape, ih]
    simp only [escapeChar, backslash, quoteMark, newline, if_false, List.singleton_append]
    rw [readQuoted.eq_4 c _ quoteMark fun _ _ same => absurd same backslash, ih]
    rfl

theorem readId_quote (s : String) (rest : List Char) :
    readId ((quote s).toList ++ rest) = some (s, rest) := by
  rw [quote_toList, List.cons_append, List.append_assoc, List.singleton_append, readId,
    readQuoted_escape]
  simp

theorem newline_not_mem_quote (s : String) : '\n' ∉ (quote s).toList := by
  have plain : ∀ c, '\n' ∉ escapeChar c := by
    intro c
    unfold escapeChar
    split_ifs <;> simp_all [eq_comm]
  simp [quote_toList, plain]

theorem ascii_classes :
    (∀ n : Fin 128, isAlnum (Char.ofNat n.val) = true →
      ((Char.ofNat n.val).isAlpha || (Char.ofNat n.val).isDigit) = true) ∧
    (∀ n : Fin 10, isDigit (Char.ofNat (48 + n.val)) = true) ∧
    (∀ n : Fin 26, lowerChar (Char.ofNat (65 + n.val)) ≠ [Char.ofNat (65 + n.val)]) := by
  decide +kernel

theorem isIdChar_of_isAlnum {c : Char} (alnum : isAlnum c = true) : isIdChar c = true := by
  by_cases high : 0x80 ≤ c.toNat
  · simp [isIdChar, high]
  · have own := ascii_classes.1 ⟨c.toNat, by omega⟩
    rw [Char.ofNat_toNat] at own
    simp only [isIdChar, own alnum, Bool.true_or]

theorem isDigit_of_ascii {c : Char} (digit : c.isDigit = true) : isDigit c = true :=
  of_isDigit (P := fun c => isDigit c = true) ascii_classes.2.1 digit

theorem readId_ident {s t : String} (written : ident s = .ok t)
    (readable : isKeyword s.toList = keywords.contains s) {rest : List Char}
    (stop : ∀ c ∈ rest.head?, isIdChar c = false) : readId (t.toList ++ rest) = some (s, rest) := by
  unfold ident at written
  split at written
  · cases written
  · next c tail chars =>
    dsimp only at written
    split at written
    · cases written
      exact readId_quote s rest
    · next plain =>
      cases written
      simp only [Bool.or_eq_true, not_or, Bool.not_eq_true, List.isEmpty_eq_false_iff,
        Bool.not_eq_false', List.all_eq_true] at plain
      obtain ⟨⟨⟨word, digit⟩, -⟩, alnum⟩ := plain
      have each : ∀ d ∈ s.toList, isIdChar d = true := by
        intro d member
        by_cases under : d = '_'
        · simp [isIdChar, under]
        · exact isIdChar_of_isAlnum (alnum d (List.mem_filter.2 ⟨member, by simpa using under⟩))
      obtain ⟨taken, left⟩ := Markup.takeWhile_run each stop
      rw [chars] at taken left each
      have first : c ≠ '"' := fun same => by
        have := each c List.mem_cons_self
        rw [same] at this
        cases this
      have ascii : c.isDigit = false := by
        cases h : c.isDigit
        · rfl
        · rw [isDigit_of_ascii h] at digit
          cases digit
      have keyword : isKeyword (c :: tail) = false := by rw [← chars, readable, word]
      rw [chars, List.cons_append, readId.eq_2 _ (fun r same => first (List.cons.inj same).1),
        ← List.cons_append, taken]
      dsimp only
      rw [if_neg (by simp [ascii, keyword]), left, ← chars, String.ofList_toList]

theorem exists_ident {s : String} (named : s ≠ "") : ∃ t, ident s = .ok t := by
  unfold ident
  split
  · next chars => exact absurd (String.toList_eq_nil_iff.1 chars) named
  · dsimp only
    split
    · exact ⟨_, rfl⟩
    · exact ⟨_, rfl⟩

theorem newline_not_mem_ident {s t : String} (written : ident s = .ok t) : '\n' ∉ t.toList := by
  unfold ident at written
  split at written
  · cases written
  · dsimp only at written
    split at written
    · cases written
      exact newline_not_mem_quote s
    · next plain =>
      cases written
      simp only [Bool.or_eq_true, not_or, Bool.not_eq_true, Bool.not_eq_false',
        List.all_eq_true] at plain
      intro member
      have line := plain.2 '\n' (List.mem_filter.2 ⟨member, by decide⟩)
      exact absurd (ascii_classes.1 ⟨10, by omega⟩ line) (by decide)

theorem toLower_of_canonical {s : String} (canonical : canonicalName s = s) :
    ∀ d ∈ s.toList, d.toLower = d := by
  intro d member
  have stable := stable_of_canonical canonical d member
  unfold Char.toLower
  rw [dif_neg]
  rintro ⟨low, high⟩
  simp only [ge_iff_le, UInt32.le_iff_toNat_le] at low high
  have bounds : 65 ≤ d.toNat ∧ d.toNat ≤ 90 := ⟨low, high⟩
  exact of_range (P := fun d => lowerChar d ≠ [d]) ascii_classes.2.2 bounds.1 (by omega) stable.2

theorem isKeyword_of_canonical {s : String} (canonical : canonicalName s = s) :
    isKeyword s.toList = keywords.contains s := by
  unfold isKeyword
  rw [List.map_congr_left (toLower_of_canonical canonical), List.map_id', String.ofList_toList]

/-! ### Reading statements back -/

/-- A text that reads as an identifier for `value`, before anything that cannot go on a bare
word. -/
def Spells (text value : String) : Prop :=
  ∀ rest : List Char, (∀ c ∈ rest.head?, isIdChar c = false) →
    readId (text.toList ++ rest) = some (value, rest)

theorem spells_ident {s t : String} (written : ident s = .ok t)
    (readable : isKeyword s.toList = keywords.contains s) : Spells t s :=
  fun _ stop => readId_ident written readable stop

theorem spells_quote (s : String) : Spells (quote s) s := fun rest _ => readId_quote s rest

theorem spells_words : ∀ w ∈ ["label", "fillcolor", "lightgreen", "style", "dashed"], Spells w w := by
  have plain : ∀ w ∈ ["label", "fillcolor", "lightgreen", "style", "dashed"],
      ident w = .ok w ∧ isKeyword w.toList = keywords.contains w := by decide +kernel
  intro w member
  exact spells_ident (plain w member).1 (plain w member).2

theorem stop_of_head {c : Char} {rest : List Char} (stop : isIdChar c = false) :
    ∀ d ∈ (c :: rest).head?, isIdChar d = false := by
  simpa using stop

variable {kt k vt v : String}

theorem readAttr_spells (key : Spells kt k) (value : Spells vt v) {rest : List Char}
    (stop : ∀ c ∈ rest.head?, isIdChar c = false) :
    readAttr (kt.toList ++ '=' :: (vt.toList ++ rest)) = some ((k, v), rest) := by
  have sign : after ['='] ('=' :: (vt.toList ++ rest)) = some (vt.toList ++ rest) :=
    after_append ['='] _
  simp only [readAttr, Option.bind_eq_bind, key _ (stop_of_head (show isIdChar '=' = false by decide)),
    Option.bind_some, sign, value _ stop]
  rfl

theorem readAttrs_of_last {cs : List Char} {kv : String × String}
    (pair : readAttr cs = some (kv, [']', ';'])) : readAttrs cs = some [kv] := by
  rw [readAttrs]
  split
  · next unread => rw [pair] at unread; cases unread
  · next kv' r found =>
    rw [pair] at found
    cases found
    exact if_pos rfl

theorem readAttrs_of_cons {cs more : List Char} {kv : String × String}
    (pair : readAttr cs = some (kv, ',' :: ' ' :: more)) :
    readAttrs cs = Option.map (List.cons kv) (readAttrs more) := by
  rw [readAttrs]
  split
  · next unread => rw [pair] at unread; cases unread
  · next kv' r found =>
    rw [pair] at found
    cases found
    rw [if_neg (by simp)]
    split
    · next unparted =>
      rw [show after [',', ' '] (',' :: ' ' :: more) = some more from after_append _ more] at unparted
      cases unparted
    · next more' parted =>
      rw [show after [',', ' '] (',' :: ' ' :: more) = some more from after_append _ more] at parted
      cases parted
      rfl

theorem readAttrs_intercalate :
    ∀ (as : List (String × String × String)), as ≠ [] → (∀ a ∈ as, Spells a.1 a.1 ∧ Spells a.2.1 a.2.2) →
      readAttrs ((", ".intercalate (as.map fun a => a.1 ++ "=" ++ a.2.1)) ++ "];").toList =
        some (as.map fun a => (a.1, a.2.2))
  | [], nonempty, _ => absurd rfl nonempty
  | [a], _, spells => by
    have ⟨key, value⟩ := spells a List.mem_cons_self
    simp only [List.map_cons, List.map_nil, String.intercalate_singleton, String.toList_append]
    exact readAttrs_of_last (by simpa using readAttr_spells key value (stop_of_head (by decide)))
  | a :: b :: more, _, spells => by
    have ⟨key, value⟩ := spells a List.mem_cons_self
    have rest := readAttrs_intercalate (b :: more) (List.cons_ne_nil _ _)
      fun a' member => spells a' (List.mem_cons_of_mem _ member)
    rw [List.map_cons, String.intercalate_cons_of_ne_nil (by simp), String.append_assoc]
    generalize (", ".intercalate ((b :: more).map fun a => a.1 ++ "=" ++ a.2.1)) ++ "];" = written
      at rest ⊢
    have whole : (a.1 ++ "=" ++ a.2.1 ++ ", " ++ written).toList =
        a.1.toList ++ '=' :: (a.2.1.toList ++ ',' :: ' ' :: written.toList) := by simp
    rw [whole, readAttrs_of_cons (readAttr_spells key value (stop_of_head (by decide))), rest]
    rfl

theorem readStmt_node {it a : String} (id : Spells it a) (tail : List Char) :
    readStmt (' ' :: ' ' :: (it.toList ++ ' ' :: '[' :: tail)) = (readAttrs tail).map (Stmt.node a) := by
  have indent := after_append ['\x20', '\x20'] (it.toList ++ ' ' :: '[' :: tail)
  have bracket : after [' ', '-', '>', ' '] (' ' :: '[' :: tail) = none := by simp [after]
  simp only [List.cons_append, List.nil_append] at indent
  simp only [readStmt, indent, Option.bind_eq_bind, Option.bind_some,
    id _ (stop_of_head (show isIdChar ' ' = false by decide)), bracket, readTail]
  cases readAttrs tail <;> rfl

theorem readStmt_edge {st s dt d : String} (src : Spells st s) (dst : Spells dt d) {tail : List Char}
    (stop : ∀ c ∈ tail.head?, isIdChar c = false) :
    readStmt (' ' :: ' ' :: (st.toList ++ ' ' :: '-' :: '>' :: ' ' :: (dt.toList ++ tail))) =
      (readTail tail).map (Stmt.edge s d) := by
  have indent := after_append ['\x20', '\x20'] (st.toList ++ ' ' :: '-' :: '>' :: ' ' :: (dt.toList ++ tail))
  have arrow := after_append [' ', '-', '>', ' '] (dt.toList ++ tail)
  simp only [List.cons_append, List.nil_append] at indent arrow
  simp only [readStmt, indent, Option.bind_eq_bind, Option.bind_some,
    src _ (stop_of_head (show isIdChar ' ' = false by decide)), arrow, dst _ stop]
  cases readTail tail <;> rfl

/-! ### The lines of the graph -/

/-- The label of a page's node: its name, and in the detailed form also the first body fragment,
shortened, and the state logic, one to a line. -/
def labelText (mode : Mode) (name : String) (p : Page) : String :=
  match mode with
  | .simple => name
  | .detailed => "\n".intercalate (name :: (p.texts.head?.map shorten).toList ++ p.logics.map (·.render))

theorem logicLabel_of_fits {l : Logic} (fits : Number.fitsDigitLimit l.rhs = true) :
    logicLabel l = .ok l.render := by
  -- unfolded, not rewritten: closing by `rfl` would evaluate the digit limit
  unfold logicLabel Logic.print?
  rw [if_pos fits]

theorem logicLabel_of_long {l : Logic} (long : Number.fitsDigitLimit l.rhs = false) :
    logicLabel l = .error .numberTooLong := by
  unfold logicLabel Logic.print?
  rw [if_neg (by simp [long])]

theorem logicLabel_cases (l : Logic) :
    (∃ t, logicLabel l = .ok t) ∨ logicLabel l = .error .numberTooLong := by
  cases fits : Number.fitsDigitLimit l.rhs
  · exact .inr (logicLabel_of_long fits)
  · exact .inl ⟨_, logicLabel_of_fits fits⟩

theorem pageLabel_of_fits {name : String} {p : Page}
    (fits : ∀ l ∈ p.logics, Number.fitsDigitLimit l.rhs = true) :
    pageLabel name p = .ok (labelText .detailed name p) := by
  have logics : p.logics.mapM logicLabel = .ok (p.logics.map (·.render)) :=
    mapM_eq_ok_map fun l member => logicLabel_of_fits (fits l member)
  unfold pageLabel
  rw [logics]
  simp only [labelText, bind, Except.bind, pure, Except.pure]
  cases p.texts <;> cases p.logics <;>
    simp [String.intercalate_cons_of_ne_nil, String.append_assoc]

theorem pageLabel_of_long {name : String} {p : Page}
    (long : ∃ l ∈ p.logics, Number.fitsDigitLimit l.rhs = false) :
    pageLabel name p = .error .numberTooLong := by
  obtain ⟨l, member, tooLong⟩ := long
  have logics : p.logics.mapM logicLabel = .error .numberTooLong :=
    mapM_eq_error (fun l _ => logicLabel_cases l) ⟨l, member, logicLabel_of_long tooLong⟩
  have some : p.logics.isEmpty = false := List.isEmpty_eq_false_iff.2 (List.ne_nil_of_mem member)
  unfold pageLabel
  simp only [some, logics, Bool.false_eq_true, ↓reduceIte, bind, Except.bind]

theorem node_eq_ok {d : Document} {mode : Mode} {name id : String} {p : Page}
    (written : ident name = .ok id)
    (labelled : mode = .detailed → ∀ l ∈ p.logics, Number.fitsDigitLimit l.rhs = true) :
    node d mode name p = .ok ("  " ++ id ++ " [label=" ++ quote (labelText mode name p) ++
      (if name = d.entry then ", fillcolor=lightgreen" else "") ++ "];") := by
  cases mode with
  | simple => simp [node, written, labelText, bind, Except.bind, pure, Except.pure]
  | detailed =>
    simp [node, written, pageLabel_of_fits (labelled rfl), bind, Except.bind, pure, Except.pure]

theorem node_of_long {d : Document} {name id : String} {p : Page} (written : ident name = .ok id)
    (long : ∃ l ∈ p.logics, Number.fitsDigitLimit l.rhs = false) :
    node d .detailed name p = .error .numberTooLong := by
  simp [node, written, pageLabel_of_long long, bind, Except.bind]

theorem readStmt_nodeLine {it a : String} (id : Spells it a) (label : String) (entry : Prop)
    [Decidable entry] :
    readStmt ("  " ++ it ++ " [label=" ++ quote label ++
        (if entry then ", fillcolor=lightgreen" else "") ++ "];").toList =
      some (.node a (("label", label) :: if entry then [("fillcolor", "lightgreen")] else [])) := by
  have words := spells_words
  simp only [List.mem_cons, List.not_mem_nil, or_false, forall_eq_or_imp, forall_eq] at words
  by_cases first : entry
  · have whole : ("  " ++ it ++ " [label=" ++ quote label ++ ", fillcolor=lightgreen" ++ "];").toList =
        ' ' :: ' ' :: (it.toList ++ ' ' :: '[' ::
          ((", ".intercalate ([("label", quote label, label),
            ("fillcolor", "lightgreen", "lightgreen")].map fun a => a.1 ++ "=" ++ a.2.1))
            ++ "];").toList) := by simp
    rw [if_pos first, if_pos first, whole, readStmt_node id, readAttrs_intercalate _
      (List.cons_ne_nil _ _) (by simp [words.1, words.2.1, words.2.2.1, spells_quote])]
    rfl
  · have whole : ("  " ++ it ++ " [label=" ++ quote label ++ "" ++ "];").toList =
        ' ' :: ' ' :: (it.toList ++ ' ' :: '[' ::
          ((", ".intercalate ([("label", quote label, label)].map fun a => a.1 ++ "=" ++ a.2.1))
            ++ "];").toList) := by simp
    rw [if_neg first, if_neg first, whole, readStmt_node id,
      readAttrs_intercalate _ (List.cons_ne_nil _ _) (by simp [words.1, spells_quote])]
    rfl

theorem node_line {d : Document} (mode : Mode) {name : String} (p : Page) (named : name ≠ "")
    (nameRead : isKeyword name.toList = keywords.contains name)
    (labelled : mode = .detailed → ∀ l ∈ p.logics, Number.fitsDigitLimit l.rhs = true) :
    ∃ line, node d mode name p = .ok line ∧ '\n' ∉ line.toList ∧
      readStmt line.toList = some (.node name (("label", labelText mode name p) ::
        if name = d.entry then [("fillcolor", "lightgreen")] else [])) := by
  obtain ⟨id, source⟩ := exists_ident named
  refine ⟨_, node_eq_ok source labelled, ?_, readStmt_nodeLine (spells_ident source nameRead) _ _⟩
  have plain := newline_not_mem_ident source
  split <;> simp [plain, newline_not_mem_quote]

/-- Attributes as the graph writes them: `key=value`, parted by `, `, in brackets; nothing when
there are none. An attribute is its key, its written value and the value it stands for. -/
def attrsText (as : List (String × String × String)) : String :=
  if (as.map fun a => a.1 ++ "=" ++ a.2.1).isEmpty then ""
  else " [" ++ ", ".intercalate (as.map fun a => a.1 ++ "=" ++ a.2.1) ++ "]"

/-- The attributes of an edge: in the detailed form its label, shortened, when it has one; and the
dashes of a guarded choice. -/
def edgeAttrs (mode : Mode) (label : String) (guarded : Bool) : List (String × String × String) :=
  (if mode = .detailed ∧ label ≠ "" then [("label", quote (shorten label), shorten label)] else []) ++
    (if guarded then [("style", "dashed", "dashed")] else [])

theorem readTail_attrsText (as : List (String × String × String))
    (spells : ∀ a ∈ as, Spells a.1 a.1 ∧ Spells a.2.1 a.2.2) :
    readTail (attrsText as ++ ";").toList = some (as.map fun a => (a.1, a.2.2)) := by
  cases as with
  | nil => rfl
  | cons a more =>
    have whole : (" [" ++ ", ".intercalate ((a :: more).map fun a => a.1 ++ "=" ++ a.2.1) ++ "]" ++
        ";").toList = ' ' :: '[' ::
          ((", ".intercalate ((a :: more).map fun a => a.1 ++ "=" ++ a.2.1)) ++ "];").toList := by
      simp
    rw [attrsText, if_neg (by simp), whole, readTail, readAttrs_intercalate _ (List.cons_ne_nil _ _) spells]

theorem head_attrsText (as : List (String × String × String)) :
    ∀ c ∈ (attrsText as ++ ";").toList.head?, isIdChar c = false := by
  unfold attrsText
  split <;> simp <;> decide

theorem spells_edgeAttrs (mode : Mode) (label : String) (guarded : Bool) :
    ∀ a ∈ edgeAttrs mode label guarded, Spells a.1 a.1 ∧ Spells a.2.1 a.2.2 := by
  have words := spells_words
  simp only [List.mem_cons, List.not_mem_nil, or_false, forall_eq_or_imp, forall_eq] at words
  unfold edgeAttrs
  split_ifs <;> simp [words.1, words.2.2.2.1, words.2.2.2.2, spells_quote]

theorem choiceLabel_of_fits {c : Choice} (fits : ∀ g ∈ c.guard, Number.fitsDigitLimit g.rhs = true) :
    ∃ label, choiceLabel c = .ok label := by
  unfold choiceLabel
  cases guard : c.guard with
  | none => exact ⟨_, rfl⟩
  | some g =>
    simp only [logicLabel_of_fits (fits g guard)]
    exact ⟨_, rfl⟩

theorem choiceLabel_of_long {c : Choice} {g : Logic} (guard : c.guard = some g)
    (long : Number.fitsDigitLimit g.rhs = false) : choiceLabel c = .error .numberTooLong := by
  unfold choiceLabel
  simp only [guard, logicLabel_of_long long]
  rfl

/-- The label an edge carries: none in the simple form, the choice's label in the detailed one. -/
def edgeLabel : Mode → Choice → Except Error String
  | .simple, _ => .ok ""
  | .detailed, c => choiceLabel c

theorem edge_eq (mode : Mode) (name : String) (c : Choice) :
    edge mode name c = (ident name).bind fun src =>
      (if c.link = endName then .ok "\"END\"" else ident c.link).bind fun dst =>
        (edgeLabel mode c).bind fun label =>
          .ok ("  " ++ src ++ " -> " ++ dst ++ attrsText (edgeAttrs mode label c.guard.isSome) ++ ";") := by
  -- the attributes listed are those of `edgeAttrs`, with no label in the simple form
  have attrs : ∀ (mode : Mode) (label : String) (guarded : Bool), (mode = .simple → label = "") →
      ((if (!label.isEmpty) = true then ["label=" ++ quote (shorten label)] else []) ++
        (if guarded = true then ["style=dashed"] else [])) =
        (edgeAttrs mode label guarded).map fun a => a.1 ++ "=" ++ a.2.1 := by
    intro mode label guarded unlabelled
    unfold edgeAttrs
    cases mode <;> cases guarded <;> by_cases empty : label = "" <;> simp_all
  unfold edge
  cases ident name with
  | error err => rfl
  | ok src =>
    by_cases ending : c.link = endName <;> cases mode <;>
      simp only [ending, beq_self_eq_true, beq_iff_eq, if_true, if_false, bind, Except.bind, pure,
        Except.pure, edgeLabel, attrsText, attrs .simple "" _ fun _ => rfl,
        attrs .detailed _ _ fun simple => Mode.noConfusion simple]

theorem edge_eq_ok (mode : Mode) {name src dst : String} {c : Choice} (source : ident name = .ok src)
    (target : (if c.link = endName then (.ok "\"END\"" : Except Error String) else ident c.link) =
      .ok dst)
    (labelled : mode = .detailed → ∀ g ∈ c.guard, Number.fitsDigitLimit g.rhs = true) :
    ∃ label, edge mode name c =
      .ok ("  " ++ src ++ " -> " ++ dst ++ attrsText (edgeAttrs mode label c.guard.isSome) ++ ";") := by
  obtain ⟨label, labelOk⟩ : ∃ label, edgeLabel mode c = .ok label := by
    cases mode with
    | simple => exact ⟨"", rfl⟩
    | detailed => exact choiceLabel_of_fits (labelled rfl)
  refine ⟨label, ?_⟩
  rw [edge_eq, source, target, labelOk]
  rfl

theorem edge_of_long {name src dst : String} {c : Choice} (source : ident name = .ok src)
    (target : (if c.link = endName then (.ok "\"END\"" : Except Error String) else ident c.link) =
      .ok dst) {g : Logic} (guard : c.guard = some g) (long : Number.fitsDigitLimit g.rhs = false) :
    edge .detailed name c = .error .numberTooLong := by
  rw [edge_eq, source, target]
  simp only [Except.bind, edgeLabel, choiceLabel_of_long guard long]

theorem newline_not_mem_attrsText (mode : Mode) (label : String) (guarded : Bool) :
    '\n' ∉ (attrsText (edgeAttrs mode label guarded)).toList := by
  unfold attrsText edgeAttrs
  split_ifs <;> simp [newline_not_mem_quote]

theorem spells_end : Spells "\"END\"" "END" := by
  have written : quote "END" = "\"END\"" := by decide
  rw [← written]
  exact spells_quote "END"

theorem exists_target {c : Choice} (linked : c.link ≠ "")
    (linkRead : isKeyword c.link.toList = keywords.contains c.link) :
    ∃ dst, (if c.link = endName then (.ok "\"END\"" : Except Error String) else ident c.link) = .ok dst ∧
      Spells dst (if c.link = endName then "END" else c.link) ∧ '\n' ∉ dst.toList := by
  by_cases ending : c.link = endName
  · rw [if_pos ending, if_pos ending]
    exact ⟨_, rfl, spells_end, by decide⟩
  · obtain ⟨dst, written⟩ := exists_ident linked
    rw [if_neg ending, if_neg ending]
    exact ⟨dst, written, spells_ident written linkRead, newline_not_mem_ident written⟩

theorem readStmt_edgeLine (mode : Mode) {name : String} {c : Choice} (named : name ≠ "")
    (linked : c.link ≠ "") (nameRead : isKeyword name.toList = keywords.contains name)
    (linkRead : isKeyword c.link.toList = keywords.contains c.link)
    (labelled : mode = .detailed → ∀ g ∈ c.guard, Number.fitsDigitLimit g.rhs = true) :
    ∃ line, edge mode name c = .ok line ∧ '\n' ∉ line.toList ∧ ∃ attrs, readStmt line.toList =
        some (.edge name (if c.link = endName then "END" else c.link) attrs) ∧
      attrs.lookup "style" = (if c.guard.isSome then some "dashed" else none) ∧
      (mode = .simple → attrs.lookup "label" = none) := by
  obtain ⟨src, source⟩ := exists_ident named
  obtain ⟨dst, target, spelled, plainTarget⟩ := exists_target linked linkRead
  obtain ⟨label, line⟩ := edge_eq_ok mode source target labelled
  refine ⟨_, line, ?_, (edgeAttrs mode label c.guard.isSome).map fun a => (a.1, a.2.2), ?_, ?_, ?_⟩
  · simp [newline_not_mem_ident source, plainTarget, newline_not_mem_attrsText]
  · have whole : ("  " ++ src ++ " -> " ++ dst ++ attrsText (edgeAttrs mode label c.guard.isSome) ++
        ";").toList = ' ' :: ' ' :: (src.toList ++ ' ' :: '-' :: '>' :: ' ' ::
          (dst.toList ++ (attrsText (edgeAttrs mode label c.guard.isSome) ++ ";").toList)) := by
      simp
    rw [whole, readStmt_edge (spells_ident source nameRead) spelled (head_attrsText _),
      readTail_attrsText _ (spells_edgeAttrs mode label _)]
    rfl
  · unfold edgeAttrs
    cases c.guard.isSome <;> split_ifs <;> simp [List.lookup]
  · rintro rfl
    cases c.guard.isSome <;> simp [edgeAttrs]

/-! ### The graph of a story -/

/-- The lines that open the graph: its header, the default node attributes, and the end node. -/
def frameHead : List String :=
  ["digraph story \x7b", "  rankdir=LR;", "  node [shape=box, style=filled, fillcolor=lightblue];",
    "  \"END\" [shape=doublecircle, fillcolor=lightgrey, label=\"END\"];"]

/-- The choices of a story with the names of their pages, in the order of the pages. -/
def links (d : Document) : List (String × Choice) :=
  d.pages.flatMap fun e => e.2.choices.map fun c => (e.1, c)

theorem mem_links {d : Document} {e : String × Choice} (member : e ∈ links d) :
    ∃ p, (e.1, p) ∈ d.pages ∧ e.2 ∈ p.choices := by
  simp only [links, List.mem_flatMap, List.mem_map] at member
  obtain ⟨⟨n, p⟩, page, c, chosen, rfl⟩ := member
  exact ⟨p, page, chosen⟩

theorem render_eq {d : Document} {mode : Mode} {nodes edges : List String}
    (nodesOk : d.pages.mapM (fun e => node d mode e.1 e.2) = .ok nodes)
    (edgesOk : (links d).mapM (fun e => edge mode e.1 e.2) = .ok edges) :
    render d mode = .ok ("\n".intercalate (frameHead ++ nodes ++ edges ++ ["\x7d"])) := by
  rw [links] at edgesOk
  simp only [render, bind, Except.bind]
  rw [nodesOk]
  dsimp only
  rw [edgesOk]
  rfl

theorem render_of_nodes_error {d : Document} {mode : Mode} {err : Error}
    (nodesErr : d.pages.mapM (fun e => node d mode e.1 e.2) = .error err) :
    render d mode = .error err := by
  simp only [render, bind, Except.bind]
  rw [nodesErr]

theorem render_of_edges_error {d : Document} {mode : Mode} {nodes : List String} {err : Error}
    (nodesOk : d.pages.mapM (fun e => node d mode e.1 e.2) = .ok nodes)
    (edgesErr : (links d).mapM (fun e => edge mode e.1 e.2) = .error err) :
    render d mode = .error err := by
  rw [links] at edgesErr
  simp only [render, bind, Except.bind]
  rw [nodesOk]
  dsimp only
  rw [edgesErr]

end Gamebook.Dot

namespace Gamebook.Document

theorem addPages_names_nodup :
    ∀ (acc pages : List (String × Page)) {ps : List (String × Page)},
      addPages acc pages = .ok ps → (acc.map Prod.fst).Nodup → (ps.map Prod.fst).Nodup
  | acc, [], ps, added, distinct => by
    cases added
    simpa using distinct
  | acc, (n, p) :: rest, ps, added, distinct => by
    unfold addPages at added
    dsimp only at added
    split at added
    · cases added
    · next fresh =>
      refine addPages_names_nodup _ rest added ?_
      simp only [List.any_eq_true, beq_iff_eq, not_exists, not_and] at fresh
      simp only [List.map_cons, List.nodup_cons, List.mem_map, not_exists, not_and]
      exact ⟨fun e member same => fresh e member same, distinct⟩

/-- The values of a story's logic, in its pages and in its guards, are all within the digit limit,
so that the detailed graph can show them. -/
def LogicsFit (d : Document) : Prop :=
  (∀ e ∈ d.pages, ∀ l ∈ e.2.logics, Number.fitsDigitLimit l.rhs = true) ∧
    ∀ e ∈ d.pages, ∀ c ∈ e.2.choices, ∀ g ∈ c.guard, Number.fitsDigitLimit g.rhs = true

theorem build_names_nodup {entry : String} {pages : List (String × Page)} {d : Document}
    (built : build entry pages = .ok d) : (d.pages.map Prod.fst).Nodup := by
  unfold build at built
  cases added : addPages [] pages with
  | error e => simp [added, Except.map] at built
  | ok ps =>
    simp only [added, Except.map, Except.ok.injEq] at built
    subst built
    exact addPages_names_nodup [] pages added (by simp)

end Gamebook.Document

namespace Gamebook.Dot

theorem ne_end_of_canonical {s : String} (canonical : canonicalName s = s) : s ≠ "END" := by
  rintro rfl
  exact absurd (toLower_of_canonical canonical 'E' (by decide)) (by decide)

theorem render_lines {entry : String} {pages : List (String × Page)} {d : Document}
    (built : Document.build entry pages = .ok d) (mode : Mode) (named : ∀ e ∈ d.pages, e.1 ≠ "")
    (linked : ∀ e ∈ d.pages, ∀ c ∈ e.2.choices, c.link ≠ "" ∧ canonicalName c.link = c.link)
    (shown : mode = .detailed → d.LogicsFit) :
    ∃ nodes edges : List String,
      render d mode = .ok ("\n".intercalate (frameHead ++ nodes ++ edges ++ ["\x7d"])) ∧
      (("\n".intercalate (frameHead ++ nodes ++ edges ++ ["\x7d"])).split '\n').toList.map (·.copy) =
        frameHead ++ nodes ++ edges ++ ["\x7d"] ∧
      (frameHead ++ nodes ++ edges ++ ["\x7d"]).length = 5 + d.pages.length + (links d).length ∧
      List.Forall₂ (fun e line => readStmt line.toList = some (.node e.1 (("label", labelText mode e.1 e.2) ::
        if e.1 = d.entry then [("fillcolor", "lightgreen")] else []))) d.pages nodes ∧
      List.Forall₂ (fun e line => ∃ attrs, readStmt line.toList =
          some (.edge e.1 (if e.2.link = endName then "END" else e.2.link) attrs) ∧
        attrs.lookup "style" = (if e.2.guard.isSome then some "dashed" else none) ∧
        (mode = .simple → attrs.lookup "label" = none)) (links d) edges ∧
      (d.pages.map Prod.fst).Nodup ∧ (∀ e ∈ d.pages, e.1 ≠ "END") ∧
      ∀ e ∈ links d, (if e.2.link = endName then "END" else e.2.link) = "END" ↔ e.2.link = endName := by
  have keys := Document.build_keys built
  have pageLines : ∀ e ∈ d.pages, ∃ line, node d mode e.1 e.2 = .ok line ∧ '\n' ∉ line.toList ∧
      readStmt line.toList = some (.node e.1 (("label", labelText mode e.1 e.2) ::
        if e.1 = d.entry then [("fillcolor", "lightgreen")] else [])) := fun e member =>
    node_line mode e.2 (named e member) (isKeyword_of_canonical (keys e member))
      fun detailed => (shown detailed).1 e member
  have choiceLines : ∀ e ∈ links d, ∃ line, edge mode e.1 e.2 = .ok line ∧ '\n' ∉ line.toList ∧
      ∃ attrs, readStmt line.toList =
          some (.edge e.1 (if e.2.link = endName then "END" else e.2.link) attrs) ∧
        attrs.lookup "style" = (if e.2.guard.isSome then some "dashed" else none) ∧
        (mode = .simple → attrs.lookup "label" = none) := by
    intro e member
    obtain ⟨p, page, chosen⟩ := mem_links member
    have ⟨link, canonical⟩ := linked (e.1, p) page e.2 chosen
    exact readStmt_edgeLine mode (named (e.1, p) page) link
      (isKeyword_of_canonical (keys (e.1, p) page)) (isKeyword_of_canonical canonical)
      fun detailed => (shown detailed).2 (e.1, p) page e.2 chosen
  obtain ⟨nodes, nodesOk, nodeFacts⟩ := exists_mapM_forall₂ pageLines
  obtain ⟨edges, edgesOk, edgeFacts⟩ := exists_mapM_forall₂ choiceLines
  -- no line holds a line feed, so splitting at line feeds gives the lines back
  have plain : ∀ line ∈ frameHead ++ nodes ++ edges ++ ["\x7d"], '\n' ∉ line.toList := by
    intro line member
    simp only [List.mem_append, List.mem_singleton] at member
    rcases member with ((framed | written) | written) | rfl
    · revert line
      decide
    · obtain ⟨e, -, facts⟩ := exists_of_forall₂ nodeFacts written
      exact facts.1
    · obtain ⟨e, -, facts⟩ := exists_of_forall₂ edgeFacts written
      exact facts.1
    · decide
  refine ⟨nodes, edges, render_eq nodesOk edgesOk, ?_, ?_, nodeFacts.imp fun _ _ facts => facts.2,
    edgeFacts.imp fun _ _ facts => facts.2, Document.build_names_nodup built,
    fun e member => ne_end_of_canonical (keys e member), ?_⟩
  · rw [show "\n" = String.singleton '\n' from rfl, String.toList_split_intercalate plain,
      if_neg (by simp [frameHead])]
  · simp [frameHead, nodeFacts.length_eq, edgeFacts.length_eq]
    omega
  · intro e member
    obtain ⟨p, page, chosen⟩ := mem_links member
    have other := ne_end_of_canonical (linked (e.1, p) page e.2 chosen).2
    by_cases ending : e.2.link = endName <;> simp [ending, other]

theorem node_cases (d : Document) {name : String} (named : name ≠ "") (p : Page) :
    (∃ line, node d .detailed name p = .ok line) ∨ node d .detailed name p = .error .numberTooLong := by
  obtain ⟨id, source⟩ := exists_ident named
  by_cases fits : ∀ l ∈ p.logics, Number.fitsDigitLimit l.rhs = true
  · exact .inl ⟨_, node_eq_ok source fun _ => fits⟩
  · exact .inr (node_of_long source (by simpa using fits))

theorem edge_of_long_guard {name : String} (named : name ≠ "") {c : Choice} (link : c.link ≠ "")
    (canonical : canonicalName c.link = c.link) {g : Logic} (guard : c.guard = some g)
    (long : Number.fitsDigitLimit g.rhs = false) : edge .detailed name c = .error .numberTooLong := by
  obtain ⟨src, source⟩ := exists_ident named
  obtain ⟨dst, target, -⟩ := exists_target link (isKeyword_of_canonical canonical)
  exact edge_of_long source target guard long

theorem edge_cases {name : String} (named : name ≠ "") {c : Choice} (link : c.link ≠ "")
    (canonical : canonicalName c.link = c.link) :
    (∃ line, edge .detailed name c = .ok line) ∨ edge .detailed name c = .error .numberTooLong := by
  obtain ⟨src, source⟩ := exists_ident named
  obtain ⟨dst, target, -⟩ := exists_target link (isKeyword_of_canonical canonical)
  cases guard : c.guard with
  | none =>
    obtain ⟨label, written⟩ := edge_eq_ok .detailed source target fun _ g member => by
      rw [guard] at member
      cases member
    exact .inl ⟨_, written⟩
  | some g =>
    cases fits : Number.fitsDigitLimit g.rhs
    · exact .inr (edge_of_long source target guard fits)
    · obtain ⟨label, written⟩ := edge_eq_ok .detailed source target fun _ g' member => by
        rw [guard, Option.mem_some_iff] at member
        rw [← member, fits]
      exact .inl ⟨_, written⟩

theorem render_of_long {d : Document} (named : ∀ e ∈ d.pages, e.1 ≠ "")
    (linked : ∀ e ∈ d.pages, ∀ c ∈ e.2.choices, c.link ≠ "" ∧ canonicalName c.link = c.link)
    (long : ¬ d.LogicsFit) : render d .detailed = .error .numberTooLong := by
  by_cases pagesFit : ∀ e ∈ d.pages, ∀ l ∈ e.2.logics, Number.fitsDigitLimit l.rhs = true
  · -- every node is written, so a guard is too long and its edge is refused
    obtain ⟨nodes, nodesOk⟩ := mapM_ok_of_forall fun e member => by
      obtain ⟨id, source⟩ := exists_ident (named e member)
      exact ⟨_, (node_eq_ok source fun _ => pagesFit e member : node d .detailed e.1 e.2 = _)⟩
    have edgeCases : ∀ e ∈ links d, (∃ line, edge .detailed e.1 e.2 = .ok line) ∨
        edge .detailed e.1 e.2 = .error .numberTooLong := fun e member => by
      obtain ⟨p, page, chosen⟩ := mem_links member
      exact edge_cases (named (e.1, p) page) (linked _ page e.2 chosen).1 (linked _ page e.2 chosen).2
    obtain ⟨e, page, c, chosen, g, guarded, tooLong⟩ : ∃ e ∈ d.pages, ∃ c ∈ e.2.choices, ∃ g,
        c.guard = some g ∧ Number.fitsDigitLimit g.rhs = false := by
      have guardsLong : ¬ ∀ e ∈ d.pages, ∀ c ∈ e.2.choices, ∀ g ∈ c.guard,
          Number.fitsDigitLimit g.rhs = true := fun guardsFit => long ⟨pagesFit, guardsFit⟩
      simpa using guardsLong
    refine render_of_edges_error nodesOk (mapM_eq_error edgeCases ⟨(e.1, c), ?_, ?_⟩)
    · simp only [links, List.mem_flatMap, List.mem_map]
      exact ⟨e, page, c, chosen, rfl⟩
    · exact edge_of_long_guard (named e page) (linked e page c chosen).1 (linked e page c chosen).2
        guarded tooLong
  · -- a page's logic is too long, so its node is refused
    obtain ⟨e, page, l, listed, tooLong⟩ : ∃ e ∈ d.pages, ∃ l ∈ e.2.logics,
        Number.fitsDigitLimit l.rhs = false := by simpa using pagesFit
    obtain ⟨id, source⟩ := exists_ident (named e page)
    exact render_of_nodes_error (mapM_eq_error (fun e member => node_cases d (named e member) e.2)
      ⟨e, page, node_of_long source ⟨l, listed, by simpa using tooLong⟩⟩)

/-- The graph of a story the story constructor builds, with named pages and named canonical
links: in the simple form, and in the detailed form when the values of its logic are within the
digit limit, it is written line by line as `render_lines` says; otherwise the detailed form is
refused for a value too long. -/
theorem render_reads_back {entry : String} {pages : List (String × Page)} {d : Document}
    (built : Document.build entry pages = .ok d) (mode : Mode) (named : ∀ e ∈ d.pages, e.1 ≠ "")
    (linked : ∀ e ∈ d.pages, ∀ c ∈ e.2.choices, c.link ≠ "" ∧ canonicalName c.link = c.link) :
    ((mode = .simple ∨ d.LogicsFit) →
      ∃ nodes edges : List String,
        render d mode = .ok ("\n".intercalate (frameHead ++ nodes ++ edges ++ ["\x7d"])) ∧
        (("\n".intercalate (frameHead ++ nodes ++ edges ++ ["\x7d"])).split '\n').toList.map (·.copy) =
          frameHead ++ nodes ++ edges ++ ["\x7d"] ∧
        (frameHead ++ nodes ++ edges ++ ["\x7d"]).length = 5 + d.pages.length + (links d).length ∧
        List.Forall₂ (fun e line => readStmt line.toList = some (.node e.1
          (("label", labelText mode e.1 e.2) ::
            if e.1 = d.entry then [("fillcolor", "lightgreen")] else []))) d.pages nodes ∧
        List.Forall₂ (fun e line => ∃ attrs, readStmt line.toList =
            some (.edge e.1 (if e.2.link = endName then "END" else e.2.link) attrs) ∧
          attrs.lookup "style" = (if e.2.guard.isSome then some "dashed" else none) ∧
          (mode = .simple → attrs.lookup "label" = none)) (links d) edges ∧
        (d.pages.map Prod.fst).Nodup ∧ (∀ e ∈ d.pages, e.1 ≠ "END") ∧
        ∀ e ∈ links d, (if e.2.link = endName then "END" else e.2.link) = "END" ↔ e.2.link = endName) ∧
      (mode = .detailed → ¬ d.LogicsFit → render d mode = .error .numberTooLong) := by
  refine ⟨fun shown => render_lines built mode named linked fun detailed => ?_, ?_⟩
  · rcases shown with simple | fits
    · rw [simple] at detailed
      cases detailed
    · exact fits
  · rintro rfl long
    exact render_of_long named linked long

/-- A tower whose way down is guarded by a lamp, and whose other way ends the story. -/
def towerPage : Page :=
  { texts := ["A tower."], logics := [⟨.assign, "lamp", 1⟩],
    choices := [{ link := "vault", guard := some ⟨.gt, "lamp", 0⟩ }, { link := "end", text := some "Leave" }] }

/-- A vault that leads back up. -/
def vaultPage : Page := { texts := ["A vault."], choices := [{ link := "tower" }] }

def towerDoc : Document := ⟨"tower", [("tower", towerPage), ("vault", vaultPage)]⟩

theorem tower_names_canonical :
    canonicalName "tower" = "tower" ∧ canonicalName "vault" = "vault" ∧ canonicalName "end" = "end" := by
  decide +kernel

theorem towerDoc_built :
    Document.build "tower" [("tower", towerPage), ("vault", vaultPage)] = .ok towerDoc := by
  simp [Document.build, Document.addPages, tower_names_canonical, towerDoc, Except.map]

/-- The detailed graph of the tower story reads back line by line. -/
theorem tower_graph_reads_back :
    Document.build "tower" [("tower", towerPage), ("vault", vaultPage)] = .ok towerDoc ∧
    (∀ e ∈ towerDoc.pages, e.1 ≠ "") ∧
    (∀ e ∈ towerDoc.pages, ∀ c ∈ e.2.choices, c.link ≠ "" ∧ canonicalName c.link = c.link) ∧
    towerDoc.LogicsFit ∧
    ∃ nodes edges : List String,
      render towerDoc .detailed = .ok ("\n".intercalate (frameHead ++ nodes ++ edges ++ ["\x7d"])) ∧
      (("\n".intercalate (frameHead ++ nodes ++ edges ++ ["\x7d"])).split '\n').toList.map (·.copy) =
        frameHead ++ nodes ++ edges ++ ["\x7d"] ∧
      (frameHead ++ nodes ++ edges ++ ["\x7d"]).length =
        5 + towerDoc.pages.length + (links towerDoc).length ∧
      List.Forall₂ (fun e line => readStmt line.toList = some (.node e.1
        (("label", labelText .detailed e.1 e.2) ::
          if e.1 = towerDoc.entry then [("fillcolor", "lightgreen")] else []))) towerDoc.pages nodes ∧
      List.Forall₂ (fun e line => ∃ attrs, readStmt line.toList =
          some (.edge e.1 (if e.2.link = endName then "END" else e.2.link) attrs) ∧
        attrs.lookup "style" = (if e.2.guard.isSome then some "dashed" else none) ∧
        (Mode.detailed = .simple → attrs.lookup "label" = none)) (links towerDoc) edges ∧
      (towerDoc.pages.map Prod.fst).Nodup ∧ (∀ e ∈ towerDoc.pages, e.1 ≠ "END") ∧
      ∀ e ∈ links towerDoc,
        (if e.2.link = endName then "END" else e.2.link) = "END" ↔ e.2.link = endName := by
  have named : ∀ e ∈ towerDoc.pages, e.1 ≠ "" := by decide
  have linked : ∀ e ∈ towerDoc.pages, ∀ c ∈ e.2.choices,
      c.link ≠ "" ∧ canonicalName c.link = c.link := by
    simp [towerDoc, towerPage, vaultPage, tower_names_canonical]
  have fits : towerDoc.LogicsFit := ⟨by decide +kernel, by decide +kernel⟩
  exact ⟨towerDoc_built, named, linked, fits,
    (render_reads_back towerDoc_built .detailed named linked).1 (.inr fits)⟩

/-- A page whose links are spelled `Node` and `END`. -/
def keywordPage : Page := { texts := ["x"], choices := [{ link := "Node" }, { link := "END" }] }

def keywordDoc : Document := ⟨"a", [("a", keywordPage)]⟩

/-- A value of 4301 digits, and a page whose logic sets it. -/
def wideValue : Int := ((10 ^ 4300 : Nat) : Int)

def widePage : Page := { texts := ["x"], logics := [⟨.assign, "x", wideValue⟩], choices := [{ link := "end" }] }

def wideDoc : Document := ⟨"a", [("a", widePage)]⟩

/-- The link `Node` is written bare, yet a DOT reader takes it for the keyword `node` and reads no
statement there; the link `END` is written bare too and reads back as the end node. A page whose
logic has a value of 4301 digits has no detailed graph. -/
theorem keyword_links_misread :
    Document.build "a" [("a", keywordPage)] = .ok keywordDoc ∧
      render keywordDoc .simple = .ok ("\n".intercalate (frameHead ++
        ["  a [label=\"a\", fillcolor=lightgreen];", "  a -> Node;", "  a -> END;", "\x7d"])) ∧
      readStmt "  a -> Node;".toList = none ∧
      readStmt "  a -> END;".toList = some (.edge "a" "END" []) ∧
      render wideDoc .detailed = .error .numberTooLong := by
  have canonical : canonicalName "a" = "a" := by decide +kernel
  have wide : render wideDoc .detailed = .error .numberTooLong :=
    render_of_long (by decide) (by decide +kernel)
      fun fits => absurd (fits.1 ("a", widePage) List.mem_cons_self _ List.mem_cons_self)
        (by decide +kernel)
  refine ⟨by simp [Document.build, Document.addPages, canonical, keywordDoc, Except.map], ?_, ?_, ?_,
    wide⟩ <;> decide +kernel

end Gamebook.Dot
