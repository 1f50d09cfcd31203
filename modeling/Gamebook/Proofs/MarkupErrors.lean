import Mathlib
import Gamebook.Story.Example
import Gamebook.Proofs.ParsedStory
/- What reading markup reports when it fails. A text with no significant line is refused at line
   0; any other text is read into a story or refused at the physical line of one of its
   significant lines, which is never 0. Every failure is a refusal of the markup except a number
   with more digits than the digit limit allows, which fails as a number. The story read from a
   text is one the story constructor takes as it is, since its names are canonical and distinct;
   with checking on, a failed check is the only other way loading fails. Main statement:
   `Markup.parse_outcome`. -/

namespace Gamebook

namespace Logic

theorem scan_error (cs : List Char) :
    ∀ e, Token.scan cs = .error e → ∃ t, e = LogicError.unexpected t := by
  fun_induction Token.scan cs
  all_goals intro e h
  · cases h
  · cases h
  · rename_i failed ih
    cases h
    exact ih _ failed
  · cases h
    exact ⟨_, rfl⟩

theorem tail_tooManyDigits {ts : List Token} {n : Nat} (h : tail ts = .error (.tooManyDigits n)) :
    Number.decimalDigitLimit < n := by
  unfold tail at h
  split at h
  · cases h
  · split at h
    · cases h
    · split at h
      · next past =>
        cases h
        exact past
      · split at h <;> cases h
    · cases h
  · cases h

theorem parse_tooManyDigits {code : String} {role : Role} {n : Nat}
    (h : Logic.parse code role = .error (.tooManyDigits n)) : Number.decimalDigitLimit < n := by
  unfold Logic.parse at h
  split at h
  · next e scanned =>
    obtain ⟨t, rfl⟩ := scan_error _ e scanned
    cases h
  · split at h
    · next tailed =>
      cases h
      exact tail_tooManyDigits tailed
    · split at h
      · cases h
      · injection h with h
        split at h <;> cases h
  · cases h

end Logic

namespace Markup

/-- An error reported at line `l` whose fault, when it is a number past the digit limit, counts
more digits than the limit allows. -/
structure Error.At (e : Error) (l : Line) : Prop where
  line : e.line = l.number
  counted : ∀ n, e.fault = .logic (.tooManyDigits n) → Number.decimalDigitLimit < n

theorem Error.at_of_logic {e : LogicError} (l : Line)
    (counted : ∀ n, e = .tooManyDigits n → Number.decimalDigitLimit < n) :
    Error.At ⟨l.number, .logic e⟩ l :=
  ⟨rfl, fun n same => counted n (by injection same)⟩

theorem Error.at_of_plain {f : Fault} (l : Line) (plain : ∀ n, f ≠ .logic (.tooManyDigits n)) :
    Error.At ⟨l.number, f⟩ l :=
  ⟨rfl, fun n same => absurd same (plain n)⟩

theorem readHeader_error {l : Line} {e : Error} (h : readHeader l = .error e) : e.At l := by
  unfold readHeader at h
  split at h
  · cases h
    exact Error.at_of_plain l fun _ => by simp
  · simp only at h
    split at h
    · cases h
      exact Error.at_of_plain l fun _ => by simp
    · cases h

theorem readLogicLine_error {l : Line} {e : Error} (h : readLogicLine l = .error e) : e.At l := by
  unfold readLogicLine at h
  split at h
  · simp only at h
    split at h
    · unfold Except.mapError at h
      split at h
      · next e' parsed =>
        cases h
        exact Error.at_of_logic l fun n same => Logic.parse_tooManyDigits (same ▸ parsed)
      · cases h
    · cases h
      exact Error.at_of_plain l fun _ => by simp
  · cases h
    exact Error.at_of_plain l fun _ => by simp

theorem readChoice_error {l : Line} {e : Error} (h : readChoice l = .error e) : e.At l := by
  unfold readChoice at h
  dsimp only at h
  split at h
  · split at h
    · cases h
      exact Error.at_of_plain l fun _ => by simp
    · split at h
      · cases h
      · split at h
        · split at h
          · next e' parsed =>
            cases h
            exact Error.at_of_logic l fun n same => Logic.parse_tooManyDigits (same ▸ parsed)
          · split at h
            · cases h
              exact Error.at_of_plain l fun _ => by simp
            · cases h
        · cases h
      · cases h
  · cases h
    exact Error.at_of_plain l fun _ => by simp

theorem Block.getD_mem_lines {b : Block} {o : Option Line} (inside : ∀ l ∈ o, l ∈ b.lines) :
    o.getD b.header ∈ b.lines := by
  cases o with
  | none => simp [Block.lines]
  | some l => exact inside l rfl

theorem Block.lastLine_mem (b : Block) : b.lastLine ∈ b.lines := by
  refine Block.getD_mem_lines fun l found => ?_
  simp only [Option.mem_def, Option.orElse_eq_orElse, Option.orElse_eq_or,
    Option.or_eq_some_iff] at found
  rcases found with last | ⟨-, last | ⟨-, last⟩⟩ <;> simp [Block.lines, List.mem_of_getLast? last]

theorem Block.read_error {b : Block} {e : Error} (h : b.read = .error e) : ∃ l ∈ b.lines, e.At l := by
  unfold Block.read at h
  -- one case split per check of the block, in the order the reader makes them
  cases header : readHeader b.header with
  | error e' =>
    simp only [header, bind, Except.bind, Except.error.injEq] at h
    subst h
    exact ⟨b.header, by simp [Block.lines], readHeader_error header⟩
  | ok n =>
    cases logics : b.logic.mapM readLogicLine with
    | error e' =>
      simp only [header, logics, bind, Except.bind, Except.error.injEq] at h
      subst h
      obtain ⟨l, member, failed⟩ := exists_of_mapM_eq_error logics
      exact ⟨l, by simp [Block.lines, member], readLogicLine_error failed⟩
    | ok ls =>
      by_cases empty : bodyTexts b.body = []
      · simp only [header, logics, bind, Except.bind, empty, List.isEmpty_nil, if_true, throw,
          throwThe, MonadExceptOf.throw, Except.error.injEq] at h
        subst h
        refine ⟨_, Block.getD_mem_lines fun l found => ?_, Error.at_of_plain _ fun _ => by simp⟩
        simp only [Option.mem_def, Option.orElse_eq_orElse, Option.orElse_eq_or,
          Option.or_eq_some_iff] at found
        rcases found with last | ⟨-, last⟩ <;> simp [Block.lines, List.mem_of_getLast? last]
      · have texts : (bodyTexts b.body).isEmpty = false := by simpa using empty
        cases choices : b.choices.mapM readChoice with
        | error e' =>
          simp only [header, logics, choices, bind, Except.bind, texts, Bool.false_eq_true,
            if_false, Except.error.injEq] at h
          subst h
          obtain ⟨l, member, failed⟩ := exists_of_mapM_eq_error choices
          exact ⟨l, by simp [Block.lines, member], readChoice_error failed⟩
        | ok cs =>
          -- the rules on the number of choices are reported at the block's last line
          simp only [header, logics, choices, bind, Except.bind, texts, Bool.false_eq_true,
            if_false] at h
          have last : ∀ f : Fault, Error.mk b.lastLine.number f = e → (∀ n, f ≠ .logic (.tooManyDigits n)) →
              ∃ l ∈ b.lines, e.At l :=
            fun f same other => same ▸ ⟨_, b.lastLine_mem, Error.at_of_plain _ other⟩
          rcases cs with _ | ⟨c, _ | ⟨c', more⟩⟩
          · simp only [throw, throwThe, MonadExceptOf.throw, Except.error.injEq] at h
            exact last _ h fun _ => by simp
          · by_cases guarded : c.guard.isSome = true
            · simp only [guarded, if_true, throw, throwThe, MonadExceptOf.throw,
                Except.error.injEq] at h
              exact last _ h fun _ => by simp
            · simp [guarded, pure, Except.pure] at h
          · by_cases blank : ((c :: c' :: more).any fun c => (c.text.getD "").isEmpty) = true
            · simp only [blank, if_true, throw, throwThe, MonadExceptOf.throw,
                Except.error.injEq] at h
              exact last _ h fun _ => by simp
            · simp [blank, pure, Except.pure] at h

theorem Block.read_of_logic_error {b : Block} {name : String} {e : Error}
    (header : readHeader b.header = .ok name) (logic : b.logic.mapM readLogicLine = .error e) :
    b.read = .error e := by
  simp only [Block.read, header, logic, bind, Except.bind]

theorem readPages_error {acc : List (String × Page)} {lines : List Line} {e : Error}
    (h : readPages acc lines = .error e) : ∃ l ∈ lines, e.At l := by
  fun_induction readPages acc lines with
  | case1 => cases h
  | case2 acc header rest b after split e' read =>
    cases h
    obtain ⟨l, member, reported⟩ := Block.read_error read
    obtain ⟨same, rest_eq⟩ := Block.split_lines split
    refine ⟨l, ?_, reported⟩
    simp only [Block.lines, same, List.mem_cons, List.mem_append] at member
    rw [rest_eq]
    simp only [List.mem_cons, List.mem_append]
    tauto
  | case3 acc header rest b after split name page read duplicate =>
    cases h
    obtain ⟨-, -, -, -, -, -, -, rfl⟩ := Block.read_eq_ok.1 read
    exact ⟨header, List.mem_cons_self, by rw [(Block.split_lines split).1], fun _ same => by cases same⟩
  | case4 acc header rest b after split name page read fresh ih =>
    obtain ⟨l, member, reported⟩ := ih h
    refine ⟨l, List.mem_cons_of_mem _ ?_, reported⟩
    rw [(Block.split_lines split).2]
    exact List.mem_append_right _ member

theorem readPages_of_read_error {acc : List (String × Page)} {header : Line} {rest : List Line}
    {b : Block} {after : List Line} {e : Error} (split : Block.split header rest = (b, after))
    (read : b.read = .error e) : readPages acc (header :: rest) = .error e := by
  rw [readPages]
  split
  next b' after' cut =>
    rw [split, Prod.mk.injEq] at cut
    obtain ⟨rfl, rfl⟩ := cut
    rw [read]

theorem significantLines_number_pos {m : String} {l : Line} (member : l ∈ significantLines m) :
    0 < l.number := by
  unfold significantLines at member
  obtain ⟨⟨raw, n⟩, numbered, kept⟩ := List.mem_filterMap.1 member
  have counted := (List.mem_zipIdx numbered).1
  simp only at kept
  split at kept
  · cases kept
  · cases kept
    exact counted

theorem parse_error {m : String} {e : Error} (h : parse m = .error e) :
    (significantLines m = [] ∧ e = ⟨0, .noMarkup⟩) ∨ ∃ l ∈ significantLines m, e.At l := by
  unfold parse at h
  split at h
  · next none =>
    cases h
    exact .inl ⟨none, rfl⟩
  · next lines some =>
    split at h
    · next e' failed =>
      cases h
      exact .inr (readPages_error failed)
    · next read =>
      obtain ⟨bs, new, listed, found, reads, -, -⟩ := readPages_blocks read
      simp only [List.reverse_nil, List.nil_append] at found
      subst found
      cases reads
      exact absurd (by simpa using listed) some
    · cases h

theorem parse_of_readPages_error {m : String} {e : Error} (some : significantLines m ≠ [])
    (read : readPages [] (significantLines m) = .error e) : parse m = .error e := by
  unfold parse
  split
  next none => exact absurd none some
  next => rw [read]

end Markup

namespace Document

theorem addPages_of_canonical :
    ∀ (acc pages : List (String × Page)), (∀ e ∈ pages, canonicalName e.1 = e.1) →
      (∀ e ∈ pages, ∀ a ∈ acc, a.1 ≠ e.1) → (pages.map Prod.fst).Nodup →
      addPages acc pages = .ok (acc.reverse ++ pages)
  | acc, [], _, _, _ => by simp [addPages]
  | acc, (n, p) :: rest, canon, fresh, distinct => by
    have key : canonicalName n = n := canon (n, p) List.mem_cons_self
    have unseen : (acc.any fun a => a.1 == n) = false := by
      simpa using fun a member => fresh (n, p) List.mem_cons_self a member
    simp only [List.map_cons, List.nodup_cons] at distinct
    rw [addPages, key, unseen, if_neg Bool.false_ne_true,
      addPages_of_canonical ((n, p) :: acc) rest (fun e member => canon e (List.mem_cons_of_mem _ member))
        (fun e member a added => ?_) distinct.2]
    · simp
    · rcases List.mem_cons.1 added with rfl | earlier
      · intro same
        have named : e.1 ∈ rest.map Prod.fst := List.mem_map_of_mem member
        exact distinct.1 (by simpa [← same] using named)
      · exact fresh e (List.mem_cons_of_mem _ member) a earlier

end Document

namespace Markup

theorem build_of_parse {m : String} {d : Document} (h : parse m = .ok d) :
    Document.build d.entry d.pages = .ok d := by
  obtain ⟨parsed, -⟩ := parse_shape h
  have entry : canonicalName d.entry = d.entry := by
    have first := parsed.entry_first
    cases pages : d.pages with
    | nil => simp [pages] at first
    | cons e more =>
      simp only [pages, List.head?_cons, Option.map_some, Option.some.injEq] at first
      rw [← first]
      exact (parsed.names e (by simp [pages])).2.1
  have added := Document.addPages_of_canonical [] d.pages (fun e member => (parsed.names e member).2.1)
    (fun _ _ _ none => by cases none) parsed.names_nodup
  simp [Document.build, added, entry, Except.map]

theorem loadStory_error {m : String} {validate : Bool} {e : LoadError}
    (h : loadStory m validate = .error e) :
    (∃ e', e = .markup e' ∧ parse m = .error e') ∨
      (validate = true ∧ ∃ d c, parse m = .ok d ∧ d.check = .error c ∧ e = .check c) := by
  unfold loadStory at h
  cases parsed : parse m with
  | error e' =>
    simp only [parsed, Except.mapError, bind, Except.bind, Except.error.injEq] at h
    exact .inl ⟨e', h.symm, rfl⟩
  | ok d =>
    cases validate with
    | false => simp [parsed, Except.mapError, bind, Except.bind, pure, Except.pure] at h
    | true =>
      cases checked : d.check with
      | ok u => simp [parsed, checked, Except.mapError, bind, Except.bind, pure, Except.pure] at h
      | error c =>
        simp only [parsed, checked, Except.mapError, bind, Except.bind, if_true,
          Except.error.injEq] at h
        exact .inr ⟨rfl, d, c, rfl, checked, h.symm⟩

/-- Reading markup either gives a story the story constructor takes as it is, or fails. A failure
that is not a refusal of the markup is a number with more digits than the digit limit allows. A
refusal is reported at line 0 exactly when the text has no significant line (it is empty, blank,
or only comments and byte-order marks), and otherwise at the physical line of one of its
significant lines. Loading with checking on fails besides only with the check's failure. -/
theorem parse_outcome (m : String) :
    (∀ d, parse m = .ok d → Document.build d.entry d.pages = .ok d) ∧
    (∀ e, parse m = .error e →
      (e.fault.isRefusal = false →
        ∃ n, Number.decimalDigitLimit < n ∧ e.fault = .logic (.tooManyDigits n)) ∧
      (e.fault.isRefusal = true → (e.line = 0 ↔ significantLines m = []) ∧
        (significantLines m ≠ [] → e.line ∈ (significantLines m).map (·.number)))) ∧
    ∀ validate e, loadStory m validate = .error e →
      (∃ e', e = .markup e' ∧ parse m = .error e') ∨
        (validate = true ∧ ∃ d c, parse m = .ok d ∧ d.check = .error c ∧ e = .check c) := by
  refine ⟨fun d parsed => build_of_parse parsed, fun e failed => ?_,
    fun validate e loaded => loadStory_error loaded⟩
  rcases parse_error failed with ⟨none, rfl⟩ | ⟨l, member, reported⟩
  · refine ⟨fun refusal => by simp [Fault.isRefusal] at refusal, fun _ => ⟨⟨fun _ => none,
      fun _ => rfl⟩, fun some => absurd none some⟩⟩
  · have numbered : 0 < l.number := significantLines_number_pos member
    have some : significantLines m ≠ [] := List.ne_nil_of_mem member
    refine ⟨fun refusal => ?_, fun _ => ⟨?_, fun _ => ?_⟩⟩
    · -- the one fault that refuses nothing is a number past the digit limit
      cases fault : e.fault with
      | logic le =>
        cases le with
        | tooManyDigits n => exact ⟨n, reported.counted n fault, rfl⟩
        | _ => simp [Fault.isRefusal, fault] at refusal
      | _ => simp [Fault.isRefusal, fault] at refusal
    · rw [reported.line]
      exact ⟨fun zero => absurd zero (Nat.pos_iff_ne_zero.1 numbered), fun none => absurd none some⟩
    · rw [reported.line]
      exact List.mem_map_of_mem member

/-- A story whose one state line sets `x` to a number of 4301 digits. -/
def longNumberMarkup : String :=
  String.ofList (['-', '>', ' ', 'a', '\n', '{', 'x', ' ', '=', ' '] ++ List.replicate 4301 '1' ++
    ['}', '\n', 't', '\n', '*', ' ', '-', '>', ' ', 'e', 'n', 'd'])

/-- The state line of `longNumberMarkup`. -/
def longNumberLine : Line := ⟨2, ['{', 'x', ' ', '=', ' '] ++ List.replicate 4301 '1' ++ ['}']⟩

set_option maxRecDepth 100000 in
/-- A story that fails to read neither as a story nor as a refusal of its markup: its number has
more digits than the limit allows. -/
theorem long_number_fails_as_number :
    parse longNumberMarkup = .error ⟨2, .logic (.tooManyDigits 4301)⟩ ∧
      (Fault.logic (.tooManyDigits 4301)).isRefusal = false := by
  -- the text is taken apart as lists of characters, never as strings, so that the kernel does
  -- not encode the long line
  have lines : significantLines longNumberMarkup = [⟨1, ['-', '>', ' ', 'a']⟩, longNumberLine,
      ⟨3, ['t']⟩, ⟨4, ['*', ' ', '-', '>', ' ', 'e', 'n', 'd']⟩] := by
    unfold longNumberMarkup significantLines
    rw [String.toList_ofList]
    decide +kernel
  have parsed : Logic.parse (String.ofList (['x', ' ', '=', ' '] ++ List.replicate 4301 '1')) .state =
      .error (.tooManyDigits 4301) := by
    rw [Logic.parse, String.toList_ofList]
    decide +kernel
  have logic : readLogicLine longNumberLine = .error ⟨2, .logic (.tooManyDigits 4301)⟩ := by
    have framed : longNumberLine.text =
        '{' :: ((['x', ' ', '=', ' '] ++ List.replicate 4301 '1') ++ ['}']) := rfl
    unfold readLogicLine
    split
    next rest text =>
      rw [framed, List.cons.injEq] at text
      obtain ⟨-, rfl⟩ := text
      rw [if_pos (by decide +kernel), List.dropLast_concat, parsed]
      rfl
    next other =>
      exact absurd framed (other _)
  have header : readHeader ⟨1, ['-', '>', ' ', 'a']⟩ = .ok "a" := by decide +kernel
  have split : Block.split ⟨1, ['-', '>', ' ', 'a']⟩ [longNumberLine, ⟨3, ['t']⟩,
      ⟨4, ['*', ' ', '-', '>', ' ', 'e', 'n', 'd']⟩] = (⟨⟨1, ['-', '>', ' ', 'a']⟩, [longNumberLine],
        [⟨3, ['t']⟩], [⟨4, ['*', ' ', '-', '>', ' ', 'e', 'n', 'd']⟩]⟩, []) := rfl
  -- the failure is assembled from general lemmas: evaluating the block read outright would make
  -- the kernel parse the long line once more
  refine ⟨parse_of_readPages_error (by rw [lines]; exact List.cons_ne_nil _ _) ?_, rfl⟩
  rw [lines]
  exact readPages_of_read_error split (Block.read_of_logic_error header (mapM_cons_of_error logic))

end Markup

end Gamebook
