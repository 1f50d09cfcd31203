import Mathlib
import Gamebook.Markup.Parse
import Gamebook.Proofs.CanonicalName
import Gamebook.Proofs.Except
/- What reading markup establishes, line by line and block by block. A header names a page by a
   canonical, non-empty name other than the end's; a state line holds logic that changes, a
   choice line a canonical link, a comparing guard and a trimmed label; a body's fragments are
   non-empty and free of break markers; significant lines are numbered in increasing order. The
   lines are cut into blocks at maximal runs (`Block.split_of_runs` is the converse of the cut),
   a block reads exactly when its parts do (`Block.read_eq_ok`), and reading pages reads the
   lines as a sequence of such blocks (`readPages_blocks`). -/

namespace Gamebook

theorem Text.trim_trim (l : List Char) : Text.trim (Text.trim l) = Text.trim l :=
  Text.trim_eq_self (Text.head?_trim l) (Text.getLast?_trim l)

theorem Operator.role_eq_state {o : Operator} : o.role = .state ↔ o.changes = true := by
  cases o <;> decide

theorem Operator.role_eq_guard {o : Operator} : o.role = .guard ↔ o.changes = false := by
  cases o <;> decide

theorem Logic.parse_ok {code : String} {role : Role} {g : Logic}
    (h : Logic.parse code role = .ok g) : g.op.role = role ∧ canonicalName g.lhs = g.lhs := by
  unfold Logic.parse at h
  split at h
  · cases h
  · split at h
    · cases h
    · split at h
      · next suits =>
        cases h
        exact ⟨suits, canonicalName_canonicalName _⟩
      · cases h
  · cases h

namespace Markup
open Unicode

theorem splitAtArrow_name {t before name : List Char} (h : splitAtArrow t = some (before, name)) :
    ∃ c more, name = c :: more ∧ isWord c = true := by
  fun_induction splitAtArrow t generalizing before with
  | case1 => cases h
  | case2 rest c more found word => 
    simp at h
    obtain ⟨-, rfl⟩ := h
    exact ⟨c, more, rfl, word⟩
  | case3 rest c more found notWord ih =>
    obtain ⟨⟨b, n⟩, inner, same⟩ := Option.map_eq_some_iff.1 h
    cases same
    exact ih inner
  | case4 rest found ih =>
    obtain ⟨⟨b, n⟩, inner, same⟩ := Option.map_eq_some_iff.1 h
    cases same
    exact ih inner
  | case5 c rest notArrow ih =>
    obtain ⟨⟨b, n⟩, inner, same⟩ := Option.map_eq_some_iff.1 h
    cases same
    exact ih inner

theorem readHeader_ok {l : Line} {name : String} (h : readHeader l = .ok name) :
    name ≠ "" ∧ canonicalName name = name ∧ name ≠ endName := by
  unfold readHeader at h
  split at h
  · cases h
  · next before n found =>
    simp only at h
    split at h
    · cases h
    · next notEnd =>
      cases h
      obtain ⟨c, more, rfl, word⟩ := splitAtArrow_name found
      exact ⟨canonicalName_ne_empty List.mem_cons_self (Unicode.isSpace_of_isWord word),
        canonicalName_canonicalName _, notEnd⟩

theorem readLogicLine_ok {l : Line} {g : Logic} (h : readLogicLine l = .ok g) :
    g.op.changes = true ∧ canonicalName g.lhs = g.lhs := by
  unfold readLogicLine at h
  split at h
  · simp only at h
    split at h
    · rw [mapError_eq_ok] at h
      obtain ⟨role, canon⟩ := Logic.parse_ok h
      exact ⟨Operator.role_eq_state.1 role, canon⟩
    · cases h
  · cases h

theorem trimmed_text {x : List Char} (solid : Text.trim x ≠ []) :
    String.ofList (Text.trim x) ≠ "" ∧
      Text.trim (String.ofList (Text.trim x)).toList = (String.ofList (Text.trim x)).toList := by
  rw [String.toList_ofList, Text.trim_trim, Ne, String.ofList_eq_empty_iff]
  exact ⟨solid, rfl⟩

/-- A label opening with a guard `{guard}` free of braces, followed by `after`. -/
def Guarded (label guard after : List Char) : Prop :=
  label = '{' :: (guard ++ '}' :: after) ∧ ∀ c ∈ guard, c ≠ '{' ∧ c ≠ '}'

theorem guarded_cut {inside guard after : List Char} :
    Guarded ('{' :: inside) guard after ↔
      inside.takeWhile (fun c => c != '{' && c != '}') = guard ∧
        inside.dropWhile (fun c => c != '{' && c != '}') = '}' :: after := by
  constructor
  · rintro ⟨shape, free⟩
    have open_ : ∀ c ∈ guard, (c != '{' && c != '}') = true := by
      intro c mem
      simpa using free c mem
    rw [List.cons.injEq] at shape
    rw [shape.2, List.takeWhile_append_of_pos open_, List.dropWhile_append_of_pos open_]
    simp
  · rintro ⟨taken, dropped⟩
    refine ⟨?_, ?_⟩
    · rw [← taken, ← dropped, List.takeWhile_append_dropWhile]
    · intro c mem
      rw [← taken] at mem
      simpa using List.mem_takeWhile_imp mem

theorem guarded_unique {label guard after guard' after' : List Char}
    (cut : Guarded label guard after) (cut' : Guarded label guard' after') :
    guard = guard' ∧ after = after' := by
  obtain ⟨shape, free⟩ := cut
  subst shape
  obtain ⟨taken, dropped⟩ := guarded_cut.1 cut'
  obtain ⟨taken₀, dropped₀⟩ :=
    guarded_cut.1 (⟨rfl, free⟩ : Guarded ('{' :: (guard ++ '}' :: after)) guard after)
  rw [taken₀] at taken
  rw [dropped₀, List.cons.injEq] at dropped
  exact ⟨taken, dropped.2⟩

/-- What a choice's stripped label reads as: nothing, a plain text, or a guard with text after
it. -/
inductive LabelRead : List Char → Option String → Option Logic → Prop
  | empty : LabelRead [] none none
  | plain {label : List Char} (solid : label ≠ [])
      (unguarded : ∀ guard after, ¬ Guarded label guard after) :
      LabelRead label (some (String.ofList label)) none
  | guarded {label guard after : List Char} {g : Logic} (cut : Guarded label guard after)
      (parsed : Logic.parse (String.ofList guard) .guard = .ok g) (solid : Text.trim after ≠ []) :
      LabelRead label (some (String.ofList (Text.trim after))) (some g)

theorem readChoice_eq_ok {l : Line} {c : Choice} :
    readChoice l = .ok c ↔ ∃ rest before name, l.text = '*' :: rest ∧
      splitAtArrow rest = some (before, name) ∧ c.link = canonicalName (String.ofList name) ∧
      LabelRead (Text.trim before) c.text c.guard := by
  constructor
  · intro h
    unfold readChoice at h
    split at h
    · next rest opens =>
      split at h
      · cases h
      · next before n found =>
        refine ⟨rest, before, n, opens, found, ?_⟩
        simp only at h
        -- the label is empty, opens a guard that closes, opens one that does not, or is plain
        split at h
        · next empty =>
          injection h with same
          subst same
          exact ⟨rfl, empty ▸ .empty⟩
        · next inside opensBrace =>
          split at h
          · next after closes =>
            split at h
            · cases h
            · next g parsed =>
              split at h
              · cases h
              · next solid =>
                injection h with same
                subst same
                exact ⟨rfl, .guarded (opensBrace ▸ guarded_cut.2 ⟨rfl, closes⟩) parsed
                  (by simpa using solid)⟩
          · next unclosed =>
            injection h with same
            subst same
            refine ⟨rfl, .plain (by simp [opensBrace]) ?_⟩
            rintro guard after cut
            rw [opensBrace] at cut
            exact unclosed after (guarded_cut.1 cut).2
        · next notEmpty notBrace =>
          injection h with same
          subst same
          refine ⟨rfl, .plain notEmpty ?_⟩
          rintro guard after ⟨shape, -⟩
          exact notBrace _ shape
    · cases h
  · obtain ⟨link, text, guard⟩ := c
    rintro ⟨rest, before, n, opens, found, named, reads⟩
    simp only at named reads
    subst named
    unfold readChoice
    rw [opens]
    simp only [found]
    generalize Text.trim before = label at reads ⊢
    cases reads with
    | empty => rfl
    | plain solid unguarded =>
      split
      · contradiction
      · split
        · next closes => exact absurd (guarded_cut.2 ⟨rfl, closes⟩) (unguarded _ _)
        · rfl
      · rfl
    | @guarded label guard after g cut parsed solid =>
      obtain ⟨shape, free⟩ := cut
      subst shape
      obtain ⟨taken, dropped⟩ :=
        guarded_cut.1 (⟨rfl, free⟩ : Guarded ('{' :: (guard ++ '}' :: after)) guard after)
      simp only [dropped, taken, parsed]
      rw [if_neg (by simpa using solid)]

theorem LabelRead.guard_compares {label : List Char} {text : Option String} {guard : Option Logic}
    (reads : LabelRead label text guard) :
    ∀ g, guard = some g → g.op.changes = false ∧ canonicalName g.lhs = g.lhs := by
  cases reads with
  | empty | plain => simp
  | guarded _ parsed _ =>
    rintro g ⟨⟩
    obtain ⟨role, canon⟩ := Logic.parse_ok parsed
    exact ⟨Operator.role_eq_guard.1 role, canon⟩

theorem LabelRead.text_trimmed {label : List Char} {text : Option String} {guard : Option Logic}
    (reads : LabelRead label text guard) (trimmed : Text.trim label = label) :
    ∀ t, text = some t → t ≠ "" ∧ Text.trim t.toList = t.toList := by
  cases reads with
  | empty => simp
  | plain solid =>
    rintro t ⟨⟩
    simpa [String.ofList_eq_empty_iff, trimmed] using solid
  | guarded _ _ solid =>
    rintro t ⟨⟩
    exact trimmed_text solid

/-- What the choice reader guarantees of a choice. -/
structure ChoiceFacts (c : Choice) : Prop where
  link_ne : c.link ≠ ""
  link_canonical : canonicalName c.link = c.link
  guard_compares : ∀ g, c.guard = some g → g.op.changes = false ∧ canonicalName g.lhs = g.lhs
  text_trimmed : ∀ t, c.text = some t → t ≠ "" ∧ Text.trim t.toList = t.toList

theorem readChoice_facts {l : Line} {c : Choice} (h : readChoice l = .ok c) : ChoiceFacts c := by
  obtain ⟨rest, before, n, -, found, named, reads⟩ := readChoice_eq_ok.1 h
  obtain ⟨first, more, rfl, word⟩ := splitAtArrow_name found
  refine ⟨?_, ?_, reads.guard_compares, reads.text_trimmed (Text.trim_trim before)⟩
  · rw [named]
    exact canonicalName_ne_empty List.mem_cons_self (Unicode.isSpace_of_isWord word)
  · rw [named]
    exact canonicalName_canonicalName _

theorem piece_clear {cur s : List Char}
    (clear : ∀ a b, cur.reverse ++ s = a ++ ['[', 'b', 'r', ']'] ++ b → cur.length ≤ a.length) :
    ¬ ['[', 'b', 'r', ']'] <:+: cur.reverse := by
  rintro ⟨a, b, found⟩
  have bound := clear a (b ++ s) (by rw [← found]; simp)
  have size := congrArg List.length found
  simp only [List.length_append, List.length_reverse, List.length_cons, List.length_nil] at size
  omega

theorem splitBreaks_clear {cur s : List Char}
    (clear : ∀ a b, cur.reverse ++ s = a ++ ['[', 'b', 'r', ']'] ++ b → cur.length ≤ a.length) :
    ∀ piece ∈ splitBreaks cur s, ¬ ['[', 'b', 'r', ']'] <:+: piece := by
  fun_induction splitBreaks cur s with
  | case1 cur =>
    intro piece found
    rw [List.mem_singleton.1 found]
    exact piece_clear clear
  | case2 cur c rest marked ih =>
    rintro piece (_ | ⟨_, later⟩)
    · exact piece_clear clear
    · exact ih (fun _ _ _ => Nat.zero_le _) piece later
  | case3 cur c rest unspaced marked ih =>
    rintro piece (_ | ⟨_, later⟩)
    · exact piece_clear clear
    · exact ih (fun _ _ _ => Nat.zero_le _) piece later
  | case4 cur c rest unspaced unmarked ih =>
    apply ih
    intro a b found
    have shifted : cur.reverse ++ c :: rest = a ++ ['[', 'b', 'r', ']'] ++ b := by
      simpa using found
    rcases (clear a b shifted).lt_or_eq with longer | same
    · simpa using longer
    · -- a marker starting right at `c` would have been cut
      rw [List.append_assoc] at shifted
      have rest_marked := (List.append_inj shifted (by simp [same])).2
      exact absurd (by rw [rest_marked]; rfl) unmarked

theorem bodyTexts_solid {body : List Line} {t : String} (mem : t ∈ bodyTexts body) :
    t ≠ "" ∧ ¬ "[br]".toList <:+: t.toList := by
  simp only [bodyTexts, List.mem_map, List.mem_filter] at mem
  obtain ⟨piece, ⟨cut, solid⟩, rfl⟩ := mem
  have unmarked := splitBreaks_clear (fun _ _ _ => Nat.zero_le _) piece cut
  refine ⟨?_, by simpa using unmarked⟩
  simpa [String.ofList_eq_empty_iff] using solid

theorem significantLines_increasing (m : String) :
    (significantLines m).Pairwise (fun a b => a.number < b.number) := by
  have numbered : ∀ l : List (List Char), (l.zipIdx 1).Pairwise (fun a b => a.2 < b.2) := by
    intro l
    apply List.pairwise_map.1
    rw [List.zipIdx_map_snd]
    exact List.pairwise_lt_range'
  unfold significantLines
  rw [List.pairwise_filterMap]
  refine (numbered _).imp ?_
  rintro ⟨raw, n⟩ ⟨raw', n'⟩ lt l kept l' kept'
  simp only at kept kept'
  split at kept
  · cases kept
  · split at kept'
    · cases kept'
    · cases kept
      cases kept'
      exact lt

/-- The lines of a block, in reading order. -/
def Block.lines (b : Block) : List Line := b.header :: (b.logic ++ b.body ++ b.choices)

/-- A block cut at maximal runs: state lines open with `{`, body lines with neither `*` nor `-`,
choice lines with `*`, and the body does not open with `{`. -/
structure Block.Runs (b : Block) : Prop where
  logic : ∀ l ∈ b.logic, opensWith '{' l = true
  body : ∀ l ∈ b.body, isBodyLine l = true
  choices : ∀ l ∈ b.choices, opensWith '*' l = true
  body_head : ∀ l ∈ b.body.head?, opensWith '{' l = false

theorem head_dropWhile {α : Type} {p : α → Bool} {l : List α} :
    ∀ x ∈ (l.dropWhile p).head?, p x = false := by
  intro x first
  have stops := List.head?_dropWhile_not p l
  rw [Option.mem_def.1 first] at stops
  exact stops

theorem takeWhile_of_head {α : Type} {p : α → Bool} {l : List α}
    (stop : ∀ x ∈ l.head?, p x = false) : l.takeWhile p = [] := by
  cases l with
  | nil => rfl
  | cons a l => simp [stop a rfl]

theorem dropWhile_of_head {α : Type} {p : α → Bool} {l : List α}
    (stop : ∀ x ∈ l.head?, p x = false) : l.dropWhile p = l := by
  cases l with
  | nil => rfl
  | cons a l => simp [stop a rfl]

theorem takeWhile_run {α : Type} {p : α → Bool} {ds rest : List α} (run : ∀ d ∈ ds, p d = true)
    (stop : ∀ d ∈ rest.head?, p d = false) :
    (ds ++ rest).takeWhile p = ds ∧ (ds ++ rest).dropWhile p = rest := by
  rw [List.takeWhile_append_of_pos run, List.dropWhile_append_of_pos run,
    takeWhile_of_head stop, dropWhile_of_head stop, List.append_nil]
  exact ⟨rfl, rfl⟩

theorem opensWith_other {c d : Char} {l : Line} (opens : opensWith c l = true) (other : c ≠ d) :
    opensWith d l = false := by
  simp only [opensWith, beq_iff_eq] at opens ⊢
  simp [opens, other]

theorem choice_not_body {l : Line} (opens : opensWith '*' l = true) : isBodyLine l = false := by
  simp [isBodyLine, opens]

theorem Block.split_lines {header : Line} {rest after : List Line} {b : Block}
    (h : Block.split header rest = (b, after)) :
    b.header = header ∧ rest = b.logic ++ b.body ++ b.choices ++ after := by
  simp only [Block.split, Prod.mk.injEq] at h
  obtain ⟨rfl, rfl⟩ := h
  simp [List.takeWhile_append_dropWhile]

theorem Block.split_after {header : Line} {rest after : List Line} {b : Block}
    (h : Block.split header rest = (b, after)) : ∀ l ∈ after.head?, opensWith '*' l = false := by
  simp only [Block.split, Prod.mk.injEq] at h
  rw [← h.2]
  exact head_dropWhile

theorem Block.split_runs {header : Line} {rest after : List Line} {b : Block}
    (h : Block.split header rest = (b, after)) : b.Runs := by
  simp only [Block.split, Prod.mk.injEq] at h
  obtain ⟨rfl, -⟩ := h
  refine ⟨fun _ => List.mem_takeWhile_imp, fun _ => List.mem_takeWhile_imp,
    fun _ => List.mem_takeWhile_imp, ?_⟩
  intro l first
  rw [List.head?_takeWhile] at first
  exact head_dropWhile l (Option.mem_filter_iff.1 first).1

theorem Block.split_of_runs {b : Block} {after : List Line} (runs : b.Runs)
    (chosen : b.choices ≠ []) (next : ∀ l ∈ after.head?, opensWith '*' l = false) :
    Block.split b.header (b.logic ++ b.body ++ b.choices ++ after) = (b, after) := by
  obtain ⟨c, cs, listed⟩ := List.exists_cons_of_ne_nil chosen
  have opens := runs.choices c (by simp [listed])
  have choicesFirst : ∀ l ∈ (b.choices ++ after).head?, isBodyLine l = false := by
    simp [listed, choice_not_body opens]
  have bodyFirst : ∀ l ∈ (b.body ++ (b.choices ++ after)).head?, opensWith '{' l = false := by
    cases body : b.body with
    | nil => simp [listed, opensWith_other opens (by decide : '*' ≠ '{')]
    | cons l more => simpa [body] using runs.body_head
  simp only [Block.split, List.append_assoc]
  rw [List.takeWhile_append_of_pos runs.logic, List.dropWhile_append_of_pos runs.logic,
    takeWhile_of_head bodyFirst, dropWhile_of_head bodyFirst,
    List.takeWhile_append_of_pos runs.body, List.dropWhile_append_of_pos runs.body,
    takeWhile_of_head choicesFirst, dropWhile_of_head choicesFirst,
    List.takeWhile_append_of_pos runs.choices, List.dropWhile_append_of_pos runs.choices,
    takeWhile_of_head next, dropWhile_of_head next]
  simp

def ChoiceRules (cs : List Choice) : Prop :=
  cs ≠ [] ∧ (∀ c, cs = [c] → c.guard = none) ∧ (2 ≤ cs.length → ∀ c ∈ cs, c.text.getD "" ≠ "")

theorem Block.read_eq_ok {b : Block} {name : String} {page : Page} :
    b.read = .ok (name, page) ↔ readHeader b.header = .ok name ∧ bodyTexts b.body ≠ [] ∧
      ∃ logics choices, b.logic.mapM readLogicLine = .ok logics ∧
        b.choices.mapM readChoice = .ok choices ∧ ChoiceRules choices ∧
        ⟨bodyTexts b.body, choices, logics, b.header.number⟩ = page := by
  unfold Block.read
  -- one case split per check of the block, in the order the reader makes them
  cases header : readHeader b.header with
  | error e => simp [bind, Except.bind]
  | ok n =>
    cases logics : b.logic.mapM readLogicLine with
    | error e => simp [bind, Except.bind]
    | ok ls =>
      by_cases empty : bodyTexts b.body = []
      · simp [bind, Except.bind, empty, throw, throwThe, MonadExceptOf.throw]
      · have texts : (bodyTexts b.body).isEmpty = false := by simpa using empty
        cases choices : b.choices.mapM readChoice with
        | error e => simp [bind, Except.bind, texts]
        | ok cs =>
          rcases cs with _ | ⟨c, _ | ⟨c', more⟩⟩
          · simp [bind, Except.bind, texts, ChoiceRules, throw, throwThe, MonadExceptOf.throw]
          · cases guard : c.guard <;>
              simp [bind, Except.bind, texts, empty, ChoiceRules, throw, throwThe,
                MonadExceptOf.throw, guard, pure, Except.pure]
          · have several : 2 ≤ (c :: c' :: more).length := by simp
            by_cases labelled : ∀ x ∈ c :: c' :: more, x.text.getD "" ≠ ""
            · have clear : ((c :: c' :: more).any fun c => (c.text.getD "").isEmpty) = false := by
                simpa [List.any_eq_false, String.isEmpty_iff] using labelled
              simp only [bind, Except.bind, texts, clear, pure, Except.pure]
              simp [ChoiceRules, labelled, empty]
              exact fun _ _ a mem => labelled a (by simp [mem])
            · obtain ⟨x, mem, blank⟩ := not_forall₂.1 labelled
              have found : ((c :: c' :: more).any fun c => (c.text.getD "").isEmpty) = true :=
                List.any_eq_true.2 ⟨x, mem, by simpa [String.isEmpty_iff] using blank⟩
              simp only [bind, Except.bind, texts, found, throw, throwThe, MonadExceptOf.throw]
              simp only [Bool.false_eq_true, if_false, if_true, reduceCtorEq, false_iff, not_and,
                not_exists]
              intro _ _ _ cs _ listed rules _
              injection listed with listed
              subst listed
              exact absurd (rules.2.2 several) labelled

theorem readPages_blocks {acc ps : List (String × Page)} {lines : List Line}
    (h : readPages acc lines = .ok ps) :
    ∃ bs new, lines = bs.flatMap Block.lines ∧ ps = acc.reverse ++ new ∧
      List.Forall₂ (fun b e => b.read = .ok e) bs new ∧ (∀ b ∈ bs, b.Runs) ∧
      ∀ b ∈ bs.tail, opensWith '*' b.header = false := by
  fun_induction readPages acc lines with
  | case1 acc =>
    cases h
    exact ⟨[], [], rfl, by simp, .nil, by simp, by simp⟩
  | case2 => cases h
  | case3 => cases h
  | case4 acc header rest b after split name page read fresh ih =>
    obtain ⟨bs, new, rfl, rfl, reads, runs, heads⟩ := ih h
    obtain ⟨same, rest_eq⟩ := Block.split_lines split
    refine ⟨b :: bs, (name, page) :: new, ?_, by simp, .cons read reads, ?_, ?_⟩
    · rw [List.flatMap_cons, Block.lines, same, rest_eq]
      simp
    · rintro b' (_ | ⟨_, later⟩)
      · exact Block.split_runs split
      · exact runs b' later
    · -- the block after this one opens where the cut stopped, on no choice line
      have next := Block.split_after split
      rcases bs with _ | ⟨first, more⟩
      · simp
      · rintro b' (_ | ⟨_, later⟩)
        · exact next first.header (by simp [Block.lines])
        · exact heads b' later

theorem readPages_names {acc ps : List (String × Page)} {lines : List Line}
    (h : readPages acc lines = .ok ps) (distinct : (acc.map (·.1)).Nodup) :
    (ps.map (·.1)).Nodup := by
  fun_induction readPages acc lines with
  | case1 acc =>
    cases h
    rw [List.map_reverse, List.nodup_reverse]
    exact distinct
  | case2 => cases h
  | case3 => cases h
  | case4 acc header rest b after split name page read fresh ih =>
    refine ih h (List.nodup_cons.2 ⟨?_, distinct⟩)
    simpa using fresh

theorem parse_eq_ok {m : String} {d : Document} (h : parse m = .ok d) :
    readPages [] (significantLines m) = .ok d.pages ∧ d.pages.head?.map Prod.fst = some d.entry := by
  unfold parse at h
  split at h
  · cases h
  · split at h
    · cases h
    · cases h
    · next read =>
      cases h
      exact ⟨read, rfl⟩

end Markup

end Gamebook
