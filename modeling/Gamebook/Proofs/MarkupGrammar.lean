import Mathlib
import Gamebook.Proofs.MarkupReading
/- The language of markup that reads as a story. Its significant lines must be the lines of a
   sequence of page blocks: a header naming a page other than the end; the maximal run of state
   lines, each `{logic}` with state logic inside; the maximal run of body lines, leaving at least
   one fragment between break markers; and the maximal, non-empty run of choice lines, each an
   arrow to a link, with a guard that reads as a condition and text after it when the label opens
   with one. A single choice carries no guard, several are all labelled, and page names are
   distinct. Each line reader succeeds exactly on its kind of line, a block reads exactly when
   its lines do (`Block.read_succeeds`), and blocks cut at maximal runs are cut back the same way
   (`readPages_complete`). Main statement: `Markup.parse_succeeds_iff`. -/

namespace Gamebook.Markup

/-- A header line: an arrow followed, past white space, by a word character, naming a page other
than the end. -/
def HeaderLine (l : Line) : Prop :=
  ∃ before name, splitAtArrow l.text = some (before, name) ∧
    canonicalName (String.ofList name) ≠ endName

/-- The page name a header line declares. -/
def headerName (l : Line) : String :=
  match splitAtArrow l.text with
  | some (_, name) => canonicalName (String.ofList name)
  | none => ""

theorem readHeader_eq_ok {l : Line} {name : String} :
    readHeader l = .ok name ↔ HeaderLine l ∧ headerName l = name := by
  unfold readHeader HeaderLine headerName
  cases found : splitAtArrow l.text with
  | none => simp
  | some parts =>
    obtain ⟨before, n⟩ := parts
    by_cases ending : canonicalName (String.ofList n) = endName
    · simp [ending]
    · simp [ending]

/-- A state line: `{` and `}` at its two ends and nowhere else, around logic that is not blank and
reads as state logic. -/
def LogicLine (l : Line) : Prop :=
  ∃ inner, l.text = '{' :: (inner ++ ['}']) ∧ (∀ c ∈ inner, c ≠ '{' ∧ c ≠ '}') ∧
    Text.trim inner ≠ [] ∧ ∃ g, Logic.parse (String.ofList inner) .state = .ok g

theorem readLogicLine_succeeds {l : Line} : (∃ g, readLogicLine l = .ok g) ↔ LogicLine l := by
  unfold readLogicLine LogicLine
  constructor
  · rintro ⟨g, h⟩
    split at h
    · next rest opens =>
      simp only at h
      split at h
      · next shaped =>
        rw [mapError_eq_ok] at h
        obtain ⟨closes, free, solid⟩ := shaped
        have whole : rest.dropLast ++ ['}'] = rest :=
          List.dropLast_append_getLast? '}' (by simpa using closes)
        refine ⟨rest.dropLast, by rw [opens, whole], ?_, by simpa using solid, g, h⟩
        simpa [List.any_eq_false] using free
      · cases h
    · cases h
  · rintro ⟨inner, shape, free, solid, g, parsed⟩
    rw [shape]
    simp only [List.dropLast_concat, List.getLast?_concat]
    rw [if_pos ⟨by simp, by simpa [List.any_eq_false] using free, by simpa using solid⟩]
    exact ⟨g, mapError_eq_ok.2 parsed⟩

/-- A choice line: `*`, a label, an arrow and a link; a guarded label's guard reads as a
condition and text follows it. -/
def ChoiceLine (l : Line) : Prop :=
  ∃ rest before name, l.text = '*' :: rest ∧ splitAtArrow rest = some (before, name) ∧
    ∀ guard after, Guarded (Text.trim before) guard after →
      (∃ g, Logic.parse (String.ofList guard) .guard = .ok g) ∧ Text.trim after ≠ []

/-- The stripped label of a choice line. -/
def choiceLabel (l : Line) : List Char :=
  match l.text with
  | '*' :: rest =>
    match splitAtArrow rest with
    | some (before, _) => Text.trim before
    | none => []
  | _ => []

theorem LabelRead.cases {label : List Char} {text : Option String} {guard : Option Logic}
    (reads : LabelRead label text guard) :
    (∀ g a, Guarded label g a →
      (∃ l, Logic.parse (String.ofList g) .guard = .ok l) ∧ Text.trim a ≠ []) ∧
    (guard.isSome = true ↔ ∃ g a, Guarded label g a) ∧ (text.getD "" = "" ↔ label = []) := by
  cases reads with
  | empty =>
    have unguarded : ∀ g a, ¬ Guarded [] g a := by
      rintro g a ⟨shape, -⟩
      cases shape
    exact ⟨fun g a cut => absurd cut (unguarded g a), by simpa using unguarded, by simp⟩
  | plain solid unguarded =>
    exact ⟨fun g a cut => absurd cut (unguarded g a), by simpa using unguarded,
      by simp [String.ofList_eq_empty_iff, solid]⟩
  | guarded cut parsed solid =>
    refine ⟨fun g a cut' => ?_, by simpa using ⟨_, _, cut⟩, ?_⟩
    · obtain ⟨rfl, rfl⟩ := guarded_unique cut cut'
      exact ⟨⟨_, parsed⟩, solid⟩
    · simp [String.ofList_eq_empty_iff, solid, cut.1]

theorem readChoice_cases {l : Line} {c : Choice} (h : readChoice l = .ok c) :
    ChoiceLine l ∧ (c.guard.isSome = true ↔ ∃ guard after, Guarded (choiceLabel l) guard after) ∧
      (c.text.getD "" = "" ↔ choiceLabel l = []) := by
  obtain ⟨rest, before, n, opens, found, -, reads⟩ := readChoice_eq_ok.1 h
  have label : choiceLabel l = Text.trim before := by simp [choiceLabel, opens, found]
  obtain ⟨guards, guarded, unlabelled⟩ := reads.cases
  rw [label]
  exact ⟨⟨rest, before, n, opens, found, guards⟩, guarded, unlabelled⟩

theorem readChoice_of_line {l : Line} (line : ChoiceLine l) : ∃ c, readChoice l = .ok c := by
  obtain ⟨rest, before, n, opens, found, guards⟩ := line
  -- the label is empty, opens with a guard, or is plain; each reads
  have reads : ∃ text guard, LabelRead (Text.trim before) text guard := by
    by_cases empty : Text.trim before = []
    · refine ⟨none, none, ?_⟩
      rw [empty]
      exact .empty
    · by_cases opened : ∃ guard after, Guarded (Text.trim before) guard after
      · obtain ⟨guard, after, cut⟩ := opened
        obtain ⟨⟨g, parsed⟩, solid⟩ := guards guard after cut
        exact ⟨_, _, .guarded cut parsed solid⟩
      · exact ⟨_, _, .plain empty fun guard after cut => opened ⟨guard, after, cut⟩⟩
  obtain ⟨text, guard, reads⟩ := reads
  exact ⟨⟨_, text, guard⟩, readChoice_eq_ok.2 ⟨rest, before, n, opens, found, rfl, reads⟩⟩

/-- The rules on a page's choices, read off its choice lines: there is one, a single one is not
guarded, and several are all labelled. -/
structure ChoiceLinesRules (ls : List Line) : Prop where
  choices_ne : ls ≠ []
  single : ∀ l, ls = [l] → ∀ guard after, ¬ Guarded (choiceLabel l) guard after
  several : 2 ≤ ls.length → ∀ l ∈ ls, choiceLabel l ≠ []

theorem choiceRules_iff {ls : List Line} {cs : List Choice}
    (reads : List.Forall₂ (fun l c => readChoice l = .ok c) ls cs) :
    ChoiceRules cs ↔ ChoiceLinesRules ls := by
  cases reads with
  | nil => exact ⟨fun rules => absurd rfl rules.1, fun rules => absurd rfl rules.choices_ne⟩
  | @cons l c ls cs read rest =>
    obtain ⟨-, guarded, labelled⟩ := readChoice_cases read
    cases rest with
    | nil =>
      have unguarded : c.guard = none ↔ ∀ guard after, ¬ Guarded (choiceLabel l) guard after := by
        rw [← Option.not_isSome_iff_eq_none, guarded]
        simp
      constructor
      · rintro ⟨-, single, -⟩
        exact ⟨by simp, (fun l' same => by cases same; exact unguarded.1 (single c rfl)), by simp⟩
      · rintro ⟨-, single, -⟩
        exact ⟨by simp, (fun c' same => by cases same; exact unguarded.2 (single l rfl)), by simp⟩
    | @cons l' c' ls cs read' rest =>
      have agree := forall_iff_of_forall₂ (P := fun l => choiceLabel l ≠ [])
        (Q := fun c => c.text.getD "" ≠ "") (fun l c read => by
          simp only [ne_eq, (readChoice_cases read).2.2]) (.cons read (.cons read' rest))
      constructor
      · rintro ⟨-, -, several⟩
        exact ⟨by simp, (fun _ same => by cases same), fun _ => agree.2 (several (by simp))⟩
      · rintro ⟨-, -, several⟩
        exact ⟨by simp, (fun _ same => by cases same), fun _ => agree.1 (several (by simp))⟩


/-- A block that reads: its header names a page other than the end, its state and choice lines
are well formed, its body leaves a fragment, and its choice lines keep the rules on their
number. -/
structure Block.Reads (b : Block) : Prop where
  header : HeaderLine b.header
  logic : ∀ l ∈ b.logic, LogicLine l
  texts : bodyTexts b.body ≠ []
  choices : ∀ l ∈ b.choices, ChoiceLine l
  rules : ChoiceLinesRules b.choices

theorem Block.read_succeeds {b : Block} : (∃ e, b.read = .ok e) ↔ b.Reads := by
  constructor
  · rintro ⟨⟨name, page⟩, h⟩
    obtain ⟨header, solid, logics, choices, readLogics, readChoices, rules, -⟩ :=
      Block.read_eq_ok.1 h
    refine ⟨(readHeader_eq_ok.1 header).1, ?_, solid, ?_,
      (choiceRules_iff (mapM_eq_ok.1 readChoices)).1 rules⟩
    · intro l mem
      obtain ⟨g, -, read⟩ := ok_of_mapM_eq_ok readLogics mem
      exact readLogicLine_succeeds.1 ⟨g, read⟩
    · intro l mem
      obtain ⟨c, -, read⟩ := ok_of_mapM_eq_ok readChoices mem
      exact (readChoice_cases read).1
  · rintro ⟨header, logic, solid, choices, rules⟩
    obtain ⟨logics, readLogics⟩ :=
      mapM_ok_of_forall fun l mem => readLogicLine_succeeds.2 (logic l mem)
    obtain ⟨cs, readChoices⟩ := mapM_ok_of_forall fun l mem => readChoice_of_line (choices l mem)
    exact ⟨_, Block.read_eq_ok.2 ⟨readHeader_eq_ok.2 ⟨header, rfl⟩, solid, logics, cs, readLogics,
      readChoices, (choiceRules_iff (mapM_eq_ok.1 readChoices)).2 rules, rfl⟩⟩

theorem Block.read_name {b : Block} {e : String × Page} (h : b.read = .ok e) :
    e.1 = headerName b.header := by
  obtain ⟨name, page⟩ := e
  obtain ⟨header, -⟩ := Block.read_eq_ok.1 h
  exact (readHeader_eq_ok.1 header).2.symm


theorem readPages_complete {bs : List Block} (cut : ∀ b ∈ bs, b.Runs ∧ b.Reads)
    (heads : ∀ b ∈ bs.tail, opensWith '*' b.header = false) {acc : List (String × Page)}
    (fresh : ∀ b ∈ bs, ∀ e ∈ acc, e.1 ≠ headerName b.header)
    (distinct : (bs.map (fun b => headerName b.header)).Nodup) :
    ∃ new, readPages acc (bs.flatMap Block.lines) = .ok (acc.reverse ++ new) ∧
      new.length = bs.length := by
  induction bs generalizing acc with
  | nil =>
    refine ⟨[], ?_, rfl⟩
    rw [List.flatMap_nil, readPages, List.append_nil]
  | cons b bs ih =>
    obtain ⟨runs, reads⟩ := cut b List.mem_cons_self
    have next : ∀ l ∈ (bs.flatMap Block.lines).head?, opensWith '*' l = false := by
      cases bs with
      | nil => simp
      | cons b' more => simpa [Block.lines] using heads b' (by simp)
    -- the runs are maximal, so the reader cuts this block off exactly
    have cutHere := Block.split_of_runs runs reads.rules.choices_ne next
    obtain ⟨⟨name, page⟩, read⟩ := Block.read_succeeds.2 reads
    have named : name = headerName b.header := Block.read_name read
    rw [List.flatMap_cons, Block.lines, List.cons_append, readPages]
    split
    next b' after split =>
      rw [cutHere, Prod.mk.injEq] at split
      obtain ⟨rfl, rfl⟩ := split
      have unused : (acc.any fun x => x.1 == name) = false := by
        simp only [List.any_eq_false, beq_iff_eq]
        exact fun e mem same => fresh b List.mem_cons_self e mem (same.trans named)
      simp only [read, unused, Bool.false_eq_true, if_false]
      obtain ⟨outside, distinct⟩ := List.nodup_cons.1 distinct
      have fresh' : ∀ b ∈ bs, ∀ e ∈ (name, page) :: acc, e.1 ≠ headerName b.header := by
        rintro other mem e (_ | ⟨_, earlier⟩)
        · intro same
          apply outside
          show headerName b.header ∈ _
          rw [← named, show name = headerName other.header from same]
          exact List.mem_map_of_mem mem
        · exact fresh other (List.mem_cons_of_mem _ mem) e earlier
      obtain ⟨new, rest, count⟩ := ih (fun b mem => cut b (List.mem_cons_of_mem _ mem))
        (fun b mem => heads b (List.mem_of_mem_tail mem)) fresh' distinct
      exact ⟨(name, page) :: new, by rw [rest]; simp, by simp [count]⟩

/-- Markup reads as a story exactly when its significant lines are not empty and are the lines of
a sequence of blocks, each cut at maximal runs and reading, every block after the first opening on
a line that is not a choice, with distinct page names. -/
theorem parse_succeeds_iff (m : String) :
    (∃ d, parse m = .ok d) ↔ significantLines m ≠ [] ∧ ∃ bs : List Block,
      significantLines m = bs.flatMap Block.lines ∧ (∀ b ∈ bs, b.Runs ∧ b.Reads) ∧
      (∀ b ∈ bs.tail, opensWith '*' b.header = false) ∧
      (bs.map (fun b => headerName b.header)).Nodup := by
  constructor
  · rintro ⟨d, h⟩
    have nonempty : significantLines m ≠ [] := by
      intro none
      unfold parse at h
      rw [none] at h
      cases h
    obtain ⟨read, -⟩ := parse_eq_ok h
    obtain ⟨bs, pages, lines, listed, reads, runs, heads⟩ := readPages_blocks read
    simp only [List.reverse_nil, List.nil_append] at listed
    subst listed
    have names : d.pages.map (·.1) = bs.map (fun b => headerName b.header) :=
      (map_eq_map_of_forall₂ (f := fun b => headerName b.header) (g := fun e => e.1)
        (fun b e read => (Block.read_name read).symm) reads).symm
    refine ⟨nonempty, bs, lines, fun b mem => ⟨runs b mem, ?_⟩, heads, ?_⟩
    · obtain ⟨e, -, read⟩ := exists_of_forall₂_left reads mem
      exact Block.read_succeeds.1 ⟨e, read⟩
    · rw [← names]
      exact readPages_names read List.nodup_nil
  · rintro ⟨nonempty, bs, lines, cut, heads, distinct⟩
    obtain ⟨new, read, count⟩ := @readPages_complete bs cut heads [] (by simp) distinct
    unfold parse
    split
    · contradiction
    · rw [lines, read, List.reverse_nil, List.nil_append]
      cases new with
      | nil =>
        have none : bs = [] := List.length_eq_zero_iff.1 count.symm
        simp [none] at lines
        exact absurd lines nonempty
      | cons first more => exact ⟨_, rfl⟩

end Gamebook.Markup
