import Mathlib
import Gamebook.Proofs.MarkupReading
/- The shape of every story read from markup. Its entry is its first page; page names are
   canonical, non-empty, distinct and never the end's; state logic changes and guards compare,
   each on a canonical name; every page has body fragments, none empty or holding a break
   marker, and choices following the rules on their number; and pages are declared on
   increasing lines. A page then takes its choice without asking exactly when it has one
   unlabelled choice. Main statement: `Markup.parse_shape`. -/

namespace Gamebook

/-- What every page of a story read from markup satisfies. -/
structure Page.Parsed (p : Page) : Prop where
  logics : ∀ g ∈ p.logics, g.op ∈ [Operator.assign, .increase] ∧ canonicalName g.lhs = g.lhs
  texts_ne : p.texts ≠ []
  texts : ∀ t ∈ p.texts, t ≠ "" ∧ ¬ "[br]".toList <:+: t.toList
  choices_ne : p.choices ≠ []
  links : ∀ c ∈ p.choices, c.link ≠ "" ∧ canonicalName c.link = c.link
  guards : ∀ c ∈ p.choices, ∀ g, c.guard = some g →
    g.op ∈ [Operator.eq, .ne, .lt, .gt] ∧ canonicalName g.lhs = g.lhs
  labels : ∀ c ∈ p.choices, ∀ t, c.text = some t → t ≠ "" ∧ Text.trim t.toList = t.toList
  single_unguarded : ∀ c, p.choices = [c] → c.guard = none
  several_labelled : 2 ≤ p.choices.length → ∀ c ∈ p.choices, ∃ t, c.text = some t ∧ t ≠ ""

/-- What a story read from markup satisfies as a whole. -/
structure Document.Parsed (d : Document) : Prop where
  entry_first : d.pages.head?.map Prod.fst = some d.entry
  names : ∀ e ∈ d.pages, e.1 ≠ "" ∧ canonicalName e.1 = e.1 ∧ e.1 ≠ endName
  names_nodup : (d.pages.map Prod.fst).Nodup
  pages : ∀ e ∈ d.pages, e.2.Parsed
  lines_increase : (d.pages.map (·.2.line)).Pairwise (· < ·)

theorem Operator.mem_changing {o : Operator} (changes : o.changes = true) :
    o ∈ [Operator.assign, .increase] := by
  cases o <;> simp_all [Operator.changes]

theorem Operator.mem_comparing {o : Operator} (compares : o.changes = false) :
    o ∈ [Operator.eq, .ne, .lt, .gt] := by
  cases o <;> simp_all [Operator.changes]

theorem Page.Parsed.hasAutoChoice_iff {p : Page} (parsed : p.Parsed) :
    p.hasAutoChoice = true ↔ ∃ c, p.choices = [c] ∧ c.text = none := by
  unfold Page.hasAutoChoice
  split
  · next c single =>
    have unguarded := parsed.single_unguarded c single
    have onlyC : ∀ x, p.choices = [x] ↔ x = c := fun x => by
      rw [single, List.cons.injEq]
      simp [eq_comm]
    simp only [onlyC, exists_eq_left]
    cases label : c.text with
    | none => simp [Choice.isAuto, label, unguarded]
    | some t =>
      have solid := (parsed.labels c (by simp [single]) t label).1
      simp [Choice.isAuto, label, solid]
  · next notSingle =>
    simp only [Bool.false_eq_true, false_iff, not_exists, not_and]
    exact fun c single _ => notSingle c single

namespace Markup

theorem Block.read_parsed {b : Block} {name : String} {page : Page}
    (h : b.read = .ok (name, page)) :
    (name ≠ "" ∧ canonicalName name = name ∧ name ≠ endName) ∧ page.Parsed := by
  obtain ⟨header, solid, logics, choices, readLogics, readChoices, rules, rfl⟩ :=
    Block.read_eq_ok.1 h
  have choiceFacts : ∀ c ∈ choices, ChoiceFacts c := by
    intro c mem
    obtain ⟨l, -, read⟩ := mem_of_mapM_eq_ok readChoices mem
    exact readChoice_facts read
  obtain ⟨chosen, single, several⟩ := rules
  refine ⟨readHeader_ok header, ⟨?_, solid, fun t mem => bodyTexts_solid mem, chosen,
    fun c mem => ⟨(choiceFacts c mem).link_ne, (choiceFacts c mem).link_canonical⟩, ?_,
    fun c mem => (choiceFacts c mem).text_trimmed, single, ?_⟩⟩
  · intro g mem
    obtain ⟨l, -, read⟩ := mem_of_mapM_eq_ok readLogics mem
    obtain ⟨changes, canon⟩ := readLogicLine_ok read
    exact ⟨Operator.mem_changing changes, canon⟩
  · intro c mem g guard
    obtain ⟨compares, canon⟩ := (choiceFacts c mem).guard_compares g guard
    exact ⟨Operator.mem_comparing compares, canon⟩
  · intro many c mem
    have labelled := several many c mem
    cases label : c.text with
    | none => simp [label] at labelled
    | some t => exact ⟨t, rfl, by simpa [label] using labelled⟩

theorem headers_sublist (bs : List Block) : (bs.map Block.header).Sublist (bs.flatMap Block.lines) := by
  induction bs with
  | nil => simp
  | cons b bs ih =>
    rw [List.map_cons, List.flatMap_cons, Block.lines, List.cons_append]
    exact (ih.trans (List.sublist_append_right _ _)).cons_cons _

theorem lines_of_read {bs : List Block} {ps : List (String × Page)}
    (reads : List.Forall₂ (fun b e => b.read = .ok e) bs ps) :
    ps.map (·.2.line) = bs.map (·.header.number) := by
  refine (map_eq_map_of_forall₂ (fun b e read => ?_) reads).symm
  obtain ⟨name, page⟩ := e
  obtain ⟨-, -, -, -, -, -, -, rfl⟩ := Block.read_eq_ok.1 read
  rfl

/-- Every story read from markup has the shape of `Document.Parsed`, and its pages take their
choice without asking exactly when they have one unlabelled choice. -/
theorem parse_shape {m : String} {d : Document} (h : parse m = .ok d) :
    d.Parsed ∧ ∀ e ∈ d.pages, (e.2.hasAutoChoice = true ↔ ∃ c, e.2.choices = [c] ∧ c.text = none) := by
  obtain ⟨read, entry⟩ := parse_eq_ok h
  obtain ⟨bs, pages, lines, listed, reads, -, -⟩ := readPages_blocks read
  simp only [List.reverse_nil, List.nil_append] at listed
  subst listed
  have each : ∀ e ∈ d.pages, (e.1 ≠ "" ∧ canonicalName e.1 = e.1 ∧ e.1 ≠ endName) ∧ e.2.Parsed := by
    intro e mem
    obtain ⟨b, -, read⟩ := exists_of_forall₂ reads mem
    exact Block.read_parsed read
  have increasing : (d.pages.map (·.2.line)).Pairwise (· < ·) := by
    rw [lines_of_read reads]
    have ordered := significantLines_increasing m
    rw [lines] at ordered
    have headers : (bs.map Block.header).Pairwise (fun a b => a.number < b.number) :=
      ordered.sublist (headers_sublist bs)
    have byBlock : bs.Pairwise (fun a b => a.header.number < b.header.number) :=
      (List.pairwise_map (f := Block.header)).1 headers
    exact List.pairwise_map.2 byBlock
  refine ⟨⟨entry, fun e mem => (each e mem).1, readPages_names read List.nodup_nil,
    fun e mem => (each e mem).2, increasing⟩, fun e mem => (each e mem).2.hasAutoChoice_iff⟩

/-- Two pages: a gate with state logic, a break and a guarded choice, and a hall left without
asking. -/
def gateMarkup : String :=
  "-> Gate\n{Gold = 3}\nA gate.[br]It is shut.\n* {gold > 2} Pay -> Hall\n* Leave -> End\n" ++
    "-> Hall\nA hall.\n* -> End"

def gateStory : Document :=
  ⟨"gate", [("gate", ⟨["A gate.", "It is shut."],
      [⟨"hall", some "Pay", some ⟨.gt, "gold", 2⟩⟩, ⟨"end", some "Leave", none⟩],
      [⟨.assign, "gold", 3⟩], 1⟩),
    ("hall", ⟨["A hall."], [⟨"end", none, none⟩], [], 6⟩)]⟩

theorem gate_story_shape : parse gateMarkup = .ok gateStory ∧ (gateStory.Parsed ∧
    ∀ e ∈ gateStory.pages, (e.2.hasAutoChoice = true ↔ ∃ c, e.2.choices = [c] ∧ c.text = none)) := by
  have evaluated : (parse gateMarkup).toOption = some gateStory := by decide +kernel
  have parsed : parse gateMarkup = .ok gateStory := by
    revert evaluated
    cases parse gateMarkup <;> simp [Except.toOption]
  exact ⟨parsed, parse_shape parsed⟩

end Markup

end Gamebook
