import Mathlib
import Gamebook.Proofs.CycleSearch
import Gamebook.Story.Analysis
/- The cycle an inventory reports. The links between the declared pages of a story, other than to
   the end, make a graph on its pages. The search over the pages with links reports a simple cycle
   of that graph exactly when the graph has one. Run with a number of calls left, the inventory
   either is the inventory of a search with room enough, or the calls run out: never for a story
   with fewer pages than calls, and never because an open page is missing from the search path.
   Main statement: `Document.reports_cycle_iff_cyclic`. -/

namespace Gamebook.Document

open Gamebook.Cycle

variable {d : Document}

/-- The graph of a story's pages: `q` follows `p` when a choice of the page `p` leads to the
declared page `q`, other than the end. -/
def Link (d : Document) (p q : String) : Prop :=
  ∃ page, d.find? p = some page ∧ ∃ c ∈ page.choices, c.link = q ∧ q ≠ endName ∧ d.declares q = true

theorem mem_names_of_declares {n : String} (declared : d.declares n = true) : n ∈ d.names := by
  obtain ⟨p, found⟩ := Option.isSome_iff_exists.1 declared
  obtain ⟨before, after, split, -⟩ := List.lookup_eq_some_iff.1 found
  simp [names, split]

theorem mem_linkGraph {k : String} {ls : List String} (entry : (k, ls) ∈ d.linkGraph) :
    ∃ page, (k, page) ∈ d.pages ∧
      ls = (page.choices.map (·.link)).filter fun l => l != endName && d.declares l := by
  obtain ⟨⟨k', page⟩, member, made⟩ := List.mem_filterMap.1 entry
  dsimp only at made
  split at made
  · cases made
  · injection made with same
    injection same with key links
    exact ⟨page, key ▸ member, links.symm⟩

theorem linkGraph_keys : ∀ n ∈ d.linkGraph.map (·.1), n ∈ d.names := by
  intro n mem
  obtain ⟨⟨k, ls⟩, entry, rfl⟩ := List.mem_map.1 mem
  obtain ⟨page, member, -⟩ := mem_linkGraph entry
  exact List.mem_map.2 ⟨(k, page), member, rfl⟩

theorem linkGraph_covers {u v : String} (edge : Edge d.linkGraph u v) : v ∈ d.names := by
  unfold Edge targets at edge
  cases found : d.linkGraph.lookup u with
  | none =>
    rw [found] at edge
    cases edge
  | some ls =>
    rw [found] at edge
    obtain ⟨before, after, split, -⟩ := List.lookup_eq_some_iff.1 found
    have entry : (u, ls) ∈ d.linkGraph := by
      rw [split]
      simp
    obtain ⟨page, -, links⟩ := mem_linkGraph entry
    rw [links] at edge
    have declared := (List.mem_filter.1 edge).2
    simp only [Bool.and_eq_true] at declared
    exact mem_names_of_declares declared.2

theorem lookup_filterMap_keyed {β γ : Type} {f : String × β → Option (String × γ)}
    (keyed : ∀ n b e, f (n, b) = some e → e.1 = n) :
    ∀ (ps : List (String × β)), (ps.map (·.1)).Nodup → ∀ k,
      (ps.filterMap f).lookup k = (ps.lookup k).bind fun b => (f (k, b)).map (·.2) := by
  intro ps
  induction ps with
  | nil => intro _ _; rfl
  | cons e ps ih =>
    obtain ⟨n, b⟩ := e
    intro distinct k
    rw [List.map_cons, List.nodup_cons] at distinct
    obtain ⟨fresh, distinct⟩ := distinct
    -- no later page makes an entry under the first page's name
    have absent : (ps.filterMap f).lookup n = none := by
      rw [List.lookup_eq_none_iff]
      intro e made
      obtain ⟨⟨n', b'⟩, member, made⟩ := List.mem_filterMap.1 made
      have key := keyed n' b' e made
      have other : n' ≠ n := fun same => fresh (List.mem_map.2 ⟨(n', b'), member, same⟩)
      simp [key, Ne.symm other]
    rw [List.filterMap_cons, List.lookup_cons]
    by_cases same : k = n
    · subst same
      cases made : f (k, b) with
      | none => simp [absent, made]
      | some e =>
        have key := keyed k b e made
        obtain ⟨k', c⟩ := e
        simp only at key
        subst key
        simp [made]
    · have skip : (k == n) = false := by simpa using same
      cases made : f (n, b) with
      | none => simp [skip, ih distinct k]
      | some e =>
        have key := keyed n b e made
        obtain ⟨n', c⟩ := e
        simp only at key
        subst key
        simp [List.lookup_cons, skip, ih distinct k]

theorem targets_linkGraph (distinct : d.names.Nodup) (p : String) :
    targets d.linkGraph p =
      ((d.find? p).map fun page =>
        (page.choices.map (·.link)).filter fun l => l != endName && d.declares l).getD [] := by
  unfold targets linkGraph find?
  rw [lookup_filterMap_keyed _ d.pages distinct p]
  · cases d.pages.lookup p with
    | none => rfl
    | some page =>
      cases kept : (page.choices.map (·.link)).filter fun l => l != endName && d.declares l with
      | nil => simp [kept]
      | cons l ls => simp [kept]
  · intro n page e made
    dsimp only at made
    split at made
    · cases made
    · injection made with same
      rw [← same]

theorem edge_linkGraph_iff (distinct : d.names.Nodup) {p q : String} :
    Edge d.linkGraph p q ↔ d.Link p q := by
  unfold Edge Link
  rw [targets_linkGraph distinct]
  cases d.find? p with
  | none => simp
  | some page =>
    simp only [Option.map_some, Option.getD_some, List.mem_filter, List.mem_map, Bool.and_eq_true,
      bne_iff_ne, ne_eq, Option.some.injEq, exists_eq_left']
    constructor
    · rintro ⟨⟨c, chosen, link⟩, other, declared⟩
      exact ⟨c, chosen, link, other, declared⟩
    · rintro ⟨c, chosen, link, other, declared⟩
      exact ⟨⟨c, chosen, link⟩, other, declared⟩

/-! ### The search over the pages -/

theorem findCycleWithin_answers (room : Nat) :
    ∃ r, Answers d.linkGraph d.names [] room ⟨[], []⟩
        (fun m => ∀ n ∈ d.linkGraph.map (·.1), n ∈ m.visited) r ∧
      d.findCycleWithin room = r.map Prod.snd :=
  fromRoots_answers (fun _ _ edge => linkGraph_covers edge) room _ [] sound_start linkGraph_keys

theorem findCycleWithin_cases (room : Nat) :
    match d.findCycleWithin room with
    | .ok none => ∀ v, ¬ Relation.TransGen (Edge d.linkGraph) v v
    | .ok (some c) => Simple (Edge d.linkGraph) c
    | .error e => e = .tooDeep ∧ room ≤ d.size := by
  obtain ⟨r, answers, found⟩ := findCycleWithin_answers (d := d) room
  rw [found]
  rcases r with e | ⟨m, _ | c⟩
  · refine ⟨answers.1, ?_⟩
    simpa [names, size] using answers.2
  · -- every page with a link was entered and finished, so none lies on a cycle
    obtain ⟨sound, -, entered⟩ := answers
    intro v cycle
    obtain ⟨w, edge, -⟩ := Relation.TransGen.head'_iff.1 cycle
    exact sound.acyclic v ⟨entered v (mem_keys_of_edge edge), List.not_mem_nil⟩ cycle
  · exact answers

theorem findCycleWithin_of_size_lt {room : Nat} (more : d.size < room) :
    d.findCycleWithin room = .ok d.findCycle := by
  have finishes : ∀ room, d.size < room → ∃ c, d.findCycleWithin room = .ok c := by
    intro room more
    have answered := findCycleWithin_cases (d := d) room
    revert answered
    cases d.findCycleWithin room with
    | error e => exact fun short => absurd short.2 (by omega)
    | ok c => exact fun _ => ⟨c, rfl⟩
  obtain ⟨c, found⟩ := finishes (d.size + 1) (by omega)
  have reported : d.findCycle = c := by
    unfold findCycle
    rw [found]
  rw [reported]
  exact fromRoots_mono (by omega) _ _ c found

theorem findCycleWithin_eq_findCycle {room : Nat} {c : Option (List String)}
    (found : d.findCycleWithin room = .ok c) : c = d.findCycle := by
  have wide : d.findCycleWithin (max room (d.size + 1)) = .ok c :=
    fromRoots_mono (le_max_left _ _) _ _ c found
  rw [findCycleWithin_of_size_lt (by omega)] at wide
  injection wide with same
  exact same.symm

/-! ### The inventory -/

theorem analyzeWithin_cases (room : Nat) :
    d.analyzeWithin room = .ok d.analyze ∨ d.analyzeWithin room = .error .tooDeep := by
  unfold analyzeWithin
  have answered := findCycleWithin_cases (d := d) room
  revert answered
  cases found : d.findCycleWithin room with
  | error e =>
    intro short
    right
    rw [short.1]
    rfl
  | ok c =>
    intro _
    left
    rw [findCycleWithin_eq_findCycle found]
    rfl

theorem analyzeWithin_of_size_lt {room : Nat} (more : d.size < room) :
    d.analyzeWithin room = .ok d.analyze := by
  unfold analyzeWithin
  rw [findCycleWithin_of_size_lt more]
  rfl

/-- The inventory of a story whose pages have distinct names reports a cycle exactly when the
graph of its pages has one, and the cycle it reports is a simple cycle of that graph: a path of
at least one link, back to the page it starts from, through distinct pages. A run with calls
left gives that inventory or runs out of calls, and it has calls enough when it has more than
there are pages. -/
theorem reports_cycle_iff_cyclic (d : Document) (distinct : d.names.Nodup) (room : Nat) :
    (d.analyze.cycle.isSome ↔ ∃ v, Relation.TransGen d.Link v v) ∧
      (∀ c, d.analyze.cycle = some c → Simple d.Link c) ∧
      (d.analyzeWithin room = .ok d.analyze ∨ d.analyzeWithin room = .error .tooDeep) ∧
      (d.size < room → d.analyzeWithin room = .ok d.analyze) := by
  have graph : Edge d.linkGraph = d.Link := by
    funext p q
    exact propext (edge_linkGraph_iff distinct)
  have answered := findCycleWithin_cases (d := d) (d.size + 1)
  rw [findCycleWithin_of_size_lt (by omega), graph] at answered
  have reported : d.analyze.cycle = d.findCycle := rfl
  refine ⟨?_, ?_, analyzeWithin_cases room, analyzeWithin_of_size_lt⟩
  · rw [reported]
    revert answered
    cases d.findCycle with
    | none => exact fun acyclic => by simpa using acyclic
    | some c => exact fun simple => iff_of_true rfl simple.transGen
  · rw [reported]
    intro c found
    rw [found] at answered
    exact answered

/-- A hall and a yard that lead to each other, with a way out of the yard. -/
def loopStory : Document :=
  ⟨"hall", [("hall", ⟨["A hall."], [⟨"yard", some "Out", none⟩], [], 0⟩),
    ("yard", ⟨["A yard."], [⟨"hall", some "In", none⟩, ⟨endName, some "Leave", none⟩], [], 0⟩)]⟩

example : loopStory.findCycle = some ["hall", "yard", "hall"] := by decide

/-- The hall and the yard, searched with three calls left. -/
theorem loop_story_reports_cycle :
    loopStory.names.Nodup ∧
      ((loopStory.analyze.cycle.isSome ↔ ∃ v, Relation.TransGen loopStory.Link v v) ∧
        (∀ c, loopStory.analyze.cycle = some c → Simple loopStory.Link c) ∧
        (loopStory.analyzeWithin 3 = .ok loopStory.analyze ∨
          loopStory.analyzeWithin 3 = .error .tooDeep) ∧
        (loopStory.size < 3 → loopStory.analyzeWithin 3 = .ok loopStory.analyze)) :=
  ⟨by decide, reports_cycle_iff_cyclic loopStory (by decide) 3⟩

end Gamebook.Document
