import Mathlib
import Gamebook.Story.Reach
/- The search behind `Document.reachable` finds exactly the pages reachable from the entry. It
   adds only pages reachable from the entry; every declared name handed to it ends up seen; and
   once its stack is empty, what it has seen is closed under links to declared pages, so it holds
   every reachable page. Main statements: `Document.mem_reachable_iff`, and
   `Document.reachable_least_closed`, the least closed set. -/

namespace Gamebook

namespace Document

variable {d : Document}

/-- Names that hold every declared page a choice of one of their pages leads to. -/
def Closed (d : Document) (names : List String) : Prop :=
  ∀ n ∈ names, ∀ p, d.find? n = some p → ∀ c ∈ p.choices, ∀ q, d.find? c.link = some q →
    c.link ∈ names

theorem subset_visit (seen stack : List String) : ∀ n ∈ seen, n ∈ d.visit seen stack := by
  fun_induction d.visit seen stack with
  | case1 => exact fun _ member => member
  | case2 _ _ _ _ ih => exact ih
  | case3 _ _ _ _ _ ih => exact ih
  | case4 _ _ _ _ _ _ ih => exact fun m member => ih m (List.mem_cons_of_mem _ member)

theorem visit_sound (seen stack : List String) (seenOk : ∀ n ∈ seen, Reachable d n)
    (stackOk : ∀ n ∈ stack, ∀ p, d.find? n = some p → Reachable d n) :
    ∀ n ∈ d.visit seen stack, Reachable d n := by
  fun_induction d.visit seen stack with
  | case1 => exact seenOk
  | case2 _ _ _ _ ih => exact ih seenOk fun m member => stackOk m (List.mem_cons_of_mem _ member)
  | case3 _ _ _ _ _ ih => exact ih seenOk fun m member => stackOk m (List.mem_cons_of_mem _ member)
  | case4 seen n stack _ p found ih =>
    have here : Reachable d n := stackOk n List.mem_cons_self p found
    apply ih
    · intro m member
      rcases List.mem_cons.1 member with rfl | member
      · exact here
      · exact seenOk m member
    · intro m member q linked
      rcases List.mem_append.1 member with pushed | later
      · -- a link of the page just added
        have : m ∈ p.choices.map (·.link) := (List.mem_filter.1 (List.mem_reverse.1 pushed)).1
        obtain ⟨c, chosen, rfl⟩ := List.mem_map.1 this
        exact Reachable.step here found chosen linked
      · exact stackOk m (List.mem_cons_of_mem _ later) q linked

theorem visit_covers (seen stack : List String) :
    ∀ n ∈ stack, ∀ p, d.find? n = some p → n ∈ d.visit seen stack := by
  fun_induction d.visit seen stack with
  | case1 => simp
  | case2 seen n stack known ih =>
    intro m member p found
    rcases List.mem_cons.1 member with rfl | member
    · exact subset_visit seen stack m (by simpa using known)
    · exact ih m member p found
  | case3 seen n stack _ missing ih =>
    intro m member p found
    rcases List.mem_cons.1 member with rfl | member
    · rw [missing] at found
      cases found
    · exact ih m member p found
  | case4 seen n stack _ p found ih =>
    intro m member q found'
    rcases List.mem_cons.1 member with rfl | member
    · exact subset_visit _ _ m List.mem_cons_self
    · exact ih m (List.mem_append_right _ member) q found'

theorem visit_closed (seen stack : List String)
    (links : ∀ n ∈ seen, ∀ p, d.find? n = some p → ∀ c ∈ p.choices, ∀ q,
      d.find? c.link = some q → c.link ∈ seen ∨ c.link ∈ stack) :
    d.Closed (d.visit seen stack) := by
  fun_induction d.visit seen stack with
  | case1 seen =>
    intro n member p found c chosen q linked
    simpa using links n member p found c chosen q linked
  | case2 seen n stack known ih =>
    apply ih
    intro m member p found c chosen q linked
    rcases links m member p found c chosen q linked with old | pending
    · exact .inl old
    · rcases List.mem_cons.1 pending with same | later
      · exact .inl (same ▸ by simpa using known)
      · exact .inr later
  | case3 seen n stack _ missing ih =>
    apply ih
    intro m member p found c chosen q linked
    rcases links m member p found c chosen q linked with old | pending
    · exact .inl old
    · rcases List.mem_cons.1 pending with same | later
      · rw [same, missing] at linked
        cases linked
      · exact .inr later
  | case4 seen n stack _ p found ih =>
    apply ih
    intro m member p' found' c chosen q linked
    rcases List.mem_cons.1 member with rfl | member
    · -- the page just added: its links are seen or were pushed
      rw [found] at found'
      cases found'
      by_cases old : c.link ∈ m :: seen
      · exact .inl old
      · refine .inr (List.mem_append_left _ (List.mem_reverse.2 (List.mem_filter.2 ⟨?_, ?_⟩)))
        · exact List.mem_map.2 ⟨c, chosen, rfl⟩
        · simpa using old
    · rcases links m member p' found' c chosen q linked with old | pending
      · exact .inl (List.mem_cons_of_mem _ old)
      · rcases List.mem_cons.1 pending with same | later
        · exact .inl (same ▸ List.mem_cons_self)
        · exact .inr (List.mem_append_right _ later)

theorem keep_of_reachable (keep : String → Prop) (entry : ∀ p, d.find? d.entry = some p → keep d.entry)
    (closed : ∀ n, keep n → ∀ p, d.find? n = some p → ∀ c ∈ p.choices, ∀ q,
      d.find? c.link = some q → keep c.link)
    {n : String} (reached : Reachable d n) : keep n := by
  induction reached with
  | entry p found => exact entry p found
  | step _ found chosen linked ih => exact closed _ ih _ found _ chosen _ linked

theorem mem_of_reachable {names : List String}
    (entry : ∀ p, d.find? d.entry = some p → d.entry ∈ names) (closed : d.Closed names)
    {n : String} (reached : Reachable d n) : n ∈ names :=
  keep_of_reachable (· ∈ names) entry closed reached

theorem declares_of_reachable {n : String} (reached : Reachable d n) : d.declares n = true := by
  cases reached with
  | entry p found => simp [declares, found]
  | step _ _ _ linked => simp [declares, linked]

theorem mem_reachable_iff (n : String) : n ∈ d.reachable ↔ Reachable d n := by
  unfold reachable
  rw [List.mem_reverse]
  constructor
  · refine visit_sound [] [d.entry] (by simp) ?_ n
    intro m member p found
    rw [List.mem_singleton.1 member] at found ⊢
    exact Reachable.entry p found
  · refine mem_of_reachable (fun p found => visit_covers [] [d.entry] _ List.mem_cons_self p found) ?_
    exact visit_closed [] [d.entry] (by simp)

/-- The search ends, by its measure (pages not yet seen, then the stack), with the least set of
names that holds the entry when it is a declared page and holds every declared page that a choice
of one of its pages links to, names compared exactly as stored. Every name in it is declared. -/
theorem reachable_least_closed :
    (∀ p, d.find? d.entry = some p → d.entry ∈ d.reachable) ∧ d.Closed d.reachable ∧
    (∀ keep : String → Prop, (∀ p, d.find? d.entry = some p → keep d.entry) →
      (∀ n, keep n → ∀ p, d.find? n = some p → ∀ c ∈ p.choices, ∀ q,
        d.find? c.link = some q → keep c.link) →
      ∀ n ∈ d.reachable, keep n) ∧
    ∀ n ∈ d.reachable, d.declares n = true := by
  refine ⟨fun p found => (mem_reachable_iff _).2 (.entry p found), ?_, ?_, ?_⟩
  · intro n member p found c chosen q linked
    exact (mem_reachable_iff _).2 (.step ((mem_reachable_iff n).1 member) found chosen linked)
  · intro keep entry closed n member
    exact keep_of_reachable keep entry closed ((mem_reachable_iff n).1 member)
  · intro n member
    exact declares_of_reachable ((mem_reachable_iff n).1 member)

end Document

end Gamebook
