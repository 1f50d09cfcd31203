import Mathlib
import Gamebook.Story.Analysis
import Gamebook.Proofs.Checking
/- The inventory of a story against its check. The check stops at the first problem it meets;
   the inventory never fails and lists every link that leads nowhere, page by page, and every
   page out of reach. The two agree: on a story whose entry is declared and whose pages all have
   body text and choices, the check reports a link that leads nowhere exactly when the inventory
   lists one, and then names the first page and the first link the inventory lists; otherwise it
   reports the first page, in declaration order, that the inventory finds out of reach; otherwise
   it passes. Main statement: `Document.inventory_agrees_with_check`. -/

namespace Gamebook

theorem nodup_eraseDups {α : Type} [BEq α] [LawfulBEq α] : ∀ l : List α, l.eraseDups.Nodup
  | [] => List.nodup_nil
  | a :: l => by
    have : (l.filter fun b => !b == a).length < l.length + 1 :=
      Nat.lt_succ_of_le (List.length_filter_le _ _)
    rw [List.eraseDups_cons]
    refine List.nodup_cons.2 ⟨fun member => ?_, nodup_eraseDups _⟩
    simpa using (List.mem_filter.1 (List.mem_eraseDups.1 member)).2
termination_by l => l.length

theorem eraseDups_eq_nil_iff {α : Type} [BEq α] [LawfulBEq α] {l : List α} :
    l.eraseDups = [] ↔ l = [] := by
  simp only [List.eq_nil_iff_forall_not_mem, List.mem_eraseDups]

theorem mem_sortedNames {xs : List String} {n : String} : n ∈ sortedNames xs ↔ n ∈ xs := by
  simp [sortedNames, List.mem_eraseDups, List.mem_mergeSort]

namespace Document

variable {d : Document}

theorem analyze_unresolvedLinks : d.analyze.unresolvedLinks = d.unresolvedLinks := rfl

theorem analyze_unreachablePages :
    d.analyze.unreachablePages = sortedNames (d.names.filter fun n => !d.reachable.contains n) :=
  rfl

theorem mem_unreachablePages_iff (n : String) :
    n ∈ d.analyze.unreachablePages ↔ n ∈ d.names ∧ ¬ Reachable d n := by
  simp [analyze_unreachablePages, mem_sortedNames, mem_reachable_iff]

theorem unreachablePages_eq_nil_iff :
    d.analyze.unreachablePages = [] ↔ ∀ e ∈ d.pages, Reachable d e.1 := by
  rw [List.eq_nil_iff_forall_not_mem]
  constructor
  · intro none e member
    have named : e.1 ∈ d.names := List.mem_map_of_mem member
    by_contra missed
    exact none e.1 ((mem_unreachablePages_iff _).2 ⟨named, missed⟩)
  · intro all n listed
    obtain ⟨named, missed⟩ := (mem_unreachablePages_iff n).1 listed
    obtain ⟨e, member, rfl⟩ := List.mem_map.1 named
    exact missed (all e member)

theorem dangling_eq_nil_iff (p : Page) :
    ((p.choices.map (·.link)).filter fun l => !d.resolves l).eraseDups = [] ↔
      ∀ c ∈ p.choices, d.Leads c.link := by
  simp [eraseDups_eq_nil_iff, List.filter_eq_nil_iff, resolves_iff]

theorem dangling_eq_cons_iff (p : Page) (link : String) :
    (∃ ls, ((p.choices.map (·.link)).filter fun l => !d.resolves l).eraseDups = link :: ls) ↔
      ∃ before c after, p.choices = before ++ c :: after ∧ (∀ c' ∈ before, d.Leads c'.link) ∧
        ¬ d.Leads c.link ∧ c.link = link := by
  constructor
  · rintro ⟨ls, listed⟩
    cases filtered : (p.choices.map (·.link)).filter fun l => !d.resolves l with
    | nil => simp [filtered] at listed
    | cons first more =>
      rw [filtered, List.eraseDups_cons, List.cons.injEq] at listed
      obtain ⟨rfl, -⟩ := listed
      obtain ⟨l₁, l₂, split, leading, dangling, -⟩ := List.filter_eq_cons_iff.1 filtered
      obtain ⟨before, rest, choices, rfl, mapped⟩ := List.map_eq_append_iff.1 split
      obtain ⟨c, after, rfl, rfl, -⟩ := List.map_eq_cons_iff.1 mapped
      refine ⟨before, c, after, choices, fun c' member => ?_, ?_, rfl⟩
      · simpa [resolves_iff] using leading c'.link (List.mem_map_of_mem member)
      · exact (resolves_eq_false_iff _).1 (by simpa using dangling)
  · rintro ⟨before, c, after, split, leading, dangling, rfl⟩
    have dropped : ((before.map (·.link)).filter fun l => !d.resolves l) = [] := by
      simpa [List.filter_eq_nil_iff, resolves_iff] using leading
    have kept : d.resolves c.link = false := (resolves_eq_false_iff _).2 dangling
    simp only [split, List.map_append, List.filter_append, dropped, List.map_cons, List.filter_cons,
      kept, Bool.not_false, if_true, List.nil_append, List.eraseDups_cons]
    exact ⟨_, rfl⟩

theorem unresolvedLinks_eq_nil_iff :
    d.unresolvedLinks = [] ↔ ∀ e ∈ d.pages, ∀ c ∈ e.2.choices, d.Leads c.link := by
  rw [unresolvedLinks, List.filterMap_eq_nil_iff]
  refine forall₂_congr fun e _ => ?_
  obtain ⟨n, p⟩ := e
  rw [← dangling_eq_nil_iff p]
  simp only
  split <;> simp_all

theorem unresolvedLinks_eq_cons_iff (page link : String) :
    (∃ ls rest, d.unresolvedLinks = (page, link :: ls) :: rest) ↔
      ∃ before p after, d.pages = before ++ (page, p) :: after ∧
        (∀ e ∈ before, ∀ c ∈ e.2.choices, d.Leads c.link) ∧
        ∃ cs c cs', p.choices = cs ++ c :: cs' ∧ (∀ c' ∈ cs, d.Leads c'.link) ∧
          ¬ d.Leads c.link ∧ c.link = link := by
  constructor
  · rintro ⟨ls, rest, listed⟩
    rw [unresolvedLinks, List.filterMap_eq_cons_iff] at listed
    obtain ⟨before, ⟨n, p⟩, after, split, skipped, first, -⟩ := listed
    simp only at first
    split at first
    · cases first
    · simp only [Option.some.injEq, Prod.mk.injEq] at first
      obtain ⟨rfl, found⟩ := first
      refine ⟨before, p, after, split, fun e member => ?_, (dangling_eq_cons_iff p link).1 ⟨ls, found⟩⟩
      have none := skipped e member
      obtain ⟨m, q⟩ := e
      rw [← dangling_eq_nil_iff q]
      simp only at none
      split at none
      · assumption
      · cases none
  · rintro ⟨before, p, after, split, leading, first⟩
    obtain ⟨ls, found⟩ := (dangling_eq_cons_iff p link).2 first
    rw [unresolvedLinks, split, List.filterMap_append, List.filterMap_cons,
      List.filterMap_eq_nil_iff.2 ?skipped]
    · simp only [found, List.nil_append]
      exact ⟨ls, _, rfl⟩
    · -- the pages before list no link
      rintro ⟨m, q⟩ member
      simp only
      rw [(dangling_eq_nil_iff q).2 (leading _ member)]

theorem unresolvedLinks_names :
    d.analyze.unresolvedLinks.map Prod.fst =
      (d.pages.filter fun e => e.2.choices.any fun c => !d.resolves c.link).map Prod.fst := by
  rw [analyze_unresolvedLinks, unresolvedLinks]
  generalize d.pages = pages
  induction pages with
  | nil => rfl
  | cons e rest ih =>
    obtain ⟨n, p⟩ := e
    rw [List.filterMap_cons, List.filter_cons]
    cases listed : ((p.choices.map (·.link)).filter fun l => !d.resolves l).eraseDups with
    | nil =>
      have leads : (p.choices.any fun c => !d.resolves c.link) = false := by
        simpa [resolves_iff] using (dangling_eq_nil_iff p).1 listed
      simp [listed, leads, ih]
    | cons l ls =>
      have dangles : (p.choices.any fun c => !d.resolves c.link) = true := by
        by_contra leads
        have quiet := (dangling_eq_nil_iff p).2 (by simpa [resolves_iff] using leads)
        rw [listed] at quiet
        cases quiet
      simp [listed, dangles, ih]

theorem mem_unresolvedLinks {page : String} {links : List String}
    (listed : (page, links) ∈ d.analyze.unresolvedLinks) :
    ∃ p, (page, p) ∈ d.pages ∧
      links = ((p.choices.map (·.link)).filter fun l => !d.resolves l).eraseDups ∧ links.Nodup ∧
      ∀ l, l ∈ links ↔ ∃ c ∈ p.choices, c.link = l ∧ ¬ d.Leads l := by
  rw [analyze_unresolvedLinks, unresolvedLinks, List.mem_filterMap] at listed
  obtain ⟨⟨n, p⟩, member, found⟩ := listed
  simp only at found
  split at found
  · cases found
  · simp only [Option.some.injEq, Prod.mk.injEq] at found
    obtain ⟨rfl, rfl⟩ := found
    refine ⟨p, member, rfl, nodup_eraseDups _, fun l => ?_⟩
    simp only [List.mem_eraseDups, List.mem_filter, List.mem_map, Bool.not_eq_true',
      resolves_eq_false_iff]
    constructor
    · rintro ⟨⟨c, chosen, rfl⟩, dangling⟩
      exact ⟨c, chosen, rfl, dangling⟩
    · rintro ⟨c, chosen, rfl, dangling⟩
      exact ⟨⟨c, chosen, rfl⟩, dangling⟩

/-- A story whose entry is declared and whose pages all have body text and choices: on such a
story the check can only find links that lead nowhere and pages out of reach. -/
structure Furnished (d : Document) : Prop where
  entry : ∃ p, d.find? d.entry = some p
  texts : ∀ e ∈ d.pages, e.2.texts ≠ []
  choices : ∀ e ∈ d.pages, e.2.choices ≠ []

theorem Furnished.pageSound (furnished : d.Furnished)
    (links : ∀ e ∈ d.pages, ∀ c ∈ e.2.choices, d.Leads c.link) : ∀ e ∈ d.pages, PageSound d e.2 :=
  fun e member => ⟨furnished.texts e member, furnished.choices e member, links e member⟩

/-- `n` is the first of `names`, in order, that belongs to `listed`. -/
def FirstIn (names listed : List String) (n : String) : Prop :=
  ∃ before after, names = before ++ n :: after ∧ n ∈ listed ∧ ∀ m ∈ before, m ∉ listed

theorem check_eq_unresolved_iff (furnished : d.Furnished) (page link : String) :
    d.check = .error (.unresolved page link) ↔
      ∃ ls rest, d.analyze.unresolvedLinks = (page, link :: ls) :: rest := by
  rw [analyze_unresolvedLinks, unresolvedLinks_eq_cons_iff]
  constructor
  · intro failed
    cases violation_of_check failed with
    | page _ split sounds fault =>
      cases fault with
      | unresolved _ choices leading dangling =>
        exact ⟨_, _, _, split, fun e member => (sounds e member).links, _, _, _, choices, leading,
          dangling, rfl⟩
  · rintro ⟨before, p, after, split, leading, cs, c, cs', choices, leading', dangling, rfl⟩
    have member : (page, p) ∈ d.pages := by simp [split]
    refine check_of_violation (.page furnished.entry split (fun e earlier => ?_)
      (.unresolved (furnished.texts _ member) choices leading' dangling))
    have declared : e ∈ d.pages := by simp [split, earlier]
    exact ⟨furnished.texts e declared, furnished.choices e declared, leading e earlier⟩

theorem check_eq_unreferenced_iff (furnished : d.Furnished) (page : String) :
    d.check = .error (.unreferenced page) ↔
      d.analyze.unresolvedLinks = [] ∧ FirstIn d.names d.analyze.unreachablePages page := by
  rw [analyze_unresolvedLinks, unresolvedLinks_eq_nil_iff]
  constructor
  · intro failed
    cases violation_of_check failed with
    | page _ _ _ fault => cases fault
    | unreferenced _ sound split reached missed =>
      refine ⟨fun e member => (sound e member).links, _, _, split,
        (mem_unreachablePages_iff _).2 ⟨by simp [split], missed⟩, fun m earlier listed => ?_⟩
      exact ((mem_unreachablePages_iff m).1 listed).2 (reached m earlier)
  · rintro ⟨links, before, after, split, listed, earlier⟩
    refine check_of_violation (.unreferenced furnished.entry (furnished.pageSound links) split
      (fun m member => ?_) ((mem_unreachablePages_iff page).1 listed).2)
    by_contra missed
    exact earlier m member ((mem_unreachablePages_iff m).2 ⟨by simp [split, member], missed⟩)

theorem check_eq_ok_iff_inventory (furnished : d.Furnished) :
    d.check = .ok () ↔ d.analyze.unresolvedLinks = [] ∧ d.analyze.unreachablePages = [] := by
  rw [check_eq_ok_iff, analyze_unresolvedLinks, unresolvedLinks_eq_nil_iff,
    unreachablePages_eq_nil_iff]
  constructor
  · intro valid
    exact ⟨valid.links, valid.reachable⟩
  · rintro ⟨links, reached⟩
    exact ⟨furnished.entry, furnished.texts, furnished.choices, links, reached⟩

/-- The inventory of a story agrees with its check. On a story whose entry is declared and
whose pages all have body text and choices, the check reports a link that leads nowhere exactly
when the inventory lists one, naming the first page and that page's first link the inventory
lists; otherwise it reports a page out of reach exactly when the inventory finds one, naming the
first such page in declaration order; otherwise it passes. On every story, the inventory lists,
in declaration order, the pages with links that lead neither to the end nor to a declared page,
each with those links, each once, in order of first use; and the pages it finds out of reach are
the declared pages that cannot be reached from the entry. -/
theorem inventory_agrees_with_check (d : Document) :
    (d.Furnished →
      (∀ page link, d.check = .error (.unresolved page link) ↔
        ∃ ls rest, d.analyze.unresolvedLinks = (page, link :: ls) :: rest) ∧
      (∀ page, d.check = .error (.unreferenced page) ↔
        d.analyze.unresolvedLinks = [] ∧ FirstIn d.names d.analyze.unreachablePages page) ∧
      (d.check = .ok () ↔ d.analyze.unresolvedLinks = [] ∧ d.analyze.unreachablePages = [])) ∧
    d.analyze.unresolvedLinks.map Prod.fst =
      (d.pages.filter fun e => e.2.choices.any fun c => !d.resolves c.link).map Prod.fst ∧
    (∀ page links, (page, links) ∈ d.analyze.unresolvedLinks → ∃ p, (page, p) ∈ d.pages ∧
      links = ((p.choices.map (·.link)).filter fun l => !d.resolves l).eraseDups ∧ links.Nodup ∧
      ∀ l, l ∈ links ↔ ∃ c ∈ p.choices, c.link = l ∧ ¬ d.Leads l) ∧
    ∀ n, n ∈ d.analyze.unreachablePages ↔ n ∈ d.names ∧ ¬ Reachable d n :=
  ⟨fun furnished => ⟨check_eq_unresolved_iff furnished, check_eq_unreferenced_iff furnished,
      check_eq_ok_iff_inventory furnished⟩,
    unresolvedLinks_names, fun _ _ listed => mem_unresolvedLinks listed, mem_unreachablePages_iff⟩

end Document

/-- A hall whose one way on is a cellar no page declares. -/
def cellarPage : Page := { texts := ["A hall."], choices := [{ link := "cellar" }] }

/-- An attic no link leads to. -/
def atticPage : Page := { texts := ["An attic."], choices := [{ link := "end" }] }

def cellarDoc : Document := ⟨"hall", [("hall", cellarPage), ("attic", atticPage)]⟩

/-- The cellar story is furnished, and its check reports the first link its inventory lists. -/
theorem cellar_inventory_agrees :
    cellarDoc.Furnished ∧ cellarDoc.analyze.unresolvedLinks = [("hall", ["cellar"])] ∧
      cellarDoc.check = .error (.unresolved "hall" "cellar") := by
  have furnished : cellarDoc.Furnished := ⟨⟨cellarPage, by decide⟩, by decide, by decide⟩
  have listed : cellarDoc.analyze.unresolvedLinks = [("hall", ["cellar"])] := by decide
  have agree := (Document.inventory_agrees_with_check cellarDoc).1 furnished
  exact ⟨furnished, listed, (agree.1 "hall" "cellar").2 ⟨[], [], listed⟩⟩

end Gamebook
