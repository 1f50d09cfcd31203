import Gamebook.Story.Basic
/- The pages reachable from the entry: the least set that holds the entry when it is a declared
   page, and holds every declared page that a choice of a page in the set links to. Links compare
   as stored; links to undeclared pages and to the end lead nowhere. -/
namespace Gamebook

namespace Document

/-- The pages not yet seen. -/
def unseen (d : Document) (seen : List String) : List (String × Page) :=
  d.pages.filter fun e => !seen.contains e.1

theorem unseen_cons_lt (d : Document) (seen : List String) (n : String) (p : Page)
    (hfind : d.find? n = some p) (hnew : seen.contains n = false) :
    (d.unseen (n :: seen)).length < (d.unseen seen).length := by
  have hmem : (n, p) ∈ d.pages := by
    obtain ⟨l₁, l₂, h, -⟩ := List.lookup_eq_some_iff.1 hfind
    rw [h]; simp
  have heq : d.unseen (n :: seen) = (d.unseen seen).filter fun e => e.1 != n := by
    simp only [unseen, List.filter_filter]
    congr 1
    funext e
    cases h : decide (e.1 = n) <;> simp_all
  have hn : n ∉ seen := by simpa using hnew
  rw [heq, List.length_filter_lt_length_iff_exists]
  exact ⟨(n, p), by simp [unseen, List.mem_filter, hmem, hn], by simp⟩

/-- Visit the names on the stack, the top first, adding each declared page not yet seen and
pushing the links of its choices that are not yet seen. -/
def visit (d : Document) (seen : List String) : List String → List String
  | [] => seen
  | n :: stack =>
    if _hs : seen.contains n then visit d seen stack
    else
      match _hf : d.find? n with
      | none => visit d seen stack
      | some p =>
        visit d (n :: seen)
          (((p.choices.map (·.link)).filter fun l => !(n :: seen).contains l).reverse ++ stack)
termination_by stack => ((d.unseen seen).length, stack.length)
decreasing_by
  · exact Prod.Lex.right _ (by simp)
  · exact Prod.Lex.right _ (by simp)
  · exact Prod.Lex.left _ _ (d.unseen_cons_lt seen n p _hf (by simpa using _hs))

/-- The names of the pages reachable from the entry, in the order they were reached. -/
def reachable (d : Document) : List String := (d.visit [] [d.entry]).reverse

end Document

/-- Reachability from the entry along choice links between declared pages. -/
inductive Reachable (d : Document) : String → Prop
  | entry (p : Page) : d.find? d.entry = some p → Reachable d d.entry
  | step {n : String} {p q : Page} {c : Choice} : Reachable d n → d.find? n = some p →
      c ∈ p.choices → d.find? c.link = some q → Reachable d c.link

end Gamebook
