import Mathlib
import Gamebook.Story.Basic
/- Building a story from named pages. The pages are added in order under the canonical forms of
   their names; the first name whose canonical form repeats that of an earlier name refuses the
   story, naming that form. Otherwise the story's entry is the canonical form of the entry given,
   its pages are the pages given, in order, under their canonical names, and a name refers to the
   page whose name has the same canonical form. Main statement: `Document.build_spec`. -/

namespace Gamebook

namespace Document

theorem addPages_cons (acc : List (String × Page)) (n : String) (p : Page)
    (rest : List (String × Page)) :
    addPages acc ((n, p) :: rest) =
      if canonicalName n ∈ acc.map Prod.fst then .error (.duplicatePage (canonicalName n))
      else addPages ((canonicalName n, p) :: acc) rest := by
  have seen : acc.any (·.1 == canonicalName n) = true ↔ canonicalName n ∈ acc.map Prod.fst := by
    simp [List.any_eq_true, List.mem_map]
  by_cases member : canonicalName n ∈ acc.map Prod.fst
  · simp only [addPages, if_pos member, seen.2 member, if_true]
  · simp only [addPages, if_neg member, mt seen.1 member, Bool.false_eq_true, if_false]

theorem addPages_of_nodup (pairs : List (String × Page)) :
    ∀ acc : List (String × Page),
      (acc.map Prod.fst ++ pairs.map (canonicalName ·.1)).Nodup →
        addPages acc pairs = .ok (acc.reverse ++ pairs.map fun x => (canonicalName x.1, x.2)) := by
  induction pairs with
  | nil => intro acc _; simp [addPages]
  | cons x rest ih =>
    intro acc distinct
    obtain ⟨n, p⟩ := x
    have moved := List.nodup_middle.1 distinct
    have fresh := (List.nodup_cons.1 moved).1
    rw [addPages_cons, if_neg fun seen => fresh (List.mem_append_left _ seen),
      ih _ (by simpa using moved)]
    simp

theorem addPages_of_repeat (pre : List (String × Page)) (x : String × Page)
    (post : List (String × Page)) :
    ∀ acc : List (String × Page),
      (acc.map Prod.fst ++ pre.map (canonicalName ·.1)).Nodup →
      canonicalName x.1 ∈ acc.map Prod.fst ++ pre.map (canonicalName ·.1) →
        addPages acc (pre ++ x :: post) = .error (.duplicatePage (canonicalName x.1)) := by
  induction pre with
  | nil =>
    intro acc _ repeated
    obtain ⟨n, p⟩ := x
    rw [List.nil_append, addPages_cons, if_pos (by simpa using repeated)]
  | cons y rest ih =>
    intro acc distinct repeated
    obtain ⟨n, p⟩ := y
    have moved := List.nodup_middle.1 distinct
    have fresh := (List.nodup_cons.1 moved).1
    rw [List.cons_append, addPages_cons, if_neg fun seen => fresh (List.mem_append_left _ seen)]
    rw [List.map_cons] at repeated
    exact ih _ (by simpa using moved) (List.perm_middle.subset repeated)

theorem exists_first_repeat (pairs : List (String × Page))
    (repeated : ¬ (pairs.map (canonicalName ·.1)).Nodup) :
    ∃ pre x post, pairs = pre ++ x :: post ∧ (pre.map (canonicalName ·.1)).Nodup ∧
      canonicalName x.1 ∈ pre.map (canonicalName ·.1) := by
  -- the first repetition of a list is that of its front, or its last name if its front has none
  induction pairs using List.reverseRecOn with
  | nil => exact absurd List.nodup_nil repeated
  | append_singleton front last ih =>
    by_cases front_distinct : (front.map (canonicalName ·.1)).Nodup
    · refine ⟨front, last, [], rfl, front_distinct, ?_⟩
      by_contra fresh
      refine repeated ?_
      rw [List.map_append, List.nodup_append]
      refine ⟨front_distinct, by simp, ?_⟩
      intro a member b last_name same
      rw [List.map_singleton, List.mem_singleton] at last_name
      exact fresh (last_name ▸ same ▸ member)
    · obtain ⟨pre, x, post, split, distinct, earlier⟩ := ih front_distinct
      exact ⟨pre, x, post ++ [last], by simp [split], distinct, earlier⟩

theorem lookup_canonical (pairs : List (String × Page))
    (distinct : (pairs.map (canonicalName ·.1)).Nodup) (k : String) (q : Page) :
    (pairs.map fun x => (canonicalName x.1, x.2)).lookup k = some q ↔
      ∃ name, (name, q) ∈ pairs ∧ canonicalName name = k := by
  induction pairs with
  | nil => simp
  | cons x rest ih =>
    obtain ⟨n, p⟩ := x
    obtain ⟨fresh, others⟩ := List.nodup_cons.1 distinct
    by_cases here : k = canonicalName n
    · subst here
      have later : ∀ name, (name, q) ∈ rest → canonicalName name ≠ canonicalName n :=
        fun name member same => fresh (List.mem_map.2 ⟨(name, q), member, same⟩)
      simp only [List.map_cons, List.lookup_cons, beq_self_eq_true, Option.some.injEq,
        List.mem_cons, Prod.mk.injEq]
      constructor
      · rintro rfl
        exact ⟨n, .inl ⟨rfl, rfl⟩, rfl⟩
      · rintro ⟨name, ⟨-, rfl⟩ | member, same⟩
        · rfl
        · exact absurd same (later name member)
    · have skip : (k == canonicalName n) = false := beq_false_of_ne here
      simp only [List.map_cons, List.lookup_cons, skip, List.mem_cons, Prod.mk.injEq]
      rw [ih others]
      constructor
      · rintro ⟨name, member, same⟩
        exact ⟨name, .inr member, same⟩
      · rintro ⟨name, ⟨rfl, -⟩ | member, same⟩
        · exact absurd same.symm here
        · exact ⟨name, member, same⟩

theorem build_of_nodup (entry : String) {pairs : List (String × Page)}
    (distinct : (pairs.map (canonicalName ·.1)).Nodup) :
    build entry pairs = .ok ⟨canonicalName entry, pairs.map fun x => (canonicalName x.1, x.2)⟩ := by
  unfold build
  rw [addPages_of_nodup pairs [] (by simpa using distinct)]
  rfl

theorem build_of_repeat (entry : String) {pre post : List (String × Page)} {x : String × Page}
    (distinct : (pre.map (canonicalName ·.1)).Nodup)
    (repeated : canonicalName x.1 ∈ pre.map (canonicalName ·.1)) :
    build entry (pre ++ x :: post) = .error (.duplicatePage (canonicalName x.1)) := by
  unfold build
  rw [addPages_of_repeat pre x post [] (by simpa using distinct) (by simpa using repeated)]
  rfl

/-- Building a story from an entry name and named pages, in any number. It is refused exactly
when two names have the same canonical form, and then with the canonical form of the first name
that repeats an earlier one. Otherwise the story's entry is the entry's canonical form, its
pages are the pages given, in order, under the canonical forms of their names, so it has as many
pages as were given; a name refers to the page whose name has the same canonical form, and to no
page when there is none, and the story contains a name exactly when it refers to a page. -/
theorem build_spec (entry : String) (pairs : List (String × Page)) :
    (∀ err, build entry pairs = .error err ↔
      ∃ pre x post, pairs = pre ++ x :: post ∧ (pre.map (canonicalName ·.1)).Nodup ∧
        canonicalName x.1 ∈ pre.map (canonicalName ·.1) ∧
        err = .duplicatePage (canonicalName x.1)) ∧
    ((∃ err, build entry pairs = .error err) ↔ ¬ (pairs.map (canonicalName ·.1)).Nodup) ∧
    ((pairs.map (canonicalName ·.1)).Nodup →
      ∃ d, build entry pairs = .ok d ∧ d.entry = canonicalName entry ∧
        d.names = pairs.map (canonicalName ·.1) ∧ d.pages.map Prod.snd = pairs.map Prod.snd ∧
        d.size = pairs.length ∧
        ∀ n, (∀ q, d.page? n = some q ↔
            ∃ name, (name, q) ∈ pairs ∧ canonicalName name = canonicalName n) ∧
          (d.contains n = true ↔ (d.page? n).isSome)) := by
  have refused : ∀ err, build entry pairs = .error err ↔
      ∃ pre x post, pairs = pre ++ x :: post ∧ (pre.map (canonicalName ·.1)).Nodup ∧
        canonicalName x.1 ∈ pre.map (canonicalName ·.1) ∧
        err = .duplicatePage (canonicalName x.1) := by
    intro err
    constructor
    · intro failed
      -- a build that fails has a repetition, and the first one is the error it names
      have repeats : ¬ (pairs.map (canonicalName ·.1)).Nodup := fun distinct => by
        simp [build_of_nodup entry distinct] at failed
      obtain ⟨pre, x, post, rfl, distinct, earlier⟩ := exists_first_repeat pairs repeats
      rw [build_of_repeat entry distinct earlier, Except.error.injEq] at failed
      exact ⟨pre, x, post, rfl, distinct, earlier, failed.symm⟩
    · rintro ⟨pre, x, post, rfl, distinct, earlier, rfl⟩
      exact build_of_repeat entry distinct earlier
  refine ⟨refused, ⟨?_, fun repeats => ?_⟩, fun distinct => ?_⟩
  · rintro ⟨err, failed⟩ distinct
    simp [build_of_nodup entry distinct] at failed
  · obtain ⟨pre, x, post, split, distinct, earlier⟩ := exists_first_repeat pairs repeats
    exact ⟨_, (refused _).2 ⟨pre, x, post, split, distinct, earlier, rfl⟩⟩
  · refine ⟨_, build_of_nodup entry distinct, rfl, by simp [names], by simp, by simp [size],
      fun n => ⟨fun q => lookup_canonical pairs distinct _ q, Iff.rfl⟩⟩

end Document

end Gamebook
