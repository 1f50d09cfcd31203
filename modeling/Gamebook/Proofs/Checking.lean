import Mathlib
import Gamebook.Story.Check
import Gamebook.Proofs.Reaching
/- Checking a story. It passes exactly when the entry is declared, every page has body text and
   choices, every choice leads to the end or to a declared page, and every page is reachable from
   the entry. Otherwise it reports the first violation: a missing entry; then, page by page in
   declaration order, no text, no choices, or the first choice that leads nowhere; last, the
   first page that cannot be reached. Main statement: `Document.check_reports_first_violation`. -/

namespace Gamebook

namespace Document

variable {d : Document}

/-- A link leads on: to the end, or to a declared page. -/
def Leads (d : Document) (link : String) : Prop := link = endName ∨ ∃ q, d.find? link = some q

theorem resolves_iff (link : String) : d.resolves link = true ↔ d.Leads link := by
  simp [resolves, Leads, declares, Option.isSome_iff_exists]

theorem resolves_eq_false_iff (link : String) : d.resolves link = false ↔ ¬ d.Leads link := by
  rw [← resolves_iff]
  simp

/-- A page passes its own checks: it has body text and choices, and every choice leads on. -/
structure PageSound (d : Document) (p : Page) : Prop where
  texts : p.texts ≠ []
  choices : p.choices ≠ []
  links : ∀ c ∈ p.choices, d.Leads c.link

/-- What the check of a story reports about page `n`: no body text; else no choices; else the
first choice, in order, whose link leads nowhere. -/
inductive PageFault (d : Document) (n : String) (p : Page) : CheckError → Prop
  | noTexts : p.texts = [] → PageFault d n p (.noTexts n)
  | noChoices : p.texts ≠ [] → p.choices = [] → PageFault d n p (.noChoices n)
  | unresolved {before after : List Choice} {c : Choice} : p.texts ≠ [] →
      p.choices = before ++ c :: after → (∀ c' ∈ before, d.Leads c'.link) → ¬ d.Leads c.link →
      PageFault d n p (.unresolved n c.link)

theorem checkPages_cons_of_sound {n : String} {p : Page} (rest : List (String × Page))
    (sound : PageSound d p) : d.checkPages ((n, p) :: rest) = d.checkPages rest := by
  have none : p.choices.find? (fun c => !d.resolves c.link) = none := by
    simpa [List.find?_eq_none, resolves_iff] using sound.links
  simp [checkPages, List.isEmpty_iff, sound.texts, sound.choices, none]

theorem checkPages_cons_of_fault {n : String} {p : Page} {e : CheckError}
    (rest : List (String × Page)) (fault : PageFault d n p e) :
    d.checkPages ((n, p) :: rest) = .error e := by
  cases fault with
  | noTexts empty => simp [checkPages, empty]
  | noChoices texts empty => simp [checkPages, List.isEmpty_iff, texts, empty]
  | unresolved texts split before dangling =>
    have first : p.choices.find? (fun c => !d.resolves c.link) = some _ :=
      List.find?_eq_some_iff_append.2
        ⟨by simpa [resolves_eq_false_iff] using dangling, _, _, split,
          by simpa [resolves_iff] using before⟩
    have choices : p.choices ≠ [] := by simp [split]
    simp [checkPages, List.isEmpty_iff, texts, choices, first]

theorem PageFault.unique {n : String} {p : Page} {e e' : CheckError} (fault : PageFault d n p e)
    (fault' : PageFault d n p e') : e = e' := by
  have same := (checkPages_cons_of_fault [] fault).symm.trans (checkPages_cons_of_fault [] fault')
  injection same

theorem PageFault.not_sound {n : String} {p : Page} {e : CheckError} (fault : PageFault d n p e) :
    ¬ PageSound d p := by
  intro sound
  cases fault with
  | noTexts empty => exact sound.texts empty
  | noChoices _ empty => exact sound.choices empty
  | unresolved _ split _ dangling => exact dangling (sound.links _ (by simp [split]))

theorem sound_or_fault (n : String) (p : Page) : PageSound d p ∨ ∃ e, PageFault d n p e := by
  by_cases texts : p.texts = []
  · exact .inr ⟨_, .noTexts texts⟩
  by_cases choices : p.choices = []
  · exact .inr ⟨_, .noChoices texts choices⟩
  cases first : p.choices.find? (fun c => !d.resolves c.link) with
  | none =>
    refine .inl ⟨texts, choices, fun c chosen => ?_⟩
    have := List.find?_eq_none.1 first c chosen
    simpa [resolves_iff] using this
  | some c =>
    obtain ⟨dangling, before, after, split, leading⟩ := List.find?_eq_some_iff_append.1 first
    refine .inr ⟨_, .unresolved texts split (fun c' member => ?_) (by simpa [resolves_eq_false_iff] using dangling)⟩
    simpa [resolves_iff] using leading c' member

theorem checkPages_eq_ok_iff (pages : List (String × Page)) :
    d.checkPages pages = .ok () ↔ ∀ e ∈ pages, PageSound d e.2 := by
  induction pages with
  | nil => simp [checkPages]
  | cons entry rest ih =>
    obtain ⟨n, p⟩ := entry
    rcases sound_or_fault (d := d) n p with sound | ⟨e, fault⟩
    · rw [checkPages_cons_of_sound rest sound, ih]
      simp [sound]
    · rw [checkPages_cons_of_fault rest fault]
      simp only [reduceCtorEq, List.mem_cons, forall_eq_or_imp, false_iff, not_and]
      exact fun sound => absurd sound fault.not_sound

theorem checkPages_eq_error_iff (pages : List (String × Page)) (e : CheckError) :
    d.checkPages pages = .error e ↔ ∃ before n p after, pages = before ++ (n, p) :: after ∧
      (∀ e' ∈ before, PageSound d e'.2) ∧ PageFault d n p e := by
  induction pages with
  | nil => simp [checkPages]
  | cons entry rest ih =>
    obtain ⟨n, p⟩ := entry
    rcases sound_or_fault (d := d) n p with sound | ⟨e', fault⟩
    · rw [checkPages_cons_of_sound rest sound, ih]
      constructor
      · rintro ⟨before, m, q, after, split, sounds, fault⟩
        refine ⟨(n, p) :: before, m, q, after, by simp [split], ?_, fault⟩
        simpa [sound] using sounds
      · rintro ⟨before, m, q, after, split, sounds, fault⟩
        cases before with
        | nil =>
          simp only [List.nil_append, List.cons.injEq, Prod.mk.injEq] at split
          obtain ⟨⟨rfl, rfl⟩, rfl⟩ := split
          exact absurd sound fault.not_sound
        | cons first before =>
          simp only [List.cons_append, List.cons.injEq] at split
          obtain ⟨rfl, rfl⟩ := split
          exact ⟨before, m, q, after, rfl, fun e' member => sounds e' (by simp [member]), fault⟩
    · rw [checkPages_cons_of_fault rest fault]
      constructor
      · rintro ⟨⟩
        exact ⟨[], n, p, rest, rfl, by simp, fault⟩
      · rintro ⟨before, m, q, after, split, sounds, fault'⟩
        cases before with
        | nil =>
          simp only [List.nil_append, List.cons.injEq, Prod.mk.injEq] at split
          obtain ⟨⟨rfl, rfl⟩, rfl⟩ := split
          rw [fault.unique fault']
        | cons first before =>
          simp only [List.cons_append, List.cons.injEq] at split
          obtain ⟨rfl, rfl⟩ := split
          exact absurd (sounds _ List.mem_cons_self) fault.not_sound

theorem unreached_eq_none_iff :
    d.names.find? (fun n => !d.reachable.contains n) = none ↔ ∀ e ∈ d.pages, Reachable d e.1 := by
  simp [List.find?_eq_none, names, mem_reachable_iff]

theorem unreached_eq_some_iff (n : String) :
    d.names.find? (fun n => !d.reachable.contains n) = some n ↔
      ¬ Reachable d n ∧ ∃ before after, d.names = before ++ n :: after ∧
        ∀ m ∈ before, Reachable d m := by
  rw [List.find?_eq_some_iff_append]
  simp [mem_reachable_iff]

theorem check_of_missing (missing : d.find? d.entry = none) :
    d.check = .error (.entryMissing d.entry) := by
  simp [check, declares, missing]
  rfl

theorem check_of_pages_error {p : Page} {e : CheckError} (found : d.find? d.entry = some p)
    (failed : d.checkPages d.pages = .error e) : d.check = .error e := by
  simp [check, declares, found, failed]
  rfl

theorem check_of_pages_ok {p : Page} (found : d.find? d.entry = some p)
    (passed : d.checkPages d.pages = .ok ()) :
    d.check = match d.names.find? (fun n => !d.reachable.contains n) with
      | some n => .error (.unreferenced n)
      | none => .ok () := by
  simp [check, declares, found, passed]
  rfl


/-- A story that passes its check: the entry is declared, every page has body text and choices,
every choice leads to the end or to a declared page, and every page is reachable from the
entry. -/
structure Valid (d : Document) : Prop where
  entry : ∃ p, d.find? d.entry = some p
  texts : ∀ e ∈ d.pages, e.2.texts ≠ []
  choices : ∀ e ∈ d.pages, e.2.choices ≠ []
  links : ∀ e ∈ d.pages, ∀ c ∈ e.2.choices, d.Leads c.link
  reachable : ∀ e ∈ d.pages, Reachable d e.1

theorem Valid.pageSound (valid : d.Valid) : ∀ e ∈ d.pages, PageSound d e.2 :=
  fun e member => ⟨valid.texts e member, valid.choices e member, valid.links e member⟩

/-- The failure the check of a story reports: a missing entry first; then the first page, in
declaration order, that fails its own checks, with its first fault; last the first page, in
declaration order, that cannot be reached from the entry. -/
inductive FirstViolation (d : Document) : CheckError → Prop
  | entryMissing : d.find? d.entry = none → FirstViolation d (.entryMissing d.entry)
  | page {before after : List (String × Page)} {n : String} {p : Page} {e : CheckError} :
      (∃ q, d.find? d.entry = some q) → d.pages = before ++ (n, p) :: after →
      (∀ e' ∈ before, PageSound d e'.2) → PageFault d n p e → FirstViolation d e
  | unreferenced {before after : List String} {n : String} :
      (∃ q, d.find? d.entry = some q) → (∀ e ∈ d.pages, PageSound d e.2) →
      d.names = before ++ n :: after → (∀ m ∈ before, Reachable d m) → ¬ Reachable d n →
      FirstViolation d (.unreferenced n)

theorem check_eq_ok_iff : d.check = .ok () ↔ d.Valid := by
  constructor
  · intro passed
    cases found : d.find? d.entry with
    | none =>
      rw [check_of_missing found] at passed
      cases passed
    | some p =>
      cases pages : d.checkPages d.pages with
      | error e =>
        rw [check_of_pages_error found pages] at passed
        cases passed
      | ok u =>
        have sound := (checkPages_eq_ok_iff _).1 pages
        rw [check_of_pages_ok found pages] at passed
        cases unreached : d.names.find? (fun n => !d.reachable.contains n) with
        | some n =>
          rw [unreached] at passed
          cases passed
        | none =>
          exact ⟨⟨p, found⟩, fun e member => (sound e member).texts,
            fun e member => (sound e member).choices, fun e member => (sound e member).links,
            unreached_eq_none_iff.1 unreached⟩
  · intro valid
    obtain ⟨p, found⟩ := valid.entry
    rw [check_of_pages_ok found ((checkPages_eq_ok_iff _).2 valid.pageSound),
      unreached_eq_none_iff.2 valid.reachable]

theorem check_of_violation {e : CheckError} (violation : FirstViolation d e) :
    d.check = .error e := by
  cases violation with
  | entryMissing missing => exact check_of_missing missing
  | page declared split sounds fault =>
    obtain ⟨p, found⟩ := declared
    exact check_of_pages_error found
      ((checkPages_eq_error_iff _ _).2 ⟨_, _, _, _, split, sounds, fault⟩)
  | unreferenced declared sound split reached missed =>
    obtain ⟨p, found⟩ := declared
    rw [check_of_pages_ok found ((checkPages_eq_ok_iff _).2 sound),
      (unreached_eq_some_iff _).2 ⟨missed, _, _, split, reached⟩]

theorem violation_of_check {e : CheckError} (failed : d.check = .error e) :
    FirstViolation d e := by
  cases found : d.find? d.entry with
  | none =>
    rw [check_of_missing found] at failed
    injection failed with same
    subst same
    exact .entryMissing found
  | some p =>
    cases pages : d.checkPages d.pages with
    | error e' =>
      rw [check_of_pages_error found pages] at failed
      injection failed with same
      subst same
      obtain ⟨before, n, q, after, split, sounds, fault⟩ := (checkPages_eq_error_iff _ _).1 pages
      exact .page ⟨p, found⟩ split sounds fault
    | ok u =>
      rw [check_of_pages_ok found pages] at failed
      cases unreached : d.names.find? (fun n => !d.reachable.contains n) with
      | none =>
        rw [unreached] at failed
        cases failed
      | some n =>
        rw [unreached] at failed
        injection failed with same
        subst same
        obtain ⟨missed, before, after, split, reached⟩ := (unreached_eq_some_iff n).1 unreached
        exact .unreferenced ⟨p, found⟩ ((checkPages_eq_ok_iff _).1 pages) split reached missed

/-- Checking a story passes exactly on valid stories, and otherwise reports the first
violation. -/
theorem check_reports_first_violation (d : Document) :
    (d.check = .ok () ↔ d.Valid) ∧ ∀ e, d.check = .error e ↔ FirstViolation d e :=
  ⟨check_eq_ok_iff, fun _ => ⟨violation_of_check, check_of_violation⟩⟩

end Document

end Gamebook
