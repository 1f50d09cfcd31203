import Mathlib
import Gamebook.Play.Call
import Gamebook.Proofs.Environment
import Gamebook.Proofs.Except
import Gamebook.Proofs.CanonicalName
/- The representation of a progress survives every call. Setting a variable stores its canonical
   name and drops a zero, installing a snapshot canonicalizes every name it stores, and the page
   is only ever the story's entry or a canonical name, so after any calls on a story every
   stored name and the current page are canonical and no stored value is zero. Main statement:
   `Session.performAll_progress_canonical`. -/

namespace Gamebook

namespace Vars

theorem valid_empty : empty.Valid := by simp [Valid, empty]

theorem mem_putEntries {k : Name} {x : Int} :
    ∀ {l : List (Name × Int)} {e : Name × Int}, e ∈ putEntries l k x → e ∈ l ∨ e = (k, x)
  | [], e, member => by simpa [putEntries] using member
  | (k0, x0) :: rest, e, member => by
    unfold putEntries at member
    split_ifs at member
    · rcases List.mem_cons.1 member with rfl | member
      · exact .inr rfl
      · exact .inl (List.mem_cons_of_mem _ member)
    · rcases List.mem_cons.1 member with rfl | member
      · exact .inl List.mem_cons_self
      · exact (mem_putEntries member).imp (List.mem_cons_of_mem _) id

theorem Valid.put {v : Vars} (valid : v.Valid) {k : Name} (canon : k.canonical = k) {x : Int}
    (nonzero : x ≠ 0) : (v.put k x).Valid := by
  intro e member
  rcases mem_putEntries member with old | rfl
  · exact valid e old
  · exact ⟨nonzero, canon⟩

theorem Valid.set {v : Vars} (valid : v.Valid) {k : Name} (canon : k.canonical = k) (x : Int) :
    (v.set k x).Valid := by
  unfold Vars.set
  split_ifs with zero
  · exact fun e member => valid e (List.mem_of_mem_filter member)
  · exact valid.put canon zero

theorem ofList_eq_foldl (l : List (Name × Int)) :
    ofList l = l.foldl (fun acc e => if e.2 = 0 then acc else acc.put e.1.canonical e.2) empty :=
  rfl

theorem valid_ofList (l : List (Name × Int)) : (Vars.ofList l).Valid := by
  rw [ofList_eq_foldl]
  suffices ∀ acc : Vars, acc.Valid →
      (l.foldl (fun acc e => if e.2 = 0 then acc else acc.put e.1.canonical e.2) acc).Valid from
    this _ valid_empty
  induction l with
  | nil => exact fun acc valid => valid
  | cons e rest ih =>
    intro acc valid
    obtain ⟨k, x⟩ := e
    refine ih _ ?_
    dsimp only
    split_ifs with zero
    · exact valid
    · exact valid.put (Name.canonical_canonical k) zero

end Vars

namespace Session

/-- `t` is `s` with at most its variables changed, a valid store staying valid. -/
structure VarsOnly (s t : Session) : Prop where
  doc : t.doc = s.doc
  enterLogic : t.enterLogic = s.enterLogic
  page : t.progress.page = s.progress.page
  valid : s.progress.vars.Valid → t.progress.vars.Valid

theorem VarsOnly.refl (s : Session) : VarsOnly s s := ⟨rfl, rfl, rfl, id⟩

theorem VarsOnly.trans {s t u : Session} (first : VarsOnly s t) (second : VarsOnly t u) :
    VarsOnly s u :=
  ⟨second.doc.trans first.doc, second.enterLogic.trans first.enterLogic,
    second.page.trans first.page, fun valid => second.valid (first.valid valid)⟩

theorem varsOnly_setVar (s : Session) (name : Name) (x : Int) : VarsOnly s (s.setVar name x) :=
  ⟨rfl, rfl, rfl, fun valid => valid.set (Name.canonical_canonical name) x⟩

theorem varsOnly_run (s : Session) (l : Logic) : VarsOnly s (s.run l).2 := by
  cases op : l.op <;> simp only [run, op]
  · exact varsOnly_setVar s _ l.rhs
  · exact varsOnly_setVar s _ _
  all_goals exact VarsOnly.refl s

theorem varsOnly_foldl_run (logics : List Logic) (s : Session) :
    VarsOnly s (logics.foldl (fun s l => (s.run l).2) s) := by
  induction logics generalizing s with
  | nil => exact VarsOnly.refl s
  | cons l rest ih => exact (varsOnly_run s l).trans (ih _)

theorem varsOnly_applyPage (s : Session) (page : Option Page) : VarsOnly s (s.applyPage page) := by
  unfold applyPage
  split
  · exact varsOnly_foldl_run _ s
  · exact VarsOnly.refl s

theorem choose_cases (s : Session) (pick : Pick) :
    (s.choose pick).2 = s ∨ ∃ c : Choice, VarsOnly (s.goto (Codes.ofString c.link)) (s.choose pick).2 := by
  unfold choose
  split
  · next c _ =>
    split
    · refine .inr ⟨c, ?_⟩
      split
      · exact varsOnly_applyPage _ none
      · exact VarsOnly.refl _
    · exact .inl rfl
  · exact .inl rfl

theorem auto_cases (s : Session) :
    s.auto.2 = s ∨ ∃ c : Choice, VarsOnly (s.goto (Codes.ofString c.link)) s.auto.2 := by
  unfold auto
  split
  · exact choose_cases s _
  · exact .inl rfl

theorem installed_fst (s : Session) (page : List Nat) (vars : Vars) :
    (s.installed page vars).1 = { s with progress := ⟨page, vars⟩ } := rfl

theorem valid_installVar {acc acc' : Vars} (valid : acc.Valid) {k x : Value}
    (step : installVar acc k x = .ok acc') : acc'.Valid := by
  unfold installVar at step
  split at step
  · cases step
  · cases step
    exact valid
  · rename_i n nonzero _
    split at step
    · cases step
      exact valid.put (Name.canonical_canonical _) nonzero
    · cases step

theorem install_ok {s t : Session} {page? vars? : Option Value} {warnings : List String}
    (h : s.install page? vars? = .ok (t, warnings)) :
    ∃ name stored, stored.Valid ∧ t = { s with progress := ⟨Codes.canonical name, stored⟩ } := by
  unfold install at h
  simp only at h
  split at h
  · simp only [pure_bind] at h
    split at h
    · next page _ =>
      obtain ⟨stored, folded, h⟩ := bind_eq_ok h
      cases h
      exact ⟨page, stored, foldlM_inv (fun _ ⟨_, _⟩ _ valid step => valid_installVar valid step) _
        Vars.valid_empty folded, rfl⟩
    · cases h
  · cases h

theorem installData_ok {s t : Session} {v : Value} {warnings : List String}
    (h : s.installData v = .ok (t, warnings)) :
    ∃ name stored, stored.Valid ∧ t = { s with progress := ⟨Codes.canonical name, stored⟩ } := by
  unfold installData at h
  split at h
  · exact install_ok h
  · cases h

theorem installProgress_eq (s : Session) (p : Progress) :
    ∃ name stored, stored.Valid ∧
      (s.installProgress p).1 = { s with progress := ⟨Codes.canonical name, stored⟩ } :=
  ⟨p.page, _, Vars.valid_ofList _, rfl⟩

theorem load_ok {s t : Session} {room : Nat} {text : String} {warnings : List String}
    (h : s.load room text = .ok (t, warnings)) :
    ∃ name stored, stored.Valid ∧ t = { s with progress := ⟨Codes.canonical name, stored⟩ } := by
  unfold load at h
  split at h
  · next p _ =>
    cases h
    exact installProgress_eq s p
  · cases h

theorem varsOnly_install (s : Session) (name : List Nat) {stored : Vars} (valid : stored.Valid) :
    VarsOnly (s.goto name) { s with progress := ⟨Codes.canonical name, stored⟩ } :=
  ⟨rfl, rfl, rfl, fun _ => valid⟩

theorem after_cases (s : Session) {r : Except PlayError (Session × List String)}
    (accepted : ∀ t warnings, r = .ok (t, warnings) →
      ∃ name stored, stored.Valid ∧ t = { s with progress := ⟨Codes.canonical name, stored⟩ }) :
    s.after r = s ∨ ∃ name, VarsOnly (s.goto name) (s.after r) := by
  unfold Session.after
  split
  · next t warnings =>
    obtain ⟨name, stored, valid, rfl⟩ := accepted t warnings rfl
    exact .inr ⟨name, varsOnly_install s name valid⟩
  · exact .inl rfl

theorem varsOnly_reset (s : Session) :
    VarsOnly { s with progress := ⟨Codes.ofString s.doc.entry, Vars.empty⟩ } s.reset := by
  unfold Session.reset
  split
  · exact varsOnly_applyPage _ none
  · exact VarsOnly.refl _

theorem varsOnly_perform_setVar (s : Session) (name : Name) (value : Value) :
    VarsOnly s (s.perform (.setVar name value)) := by
  simp only [perform]
  split
  · exact varsOnly_setVar s name _
  · exact VarsOnly.refl s

theorem perform_cases (s : Session) (c : Call) :
    VarsOnly s (s.perform c) ∨ (∃ name, VarsOnly (s.goto name) (s.perform c)) ∨
      VarsOnly { s with progress := ⟨Codes.ofString s.doc.entry, Vars.empty⟩ } (s.perform c) := by
  have unchanged : ∀ t, t = s → VarsOnly s t := fun t same => same ▸ VarsOnly.refl s
  cases c with
  | reset => exact .inr (.inr (varsOnly_reset s))
  | goto name => exact .inr (.inl ⟨name, VarsOnly.refl _⟩)
  | setVar name value => exact .inl (varsOnly_perform_setVar s name value)
  | run l => exact .inl (varsOnly_run s l)
  | applyPage page => exact .inl (varsOnly_applyPage s page)
  | choose pick =>
    rcases choose_cases s pick with same | ⟨c, moved⟩
    · exact .inl (unchanged _ same)
    · exact .inr (.inl ⟨_, moved⟩)
  | auto =>
    rcases auto_cases s with same | ⟨c, moved⟩
    · exact .inl (unchanged _ same)
    · exact .inr (.inl ⟨_, moved⟩)
  | install page vars =>
    rcases after_cases s (fun _ _ h => install_ok h) with same | moved
    · exact .inl (unchanged _ same)
    · exact .inr (.inl moved)
  | installData v =>
    rcases after_cases s (fun _ _ h => installData_ok h) with same | moved
    · exact .inl (unchanged _ same)
    · exact .inr (.inl moved)
  | installProgress p =>
    obtain ⟨name, stored, valid, same⟩ := installProgress_eq s p
    refine .inr (.inl ⟨name, ?_⟩)
    simp only [perform, same]
    exact varsOnly_install s name valid
  | load room text =>
    rcases after_cases s (fun _ _ h => load_ok h) with same | moved
    · exact .inl (unchanged _ same)
    · exact .inr (.inl moved)

theorem perform_doc (s : Session) (c : Call) :
    (s.perform c).doc = s.doc ∧ (s.perform c).enterLogic = s.enterLogic := by
  rcases perform_cases s c with kept | ⟨name, kept⟩ | kept <;> exact ⟨kept.doc, kept.enterLogic⟩

theorem perform_vars_valid {s : Session} (valid : s.progress.vars.Valid) (c : Call) :
    (s.perform c).progress.vars.Valid := by
  rcases perform_cases s c with kept | ⟨name, kept⟩ | kept
  · exact kept.valid valid
  · exact kept.valid valid
  · exact kept.valid Vars.valid_empty

theorem performAll_doc (s : Session) (calls : List Call) :
    (s.performAll calls).doc = s.doc ∧ (s.performAll calls).enterLogic = s.enterLogic := by
  induction calls generalizing s with
  | nil => exact ⟨rfl, rfl⟩
  | cons c rest ih =>
    obtain ⟨doc, enter⟩ := ih (s.perform c)
    exact ⟨doc.trans (perform_doc s c).1, enter.trans (perform_doc s c).2⟩

theorem performAll_vars_valid {s : Session} (valid : s.progress.vars.Valid) (calls : List Call) :
    (s.performAll calls).progress.vars.Valid := by
  induction calls generalizing s with
  | nil => exact valid
  | cons c rest ih => exact ih (perform_vars_valid valid c)

end Session

/-- The representation of a progress: a valid store (canonical names, no zero value) and a
canonical page. -/
structure Progress.Canonical (p : Progress) : Prop where
  vars : p.vars.Valid
  page : Codes.canonical p.page = p.page

theorem Document.build_entry {entry : String} {pages : List (String × Page)} {d : Document}
    (built : Document.build entry pages = .ok d) : canonicalName d.entry = d.entry := by
  unfold Document.build at built
  cases added : Document.addPages [] pages with
  | error e => simp [added, Except.map] at built
  | ok ps =>
    simp only [added, Except.map, Except.ok.injEq] at built
    subst built
    exact canonicalName_canonicalName entry

namespace Session

/-- A session whose story has a canonical entry and whose progress keeps its representation. -/
structure Canonical (s : Session) : Prop where
  entry : canonicalName s.doc.entry = s.doc.entry
  progress : s.progress.Canonical

theorem Canonical.of_varsOnly {s t : Session} (hs : s.Canonical) (h : VarsOnly s t) :
    t.Canonical :=
  ⟨h.doc ▸ hs.entry, ⟨h.valid hs.progress.vars, h.page ▸ hs.progress.page⟩⟩

theorem Canonical.goto {s : Session} (hs : s.Canonical) (name : List Nat) : (s.goto name).Canonical :=
  ⟨hs.entry, ⟨hs.progress.vars, Codes.canonical_canonical name⟩⟩

theorem Canonical.perform {s : Session} (hs : s.Canonical) (c : Call) :
    (s.perform c).Canonical := by
  rcases perform_cases s c with kept | ⟨name, kept⟩ | kept
  · exact hs.of_varsOnly kept
  · exact (hs.goto name).of_varsOnly kept
  · have entered : ({ s with progress := ⟨Codes.ofString s.doc.entry, Vars.empty⟩ } : Session).Canonical :=
      ⟨hs.entry, ⟨Vars.valid_empty, by rw [Codes.canonical_ofString, hs.entry]⟩⟩
    exact entered.of_varsOnly kept

theorem Canonical.performAll {s : Session} (hs : s.Canonical) (calls : List Call) :
    (s.performAll calls).Canonical := by
  induction calls generalizing s with
  | nil => exact hs
  | cons c rest ih => exact ih (hs.perform c)

theorem start_canonical {d : Document} (entry : canonicalName d.entry = d.entry)
    (enterLogic : Bool) : (start d enterLogic).Canonical :=
  Canonical.perform (s := ⟨d, enterLogic, ⟨Codes.ofString d.entry, Vars.empty⟩⟩)
    ⟨entry, ⟨Vars.valid_empty, by rw [Codes.canonical_ofString, entry]⟩⟩ .reset

/-- Whatever calls a host makes on a session of a story, in any order and refused or not, the
progress reached stores no zero, keeps its names canonical, and has a canonical page. -/
theorem performAll_progress_canonical {entry : String} {pages : List (String × Page)}
    {d : Document} (built : Document.build entry pages = .ok d) (enterLogic : Bool)
    (calls : List Call) : ((start d enterLogic).performAll calls).progress.Canonical :=
  ((start_canonical (Document.build_entry built) enterLogic).performAll calls).progress

/-- A page that sets gold when entered and whose only choice ends the story. -/
def forkPage : Page :=
  { texts := ["The road forks."], choices := [{ link := "end" }], logics := [⟨.assign, "gold", 5⟩] }

/-- A story built from a page declared as `Start`, under refused and accepted calls. -/
theorem fork_calls_keep_canonical :
    Document.build "Start" [("Start", forkPage)] = .ok ⟨"start", [("start", forkPage)]⟩ ∧
      ((start ⟨"start", [("start", forkPage)]⟩ true).performAll
        [.setVar (.ofString "Gold") (.bool true), .run ⟨.increase, " GOLD ", -5⟩,
          .goto (Codes.ofString " End "), .load 100 "[]", .choose (.index 0)]).progress.Canonical :=
  have built : Document.build "Start" [("Start", forkPage)] =
      .ok ⟨"start", [("start", forkPage)]⟩ := by
    have start : canonicalName "Start" = "start" := by decide +kernel
    simp [Document.build, Document.addPages, start, Except.map]
  ⟨built, performAll_progress_canonical built true _⟩

end Session

end Gamebook
