import Mathlib
import Gamebook.Proofs.Checking
import Gamebook.Proofs.Choosing
/- Playing a checked story. Calls of play (starting over, taking choices, running logic, setting
   variables) keep a session of a checked story at the end or on one of its pages: the entry is a
   page, every choice leads to the end or to a page, and a story keeps its names in canonical form,
   so the canonical form of a link is the link itself. A session without a current page is then
   finished; and when no page is named as the end, the end is final for every call of play but a
   reset. Main statement: `Session.checked_story_keeps_to_pages`. -/

namespace Gamebook

/-- Calls of play: starting over, taking choices, running logic and setting variables. Jumping to a
named page and installing progress are not among them. -/
def Call.isPlay : Call → Bool
  | .reset | .setVar _ _ | .run _ | .applyPage _ | .choose _ | .auto => true
  | _ => false

theorem Document.addPages_keys :
    ∀ (acc pages : List (String × Page)) {ps : List (String × Page)},
      Document.addPages acc pages = .ok ps → (∀ e ∈ acc, canonicalName e.1 = e.1) →
      ∀ e ∈ ps, canonicalName e.1 = e.1
  | acc, [], ps, added, keys => by
    cases added
    simpa using keys
  | acc, (n, p) :: rest, ps, added, keys => by
    unfold Document.addPages at added
    dsimp only at added
    split at added
    · cases added
    · refine Document.addPages_keys _ rest added fun e member => ?_
      rcases List.mem_cons.1 member with rfl | member
      · exact canonicalName_canonicalName n
      · exact keys e member

theorem Document.build_keys {entry : String} {pages : List (String × Page)} {d : Document}
    (built : Document.build entry pages = .ok d) : ∀ e ∈ d.pages, canonicalName e.1 = e.1 := by
  unfold Document.build at built
  cases added : Document.addPages [] pages with
  | error e => simp [added, Except.map] at built
  | ok ps =>
    simp only [added, Except.map, Except.ok.injEq] at built
    subst built
    exact Document.addPages_keys [] pages added (by simp)

theorem canonicalName_endName : canonicalName endName = endName := by decide +kernel

theorem Document.mem_of_find? {d : Document} {n : String} {p : Page} (found : d.find? n = some p) :
    (n, p) ∈ d.pages := by
  obtain ⟨before, after, split, -⟩ := List.lookup_eq_some_iff.1 found
  rw [split]
  simp

theorem Document.mem_of_findCodes? {d : Document} {cs : List Nat} {p : Page}
    (found : d.findCodes? cs = some p) : (Codes.toString cs, p) ∈ d.pages := by
  unfold Document.findCodes? at found
  split at found
  · exact Document.mem_of_find? found
  · cases found

theorem Document.Valid.link_leads {d : Document} (keys : ∀ e ∈ d.pages, canonicalName e.1 = e.1)
    (valid : d.Valid) {n : String} {p : Page} (member : (n, p) ∈ d.pages) {c : Choice}
    (chosen : c ∈ p.choices) :
    canonicalName c.link = endName ∨ ∃ q, d.find? (canonicalName c.link) = some q := by
  rcases valid.links _ member c chosen with ending | ⟨q, linked⟩
  · exact .inl (ending ▸ canonicalName_endName)
  · rw [keys _ (Document.mem_of_find? linked)]
    exact .inr ⟨q, linked⟩

theorem Pick.Names.mem {p : Page} {pick : Pick} {c : Choice} (names : pick.Names p c) :
    c ∈ p.choices := by
  cases pick with
  | index i => exact List.mem_of_getElem? names.2
  | choice c' => exact names.2
  | other => exact names.elim

namespace Session

/-- The session is at the end or on a page of its story. -/
def OnStory (s : Session) : Prop :=
  s.progress.page = Codes.ofString endName ∨ ∃ p, s.doc.findCodes? s.progress.page = some p

theorem choose_page (s : Session) (pick : Pick) :
    (s.choose pick).2.progress.page = s.progress.page ∨
      ∃ p c, s.currentPage? = some p ∧ c ∈ p.choices ∧
        (s.choose pick).2.progress.page = Codes.ofString (canonicalName c.link) := by
  cases taken : (s.choose pick).1 with
  | false => exact .inl (by rw [choose_of_false taken])
  | true =>
    obtain ⟨c, resolved, visible⟩ := (choose_true_iff s pick).1 taken
    obtain ⟨p, page, names⟩ := (resolve_eq_some s pick c).1 resolved
    refine .inr ⟨p, c, page, names.mem, ?_⟩
    rw [choose_of_visible resolved visible]
    split
    · exact (varsOnly_applyPage _ none).page.trans (goto_ofString_page s c.link)
    · exact goto_ofString_page s c.link

theorem perform_page (s : Session) {c : Call} (play : c.isPlay = true) :
    (s.perform c).progress.page = s.progress.page ∨
      (c = .reset ∧ (s.perform c).progress.page = Codes.ofString s.doc.entry) ∨
      ∃ p ch, s.currentPage? = some p ∧ ch ∈ p.choices ∧
        (s.perform c).progress.page = Codes.ofString (canonicalName ch.link) := by
  cases c with
  | reset => exact .inr (.inl ⟨rfl, (varsOnly_reset s).page⟩)
  | setVar name value => exact .inl (varsOnly_perform_setVar s name value).page
  | run l => exact .inl (varsOnly_run s l).page
  | applyPage page => exact .inl (varsOnly_applyPage s page).page
  | choose pick => exact (choose_page s pick).imp_right .inr
  | auto =>
    simp only [perform, Session.auto]
    split
    · exact (choose_page s _).imp_right .inr
    · exact .inl rfl
  | goto _ | install _ _ | installData _ | installProgress _ | load _ _ => cases play

theorem OnStory.perform {d : Document} (keys : ∀ e ∈ d.pages, canonicalName e.1 = e.1)
    (valid : d.Valid) {s : Session} (doc : s.doc = d) (on : s.OnStory) {c : Call}
    (play : c.isPlay = true) : (s.perform c).OnStory := by
  unfold OnStory at on ⊢
  rw [(perform_doc s c).1, doc]
  rw [doc] at on
  rcases perform_page s play with same | ⟨-, entered⟩ | ⟨p, ch, page, chosen, moved⟩
  · rw [same]
    exact on
  · rw [entered, doc, Document.findCodes?_ofString]
    exact .inr valid.entry
  · rw [moved, Document.findCodes?_ofString]
    rw [currentPage?, doc] at page
    rcases valid.link_leads keys (Document.mem_of_findCodes? page) chosen with ending | linked
    · exact .inl (congrArg Codes.ofString ending)
    · exact .inr linked

theorem OnStory.performAll {d : Document} (keys : ∀ e ∈ d.pages, canonicalName e.1 = e.1)
    (valid : d.Valid) {s : Session} (doc : s.doc = d) (on : s.OnStory) {calls : List Call}
    (play : ∀ c ∈ calls, c.isPlay = true) : (s.performAll calls).OnStory := by
  induction calls generalizing s with
  | nil => exact on
  | cons c rest ih =>
    exact ih ((perform_doc s c).1.trans doc) (on.perform keys valid doc (play c List.mem_cons_self))
      fun c' member => play c' (List.mem_cons_of_mem _ member)

theorem OnStory.finished {s : Session} (on : s.OnStory) (none : s.currentPage? = none) :
    s.isFinished = true := by
  rcases on with ending | ⟨p, found⟩
  · simp [isFinished, ending]
  · rw [currentPage?, found] at none
    cases none

section Finished

variable {s : Session} (noEnd : s.doc.find? endName = none) (finished : s.isFinished = true)
include noEnd finished

theorem currentPage?_of_finished : s.currentPage? = none := by
  have ending : s.progress.page = Codes.ofString endName := by simpa [isFinished] using finished
  rw [currentPage?, ending, Document.findCodes?_ofString, noEnd]

theorem choose_of_finished (pick : Pick) : s.choose pick = (false, s) := by
  have none : s.resolve pick = none := by simp [resolve, currentPage?_of_finished noEnd finished]
  simp [choose, none]

theorem auto_of_finished : s.auto = (false, s) := by
  have none : s.hasAuto = false := by simp [hasAuto, currentPage?_of_finished noEnd finished]
  simp [auto, none]

theorem perform_of_finished {c : Call} (play : c.isPlay = true) (notReset : c ≠ .reset) :
    (s.perform c).isFinished = true := by
  rcases perform_page s play with same | ⟨isReset, -⟩ | ⟨p, ch, page, -, -⟩
  · simpa [isFinished, same] using finished
  · exact absurd isReset notReset
  · rw [currentPage?_of_finished noEnd finished] at page
    cases page

end Finished

theorem start_onStory {d : Document} (keys : ∀ e ∈ d.pages, canonicalName e.1 = e.1)
    (valid : d.Valid) (enterLogic : Bool) : (start d enterLogic).OnStory := by
  have entry : ∃ p, d.findCodes? (Codes.ofString d.entry) = some p := by
    rw [Document.findCodes?_ofString]
    exact valid.entry
  exact OnStory.perform (s := ⟨d, enterLogic, ⟨Codes.ofString d.entry, Vars.empty⟩⟩) (c := .reset)
    keys valid rfl (.inr entry) rfl

/-- Where a session of story `d` can be: at the end or on a page, so that it lacks a current page
only when finished; and, when no page is named as the end, a finished session refuses every
choice, has no automatic one, and stays finished under every call of play but a reset. -/
structure KeepsToPages (d : Document) (s : Session) : Prop where
  page : s.progress.page = Codes.ofString endName ∨ ∃ p, d.findCodes? s.progress.page = some p
  finished_of_none : s.currentPage? = none → s.isFinished = true
  end_final : d.find? endName = none → s.isFinished = true →
    (∀ pick, s.choose pick = (false, s)) ∧ s.auto = (false, s) ∧
      ∀ c, c.isPlay = true → c ≠ .reset → (s.perform c).isFinished = true

/-- Whatever calls of play a host makes on a new session of a checked story, the session keeps to
the story's pages. -/
theorem checked_story_keeps_to_pages {entry : String} {pages : List (String × Page)}
    {d : Document} (built : Document.build entry pages = .ok d) (checked : d.check = .ok ())
    (enterLogic : Bool) {calls : List Call} (play : ∀ c ∈ calls, c.isPlay = true) :
    KeepsToPages d ((start d enterLogic).performAll calls) := by
  have valid := Document.check_eq_ok_iff.1 checked
  have keys := Document.build_keys built
  have started := start_doc d enterLogic
  have doc : ((start d enterLogic).performAll calls).doc = d :=
    (performAll_doc _ calls).1.trans started.1
  have on := OnStory.performAll keys valid started.1 (start_onStory keys valid enterLogic) play
  refine ⟨?_, on.finished, fun noEnd finished => ?_⟩
  · unfold OnStory at on
    rwa [doc] at on
  rw [← doc] at noEnd
  exact ⟨choose_of_finished noEnd finished, auto_of_finished noEnd finished,
    fun c play' notReset => perform_of_finished noEnd finished play' notReset⟩

/-- A porch whose way in leads to the hall. -/
def porchPage : Page :=
  { texts := ["A porch."],
    choices := [{ link := "hall", text := some "Enter" }, { link := "end", text := some "Leave" }] }

/-- A hall that counts visits and ends the story. -/
def parlourPage : Page :=
  { texts := ["A parlour."], choices := [{ link := "end" }], logics := [⟨.increase, "visits", 1⟩] }

/-- The house story, with its names in canonical form. -/
def houseDoc : Document := ⟨"porch", [("porch", porchPage), ("hall", parlourPage)]⟩

/-- The house story played in, on to the end, and past it. -/
theorem house_play_keeps_to_pages :
    Document.build "Porch" [("Porch", porchPage), (" Hall", parlourPage)] = .ok houseDoc ∧
      houseDoc.check = .ok () ∧
      (∀ c ∈ [Call.choose (.index 0), .auto, .choose (.index 1), .setVar (.ofString "visits") (.int 3)],
        c.isPlay = true) ∧
      KeepsToPages houseDoc ((start houseDoc true).performAll
        [.choose (.index 0), .auto, .choose (.index 1), .setVar (.ofString "visits") (.int 3)]) :=
  have built : Document.build "Porch" [("Porch", porchPage), (" Hall", parlourPage)] =
      .ok houseDoc := by
    have porch : canonicalName "Porch" = "porch" := by decide +kernel
    have hall : canonicalName " Hall" = "hall" := by decide +kernel
    simp [Document.build, Document.addPages, porch, hall, houseDoc, Except.map]
  have checked : houseDoc.check = .ok () := by
    simp [Document.check, houseDoc, Document.visit, Document.reachable, Document.checkPages,
      Document.find?, Document.declares, Document.names, Document.resolves, porchPage,
      parlourPage, endName, List.lookup]
  have play : ∀ c ∈ [Call.choose (.index 0), .auto, .choose (.index 1),
      .setVar (.ofString "visits") (.int 3)], c.isPlay = true := by
    simp [Call.isPlay]
  ⟨built, checked, play, checked_story_keeps_to_pages built checked true play⟩

end Session

end Gamebook
