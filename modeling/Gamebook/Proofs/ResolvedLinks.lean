import Mathlib
import Gamebook.Proofs.CheckedPlay
import Gamebook.Proofs.Inventory
/- Links as the check and the inventory see them, and as play takes them. The check and the
   inventory compare a link as it is stored; taking a choice moves to the canonical form of its
   link. On a story kept under canonical names the two meet on canonical links only: a link
   counts as resolved exactly when it is canonical and its canonical form, where play leads, is
   the end or a page. A link such as `Next` beside a page `next` counts as unresolved though
   play follows it, and the page it leads to can lie outside the reachable pages. When every link
   is canonical, play from a new session enters only pages reachable from the entry. Main
   statement: `Document.resolved_links_meet_play`. -/

namespace Gamebook

namespace Document

variable {d : Document}

theorem leads_iff_canonical (keys : ∀ e ∈ d.pages, canonicalName e.1 = e.1) (link : String) :
    d.Leads link ↔ canonicalName link = link ∧ d.Leads (canonicalName link) := by
  constructor
  · intro leads
    have canonical : canonicalName link = link := by
      rcases leads with ending | ⟨q, found⟩
      · rw [ending]
        exact canonicalName_endName
      · exact keys (link, q) (mem_of_find? found)
    refine ⟨canonical, ?_⟩
    rw [canonical]
    exact leads
  · rintro ⟨canonical, leads⟩
    rwa [canonical] at leads

theorem listed_of_dangling {n : String} {p : Page} (member : (n, p) ∈ d.pages) {c : Choice}
    (chosen : c ∈ p.choices) (dangling : ¬ d.Leads c.link) :
    ∃ ls, (n, ls) ∈ d.analyze.unresolvedLinks ∧ c.link ∈ ls := by
  have kept : c.link ∈ ((p.choices.map (·.link)).filter fun l => !d.resolves l).eraseDups := by
    simpa [List.mem_eraseDups, resolves_eq_false_iff] using ⟨⟨c, chosen, rfl⟩, dangling⟩
  refine ⟨_, ?_, kept⟩
  rw [analyze_unresolvedLinks, unresolvedLinks, List.mem_filterMap]
  refine ⟨(n, p), member, ?_⟩
  simp only
  split
  · next none => rw [none] at kept; cases kept
  · rfl

theorem find?_toString_of_findCodes? {cs : List Nat} {p : Page} (found : d.findCodes? cs = some p) :
    d.find? (Codes.toString cs) = some p := by
  unfold findCodes? at found
  split at found
  · exact found
  · cases found

theorem listed_iff_unresolved {n : String} {p : Page} (member : (n, p) ∈ d.pages) {c : Choice}
    (chosen : c ∈ p.choices) :
    (∃ ls, (n, ls) ∈ d.analyze.unresolvedLinks ∧ c.link ∈ ls) ↔ d.resolves c.link = false := by
  rw [resolves_eq_false_iff]
  constructor
  · rintro ⟨ls, listed, kept⟩
    obtain ⟨q, -, -, -, links⟩ := mem_unresolvedLinks listed
    obtain ⟨c', -, -, dangling⟩ := (links c.link).1 kept
    exact dangling
  · exact listed_of_dangling member chosen

end Document

namespace Session

variable {s : Session}

theorem enter_page (s : Session) (link : String) :
    (if s.enterLogic then (s.goto (Codes.ofString link)).applyPage none
      else s.goto (Codes.ofString link)).progress.page = Codes.ofString (canonicalName link) := by
  rw [← Codes.canonical_ofString]
  split
  · exact (varsOnly_applyPage _ none).page
  · rfl

theorem choose_shown {p : Page} (page : s.currentPage? = some p) {c : Choice}
    (chosen : c ∈ p.choices) (visible : s.isVisible c = true) :
    (s.choose (.choice c)).1 = true ∧
      (s.choose (.choice c)).2.progress.page = Codes.ofString (canonicalName c.link) := by
  have resolved : s.resolve (.choice c) = some c :=
    (resolve_eq_some s _ c).2 ⟨p, page, rfl, chosen⟩
  rw [choose_of_visible resolved visible]
  exact ⟨rfl, enter_page s c.link⟩

/-- The session, when it is on a declared page, is on one reachable from the entry. -/
def InReach (s : Session) : Prop :=
  ∀ q, s.doc.findCodes? s.progress.page = some q →
    Gamebook.Reachable s.doc (Codes.toString s.progress.page)

theorem InReach.perform (links : ∀ e ∈ s.doc.pages, ∀ c ∈ e.2.choices, canonicalName c.link = c.link)
    (inReach : s.InReach) {c : Call} (play : c.isPlay = true) : (s.perform c).InReach := by
  unfold InReach at inReach ⊢
  rw [(perform_doc s c).1]
  rcases perform_page s play with same | ⟨-, entered⟩ | ⟨p, ch, page, chosen, moved⟩
  · rw [same]
    exact inReach
  · rw [entered, Document.findCodes?_ofString, Codes.toString_ofString]
    exact fun q found => Reachable.entry q found
  · have found : s.doc.findCodes? s.progress.page = some p := page
    rw [moved, Document.findCodes?_ofString, Codes.toString_ofString,
      links _ (Document.mem_of_findCodes? found) ch chosen]
    exact fun q linked =>
      Reachable.step (inReach p found) (Document.find?_toString_of_findCodes? found) chosen linked

theorem InReach.performAll (links : ∀ e ∈ s.doc.pages, ∀ c ∈ e.2.choices, canonicalName c.link = c.link)
    (inReach : s.InReach) {calls : List Call} (play : ∀ c ∈ calls, c.isPlay = true) :
    (s.performAll calls).InReach := by
  induction calls generalizing s with
  | nil => exact inReach
  | cons c rest ih =>
    have doc := (perform_doc s c).1
    exact ih (doc ▸ links) (inReach.perform links (play c List.mem_cons_self))
      fun c' member => play c' (List.mem_cons_of_mem _ member)

theorem start_inReach {d : Document}
    (links : ∀ e ∈ d.pages, ∀ c ∈ e.2.choices, canonicalName c.link = c.link) (enterLogic : Bool) :
    (start d enterLogic).InReach :=
  InReach.perform (s := ⟨d, enterLogic, ⟨Codes.ofString d.entry, Vars.empty⟩⟩) (c := .reset) links
    (fun q found => by
      simp only [Document.findCodes?_ofString] at found
      rw [Codes.toString_ofString]
      exact Reachable.entry q found) rfl

end Session

namespace Document

/-- How the check, the inventory and play treat the link of a choice, on a story the story
constructor builds. The check counts the link as resolved exactly when it is canonical and its
canonical form is the end or a page; the inventory lists it exactly when the check does not count
it as resolved; a session on the page where the choice shows takes it to the canonical link. When
every link is canonical, every page that play from a new session is on is reachable from the
entry. -/
theorem resolved_links_meet_play {entry : String} {pages : List (String × Page)} {d : Document}
    (built : Document.build entry pages = .ok d) :
    (∀ n p, (n, p) ∈ d.pages → ∀ c ∈ p.choices,
      (d.resolves c.link = true ↔ canonicalName c.link = c.link ∧ d.Leads (canonicalName c.link)) ∧
      ((∃ ls, (n, ls) ∈ d.analyze.unresolvedLinks ∧ c.link ∈ ls) ↔ d.resolves c.link = false) ∧
      ∀ s : Session, s.currentPage? = some p → s.isVisible c = true →
        (s.choose (.choice c)).1 = true ∧
          (s.choose (.choice c)).2.progress.page = Codes.ofString (canonicalName c.link)) ∧
    ((∀ e ∈ d.pages, ∀ c ∈ e.2.choices, canonicalName c.link = c.link) →
      ∀ (enterLogic : Bool) (calls : List Call), (∀ c ∈ calls, c.isPlay = true) →
        ∀ q, d.findCodes? ((Session.start d enterLogic).performAll calls).progress.page = some q →
          Codes.toString ((Session.start d enterLogic).performAll calls).progress.page ∈
            d.reachable) := by
  have keys := Document.build_keys built
  refine ⟨fun n p member c chosen => ⟨?_, listed_iff_unresolved member chosen,
    fun s page visible => Session.choose_shown page chosen visible⟩, ?_⟩
  · rw [resolves_iff]
    exact leads_iff_canonical keys c.link
  · intro links enterLogic calls play q found
    have doc : ((Session.start d enterLogic).performAll calls).doc = d :=
      (Session.performAll_doc _ calls).1.trans (Session.start_doc d enterLogic).1
    have started : (Session.start d enterLogic).doc = d := (Session.start_doc d enterLogic).1
    have inReach := Session.InReach.performAll (s := Session.start d enterLogic)
      (by rw [started]; exact links) (Session.start_inReach links enterLogic) play
    unfold Session.InReach at inReach
    rw [doc] at inReach
    exact (mem_reachable_iff _).2 (inReach q found)

end Document

/-- A page whose one way on is spelled `Next`. -/
def stairsPage : Page := { texts := ["Stairs."], choices := [{ link := "Next" }] }

/-- The page `next`, which ends the story. -/
def landingPage : Page := { texts := ["A landing."], choices := [{ link := "end" }] }

/-- The stairs story as the story constructor builds it. -/
def stairsDoc : Document := ⟨"stairs", [("stairs", stairsPage), ("next", landingPage)]⟩

theorem stairsDoc_built :
    Document.build "stairs" [("stairs", stairsPage), ("next", landingPage)] = .ok stairsDoc := by
  have names : canonicalName "stairs" = "stairs" ∧ canonicalName "next" = "next" := by
    decide +kernel
  simp [Document.build, Document.addPages, names, stairsDoc, Except.map]

/-- On the stairs story the check and the inventory treat its link `Next` as every built story
treats its links. -/
theorem stairs_link_meets_play :
    Document.build "stairs" [("stairs", stairsPage), ("next", landingPage)] = .ok stairsDoc ∧
      (stairsDoc.resolves "Next" = true ↔
        canonicalName "Next" = "Next" ∧ stairsDoc.Leads (canonicalName "Next")) ∧
      ((∃ ls, ("stairs", ls) ∈ stairsDoc.analyze.unresolvedLinks ∧ "Next" ∈ ls) ↔
        stairsDoc.resolves "Next" = false) :=
  have laws := (Document.resolved_links_meet_play stairsDoc_built).1 "stairs" stairsPage
    (by simp [stairsDoc]) ⟨"Next", none, none⟩ (by simp [stairsPage])
  ⟨stairsDoc_built, laws.1, laws.2.1⟩

/-- The link `Next` counts as unresolved, yet play follows it to the page `next`, which is not
among the reachable pages. -/
theorem capital_link_followed_yet_unresolved :
    Document.build "stairs" [("stairs", stairsPage), ("next", landingPage)] = .ok stairsDoc ∧
      stairsDoc.resolves "Next" = false ∧
      ((Session.start stairsDoc true).choose (.index 0)).1 = true ∧
      ((Session.start stairsDoc true).choose (.index 0)).2.progress.page = Codes.ofString "next" ∧
      stairsDoc.declares "next" = true ∧ "next" ∉ stairsDoc.reachable := by
  have lowered : canonicalName "Next" = "next" := by decide +kernel
  refine ⟨stairsDoc_built, by decide, by decide, ?_, by decide, ?_⟩
  · simp [Session.start, Session.reset, Session.choose, Session.resolve, Session.currentPage?,
      Session.isVisible, Session.applyPage, Session.goto, stairsDoc, stairsPage, landingPage,
      Document.find?, Document.findCodes?_ofString, Codes.canonical_ofString, List.lookup, lowered]
  · simp [Document.reachable, Document.visit, stairsDoc, stairsPage, landingPage, Document.find?,
      List.lookup]

end Gamebook
