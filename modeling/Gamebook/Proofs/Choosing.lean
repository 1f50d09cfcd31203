import Mathlib
import Gamebook.Proofs.CanonicalProgress
/- Taking a choice. A pick names a choice of the current page by its place, counted from 0, or by
   being equal to one of the page's choices; anything else names none. A named choice that shows
   is taken: the page becomes the canonical form of its link and, when entering runs logic, the
   readings of the variables go through the state logic of the page stored under that name, in
   order. Otherwise nothing changes. Picking by place agrees with the list of visible choices, and
   the automatic choice is choice 0. Main statement: `Session.choose_spec`. -/

namespace Gamebook

/-- The choice of a page that a pick names. -/
def Pick.Names (p : Page) : Pick → Choice → Prop
  | .index i, c => 0 ≤ i ∧ p.choices[i.toNat]? = some c
  | .choice c', c => c' = c ∧ c ∈ p.choices
  | .other, _ => False

/-- A choice shows under the readings `env`: it has no guard, or a comparing guard that holds. -/
def Choice.Shows (env : Name → Int) (c : Choice) : Prop :=
  c.guard = none ∨ ∃ g, c.guard = some g ∧ g.isGuard = true ∧ g.answer env = true

theorem Document.findCodes?_ofString (d : Document) (name : String) :
    d.findCodes? (Codes.ofString name) = d.find? name := by
  rw [Document.findCodes?, if_pos (Codes.ofString_isString name), Codes.toString_ofString]

namespace Session

theorem start_doc (d : Document) (enterLogic : Bool) :
    (start d enterLogic).doc = d ∧ (start d enterLogic).enterLogic = enterLogic :=
  perform_doc (⟨d, enterLogic, ⟨Codes.ofString d.entry, Vars.empty⟩⟩ : Session) .reset

theorem resolve_eq_some (s : Session) (pick : Pick) (c : Choice) :
    s.resolve pick = some c ↔ ∃ p, s.currentPage? = some p ∧ pick.Names p c := by
  unfold resolve
  cases page : s.currentPage? with
  | none => simp
  | some p =>
    cases pick with
    | index i => by_cases nonneg : 0 ≤ i <;> simp [nonneg, Pick.Names]
    | choice c' =>
      by_cases member : c' ∈ p.choices <;> simp [member, Pick.Names, eq_comm] <;> rintro rfl <;>
        exact member
    | other => simp [Pick.Names]

theorem isVisible_iff (s : Session) (c : Choice) : s.isVisible c = true ↔ c.Shows s.getVar := by
  unfold isVisible Choice.Shows
  cases guard : c.guard with
  | none => simp
  | some g =>
    by_cases changes : g.op.changes = true
    · simp [changes, Logic.isGuard]
    · simp [changes, Logic.isGuard, run_answer]

theorem choose_of_visible {s : Session} {pick : Pick} {c : Choice}
    (resolved : s.resolve pick = some c) (visible : s.isVisible c = true) :
    s.choose pick = (true, if s.enterLogic then (s.goto (Codes.ofString c.link)).applyPage none
      else s.goto (Codes.ofString c.link)) := by
  simp [choose, resolved, visible]

theorem choose_true_iff (s : Session) (pick : Pick) :
    (s.choose pick).1 = true ↔ ∃ c, s.resolve pick = some c ∧ s.isVisible c = true := by
  unfold choose
  split
  · next c resolved => by_cases visible : s.isVisible c = true <;> simp [visible, resolved]
  · next none => simp [none]

theorem choose_of_false {s : Session} {pick : Pick} (refused : (s.choose pick).1 = false) :
    (s.choose pick).2 = s := by
  cases resolved : s.resolve pick with
  | none => simp [choose, resolved]
  | some c =>
    by_cases visible : s.isVisible c = true
    · simp [choose, resolved, visible] at refused
    · simp [choose, resolved, visible]

theorem mem_visible (s : Session) (n : Nat) (c : Choice) :
    (n, c) ∈ s.visible ↔
      ∃ p, s.currentPage? = some p ∧ p.choices[n]? = some c ∧ s.isVisible c = true := by
  unfold visible
  cases page : s.currentPage? with
  | none => simp
  | some p =>
    simp only [List.mem_map, List.mem_filter, Prod.exists, Prod.mk.injEq, Option.some.injEq,
      exists_eq_left', List.mem_zipIdx_iff_getElem?]
    constructor
    · rintro ⟨c', n', ⟨found, visible⟩, rfl, rfl⟩
      exact ⟨found, visible⟩
    · rintro ⟨found, visible⟩
      exact ⟨c, n, ⟨found, visible⟩, rfl, rfl⟩

theorem goto_ofString_page (s : Session) (name : String) :
    (s.goto (Codes.ofString name)).progress.page = Codes.ofString (canonicalName name) := by
  rw [goto, Codes.canonical_ofString]

theorem enter_spec (s : Session) (link : String) :
    (if s.enterLogic then (s.goto (Codes.ofString link)).applyPage none
        else s.goto (Codes.ofString link)).progress.page = Codes.ofString (canonicalName link) ∧
      (if s.enterLogic then (s.goto (Codes.ofString link)).applyPage none
        else s.goto (Codes.ofString link)).getVar =
        if s.enterLogic then
          (((s.doc.find? (canonicalName link)).map Page.logics).getD []).foldl
            (fun env l => l.update env) s.getVar
        else s.getVar := by
  have moved := goto_ofString_page s link
  by_cases enter : s.enterLogic = true
  · simp only [enter, if_true]
    refine ⟨(varsOnly_applyPage _ none).page.trans moved, ?_⟩
    have entered : (none <|> (s.goto (Codes.ofString link)).currentPage?) =
        s.doc.find? (canonicalName link) := by
      show (s.goto (Codes.ofString link)).currentPage? = _
      rw [currentPage?, moved, Document.findCodes?_ofString]
      rfl
    unfold applyPage
    rw [entered]
    cases found : s.doc.find? (canonicalName link) with
    | none => rfl
    | some p => exact funext (getVar_foldl_run p.logics (s.goto (Codes.ofString link)))
  · simp only [enter, Bool.false_eq_true, if_false]
    exact ⟨moved, rfl⟩

theorem auto_fst (s : Session) : s.auto.1 = s.hasAuto := by
  unfold auto
  split
  · next auto =>
    rw [auto]
    unfold hasAuto at auto
    split at auto
    · next p page =>
      unfold Page.hasAutoChoice at auto
      split at auto
      · next c single =>
        have unguarded : c.guard = none := by
          simp only [Choice.isAuto, Bool.and_eq_true, Option.isNone_iff_eq_none] at auto
          exact auto.2
        rw [choose_true_iff]
        refine ⟨c, (resolve_eq_some s _ c).2 ⟨p, page, by simp [Pick.Names, single]⟩, ?_⟩
        exact (isVisible_iff s c).2 (.inl unguarded)
      · cases auto
    · cases auto
  · next none => simpa using none

/-- What taking a choice does in a session. -/
structure ChoiceLaws (s : Session) (pick : Pick) : Prop where
  taken_iff : (s.choose pick).1 = true ↔
    ∃ p c, s.doc.findCodes? s.progress.page = some p ∧ pick.Names p c ∧ c.Shows s.getVar
  /-- a taken choice moves to its canonical link and, when entering runs logic, runs the logic of
  the page stored under that name on the readings, in order -/
  on_taken : ∀ p c, s.doc.findCodes? s.progress.page = some p → pick.Names p c → c.Shows s.getVar →
    (s.choose pick).2.progress.page = Codes.ofString (canonicalName c.link) ∧
    (s.choose pick).2.getVar =
      if s.enterLogic then
        (((s.doc.find? (canonicalName c.link)).map Page.logics).getD []).foldl
          (fun env l => l.update env) s.getVar
      else s.getVar
  on_refused : (s.choose pick).1 = false → (s.choose pick).2 = s
  index_iff_visible : ∀ i : Int,
    (s.choose (.index i)).1 = true ↔ ∃ n : Nat, ∃ c, i = n ∧ (n, c) ∈ s.visible
  auto_answer : s.auto.1 = s.hasAuto
  auto_first : s.hasAuto = true → s.auto = s.choose (.index 0)

theorem choose_taken_iff (s : Session) (pick : Pick) :
    (s.choose pick).1 = true ↔
      ∃ p c, s.doc.findCodes? s.progress.page = some p ∧ pick.Names p c ∧ c.Shows s.getVar := by
  rw [choose_true_iff]
  constructor
  · rintro ⟨c, resolved, visible⟩
    obtain ⟨p, page, names⟩ := (resolve_eq_some s pick c).1 resolved
    exact ⟨p, c, page, names, (isVisible_iff s c).1 visible⟩
  · rintro ⟨p, c, page, names, shows⟩
    exact ⟨c, (resolve_eq_some s pick c).2 ⟨p, page, names⟩, (isVisible_iff s c).2 shows⟩

theorem choose_index_iff (s : Session) (i : Int) :
    (s.choose (.index i)).1 = true ↔ ∃ n : Nat, ∃ c, i = n ∧ (n, c) ∈ s.visible := by
  rw [choose_true_iff]
  constructor
  · rintro ⟨c, resolved, visible⟩
    obtain ⟨p, page, nonneg, found⟩ := (resolve_eq_some s _ c).1 resolved
    exact ⟨i.toNat, c, (Int.toNat_of_nonneg nonneg).symm,
      (mem_visible s _ c).2 ⟨p, page, found, visible⟩⟩
  · rintro ⟨n, c, rfl, member⟩
    obtain ⟨p, page, found, visible⟩ := (mem_visible s n c).1 member
    exact ⟨c, (resolve_eq_some s _ c).2 ⟨p, page, by simpa [Pick.Names] using found⟩, visible⟩

/-- In every session, taking a choice obeys the choice laws. -/
theorem choose_spec (s : Session) (pick : Pick) : ChoiceLaws s pick where
  taken_iff := choose_taken_iff s pick
  on_taken p c page names shows := by
    rw [choose_of_visible ((resolve_eq_some s pick c).2 ⟨p, page, names⟩)
      ((isVisible_iff s c).2 shows)]
    exact enter_spec s c.link
  on_refused := choose_of_false
  index_iff_visible := choose_index_iff s
  auto_answer := auto_fst s
  auto_first auto := by simp [Session.auto, auto]

end Session

end Gamebook
