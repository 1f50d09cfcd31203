import Mathlib
import Gamebook.Play.Call
import Gamebook.Proofs.JsonReading
import Gamebook.Proofs.SnapshotReading
/- Installing progress. Installing fields or data succeeds exactly when the variables are a map
   of variables a store can take and the page is text, and then holds the page's canonical form
   and the store those variables give. Loading JSON text installs what installing the data it
   reads as installs: both refuse the same texts, each only with an error of progress, and
   otherwise both give the same session and warnings. A refused call leaves the session as it
   was, however far through the variables the refusal comes. Main statements:
   `Session.load_installs_as_data`, `Session.refused_calls_keep_session`. -/

namespace Gamebook

namespace Session

theorem warnings_eq (d : Document) (page : List Nat) :
    (if (page != Codes.ofString endName && (d.findCodes? page).isNone) = true then
        [unknownPageWarning page] else []) =
      if page ≠ Codes.ofString endName ∧ d.findCodes? page = none then
        [unknownPageWarning page] else [] := by
  simp

theorem installed_eq (s : Session) (page : List Nat) (vars : Vars) :
    s.installed page vars = ({ s with progress := ⟨page, vars⟩ },
      if page ≠ Codes.ofString endName ∧ s.doc.findCodes? page = none then
        [unknownPageWarning page] else []) := by
  rw [installed, warnings_eq]

theorem installVar_of_storable (acc : Vars) {e : Value × Value} (storable : Vars.Storable e) :
    installVar acc e.1 e.2 = .ok (acc.take e) := by
  obtain ⟨k, x⟩ := e
  obtain ⟨n, valued, zero | named⟩ := storable
  · simp only at valued zero
    subst zero
    cases named : k.name? <;> simp [installVar, Vars.take, valued, named]
  · simp only at valued named
    obtain ⟨name, found⟩ := Option.isSome_iff_exists.1 named
    by_cases zero : n = 0
    · subst zero
      simp [installVar, Vars.take, valued, found]
    · simp [installVar, Vars.take, valued, found, zero]

theorem installVar_of_unstorable (acc : Vars) {e : Value × Value} (unstorable : ¬ Vars.Storable e) :
    ∃ err, installVar acc e.1 e.2 = .error err := by
  obtain ⟨k, x⟩ := e
  unfold installVar
  split
  · exact ⟨_, rfl⟩
  · next zero => exact absurd ⟨0, zero, .inl rfl⟩ unstorable
  · next m nonzero same =>
    cases named : k.name? with
    | some name => exact absurd ⟨m, same, .inr (by simp [named])⟩ unstorable
    | none => exact ⟨_, rfl⟩

theorem install_eq_ok_iff {s t : Session} {page? vars? : Option Value} {w : List String} :
    s.install page? vars? = .ok (t, w) ↔
      ∃ vars page, vars? = some (.map vars) ∧ page?.bind Value.codes? = some page ∧
        (∀ e ∈ vars, Vars.Storable e) ∧
        t = { s with progress := ⟨Codes.canonical page, vars.foldl Vars.take Vars.empty⟩ } ∧
        w = if Codes.canonical page ≠ Codes.ofString endName ∧
            s.doc.findCodes? (Codes.canonical page) = none then
          [unknownPageWarning (Codes.canonical page)] else [] := by
  unfold install
  cases found : page?.bind Value.codes? with
  | none =>
    dsimp only
    constructor
    · intro h
      split at h <;> cases h
    · rintro ⟨vars', page', -, found', -⟩
      cases found'
  | some page =>
    dsimp only
    split
    · next _ vars =>
      simp only [pure_bind]
      rw [bind_eq_ok_iff]
      refine (exists_foldlM_eq_ok_and (g := Vars.take) (P := Vars.Storable)
        (fun acc e storable => installVar_of_storable acc storable)
        (fun acc e unstorable => installVar_of_unstorable acc unstorable) _ _ _).trans ?_
      simp only [pure, Except.pure, Except.ok.injEq, installed_eq, Prod.mk.injEq]
      constructor
      · rintro ⟨all, rfl, rfl⟩
        exact ⟨vars, page, rfl, rfl, all, rfl, rfl⟩
      · rintro ⟨vars', page', same, found', all, rfl, rfl⟩
        cases same
        cases found'
        exact ⟨all, rfl, rfl⟩
    · next notMap =>
      constructor
      · rintro ⟨⟩
      · rintro ⟨vars, page', isMap, -⟩
        exact absurd isMap (notMap vars)

theorem installData_eq_ok_iff {s t : Session} {v : Value} {w : List String} :
    s.installData v = .ok (t, w) ↔
      ∃ entries vars page, v = .map entries ∧ Value.lookup entries "vars" = some (.map vars) ∧
        (snapshotPage? entries).bind Value.codes? = some page ∧ (∀ e ∈ vars, Vars.Storable e) ∧
        t = { s with progress := ⟨Codes.canonical page, vars.foldl Vars.take Vars.empty⟩ } ∧
        w = if Codes.canonical page ≠ Codes.ofString endName ∧
            s.doc.findCodes? (Codes.canonical page) = none then
          [unknownPageWarning (Codes.canonical page)] else [] := by
  unfold installData
  split
  · next entries => simp [install_eq_ok_iff]
  · next notMap =>
    simp only [reduceCtorEq, false_iff, not_exists, not_and]
    exact fun entries _ _ isMap => absurd isMap (notMap entries)

theorem install_error_kind {s : Session} {page? vars? : Option Value}
    (keys : ∀ vars, vars? = some (.map vars) → ∀ e ∈ vars,
      e.1.name?.isSome ∧ e.1.intsFit = true ∧ e.2.intsFit = true) {err : PlayError}
    (refused : s.install page? vars? = .error err) : err.kind = "ProgressError" := by
  revert refused
  unfold install
  cases found : page?.bind Value.codes? with
  | none =>
    dsimp only
    split <;> (intro refused; cases refused; rfl)
  | some page =>
    dsimp only
    split
    · next vars =>
      simp only [bind, Except.bind, pure, Except.pure]
      intro refused
      split at refused
      · next _ failed =>
        cases refused
        -- the fold fails at some variable: its value is no integer, and its message can be
        -- written, since its name is text or bytes and its integers are short
        obtain ⟨⟨k, x⟩, member, acc, step⟩ := exists_of_foldlM_eq_error failed
        obtain ⟨named, keyFits, valueFits⟩ := keys vars rfl _ member
        simp only at step
        unfold installVar at step
        split at step
        · cases step
          simp [badVarError, keyFits, valueFits, PlayError.kind]
        · cases step
        · split at step
          · cases step
          · next unnamed => simp [unnamed] at named
      · cases refused
    · intro refused
      cases refused
      rfl

theorem installData_error_kind {s : Session} {v : Value} (decoded : v.Decoded) {err : PlayError}
    (refused : s.installData v = .error err) : err.kind = "ProgressError" := by
  unfold installData at refused
  split at refused
  · refine install_error_kind (fun vars found e member => ?_) refused
    have decodedVars := decoded.lookup found
    have text := decodedVars.keys e member
    refine ⟨Value.name?_isSome text, Value.intsFit_of_codes? text, ?_⟩
    · cases decodedVars with
      | text isText => cases isText
      | map _ values => exact (values e member).intsFit
  · cases refused
    rfl

theorem load_error_kind {s : Session} {room : Nat} {j : String} {v : Value}
    (decodes : Json.read (room - 1 - Progress.jsonReadingCalls) j = .ok v) {err : PlayError}
    (refused : s.load room j = .error err) : err.kind = "ProgressError" := by
  have decoded := Json.decoded_of_read decodes
  simp only [load, Progress.ofJsonText, decodes] at refused
  cases data : Progress.ofData v with
  | ok p => simp [data] at refused
  | error e =>
    simp only [data, Except.error.injEq] at refused
    subst refused
    refine Progress.ofData_error_kind (fun entries vars isMap found e member => ?_) data
    subst isMap
    exact Value.name?_isSome ((decoded.lookup found).keys e member)

theorem installProgress_of_canonical (s : Session) {p : Progress} (canon : p.Canonical) :
    s.installProgress p = ({ s with progress := p },
      if p.page ≠ Codes.ofString endName ∧ s.doc.findCodes? p.page = none then
        [unknownPageWarning p.page] else []) := by
  rw [installProgress, Vars.ofList_toList canon.vars, canon.page, installed_eq]

/-- What installing data `v` on `s` gives, read off the data by hand: `v` is a map whose
page (under `currentPage`, else `current_page`) is text and whose variables (under `vars`) are a
map of variables a store can all take; the session `t` keeps the story and holds the page's
canonical form and a valid store that reads, under each name, the value of the last variable that
gives it one; and the warnings `w` name a page that is neither the end nor declared. -/
def Installs (s : Session) (v : Value) (t : Session) (w : List String) : Prop :=
  ∃ entries vars page, v = .map entries ∧ Value.lookup entries "vars" = some (.map vars) ∧
    (snapshotPage? entries).bind Value.codes? = some page ∧ (∀ e ∈ vars, Vars.Storable e) ∧
    t.doc = s.doc ∧ t.enterLogic = s.enterLogic ∧ t.progress.page = Codes.canonical page ∧
    t.progress.vars.Valid ∧
    (∀ k, t.progress.vars.toList.lookup k = (vars.filterMap (Vars.valueFor k)).getLast?) ∧
    w = if Codes.canonical page ≠ Codes.ofString endName ∧
        s.doc.findCodes? (Codes.canonical page) = none then
      [unknownPageWarning (Codes.canonical page)] else []

theorem installs_of_installData {s t : Session} {v : Value} {w : List String}
    (installed : s.installData v = .ok (t, w)) : s.Installs v t w := by
  obtain ⟨entries, vars, page, rfl, isMap, found, all, rfl, rfl⟩ :=
    installData_eq_ok_iff.1 installed
  exact ⟨entries, vars, page, rfl, isMap, found, all, rfl, rfl, rfl, Vars.valid_foldl_take vars,
    Vars.lookup_foldl_take vars, rfl⟩

theorem installData_of_installs {s t : Session} {v : Value} {w : List String}
    (installs : s.Installs v t w) :
    ∃ t', s.installData v = .ok (t', w) ∧ t'.doc = t.doc ∧ t'.enterLogic = t.enterLogic ∧
      t'.progress.Same t.progress := by
  obtain ⟨entries, vars, page, rfl, isMap, found, all, doc, enter, named, valid, reads, rfl⟩ :=
    installs
  refine ⟨_, installData_eq_ok_iff.2 ⟨entries, vars, page, rfl, isMap, found, all, rfl, rfl⟩,
    doc.symm, enter.symm, named.symm, ?_⟩
  refine (Vars.same_iff_lookup _ _).2 fun k => ?_
  rw [Vars.lookup_foldl_take, reads k]

/-- Loading progress from JSON text installs what installing the data it reads as installs: the
two refuse the same texts, each only with an error of progress, and otherwise give the same
session and warnings, which hold the canonical form of the page (under `currentPage`, else
`current_page`) and, under each name, the value of the last variable that gives it one, and warn
of a page that is neither the end nor declared; and a session so described is installed, up to
the order of its variables. -/
theorem load_installs_as_data (s : Session) (room : Nat) (j : String) (v : Value)
    (decodes : Json.read (room - 1 - Progress.jsonReadingCalls) j = .ok v) :
    (s.load room j).toOption = (s.installData v).toOption ∧
      (∀ e, s.load room j = .error e → e.kind = "ProgressError") ∧
      (∀ e, s.installData v = .error e → e.kind = "ProgressError") ∧
      (∀ t w, s.installData v = .ok (t, w) → s.Installs v t w) ∧
      ∀ t w, s.Installs v t w → ∃ t', s.installData v = .ok (t', w) ∧ t'.doc = t.doc ∧
        t'.enterLogic = t.enterLogic ∧ t'.progress.Same t.progress := by
  have read : Progress.ofJsonText (room - 1) j = Progress.ofData v := by
    simp [Progress.ofJsonText, decodes]
  refine ⟨?_, fun e => load_error_kind decodes, fun e => installData_error_kind
    (Json.decoded_of_read decodes), fun t w => installs_of_installData,
    fun t w => installData_of_installs⟩
  unfold load
  rw [read]
  cases data : Progress.ofData v with
  | ok p =>
    obtain ⟨entries, vars, page, rfl, isMap, found, all, rfl⟩ := Progress.ofData_eq_ok_iff.1 data
    have canon : Progress.Canonical ⟨Codes.canonical page, vars.foldl Vars.take Vars.empty⟩ :=
      ⟨Vars.valid_foldl_take vars, Codes.canonical_canonical page⟩
    rw [installData_eq_ok_iff.2 ⟨entries, vars, page, rfl, isMap, found, all, rfl, rfl⟩]
    simp only [installProgress_of_canonical s canon]
  | error e =>
    cases installing : s.installData v with
    | error e' => rfl
    | ok r =>
      obtain ⟨entries, vars, page, rfl, isMap, found, all, -, -⟩ :=
        installData_eq_ok_iff.1 installing
      rw [Progress.ofData_eq_ok_iff.2 ⟨entries, vars, page, rfl, isMap, found, all, rfl⟩] at data
      cases data

/-- A snapshot of the hall, in JSON text: two names for one variable, a zero, and a key. -/
def hallText : String :=
  "\x7b\"currentPage\": \"hall\", \"vars\": \x7b\"Gold\": 3, \"gold\": 4, \"torch\": 0, \"keys\": 1\x7d\x7d"

/-- The data the hall snapshot reads as. -/
def hallData : Value :=
  .map [(.str "currentPage", .str "hall"),
    (.str "vars", .map [(.str "Gold", .int 3), (.str "gold", .int 4), (.str "torch", .int 0),
      (.str "keys", .int 1)])]

theorem hall_snapshot_loads_as_data :
    Json.read (100 - 1 - Progress.jsonReadingCalls) hallText = .ok hallData ∧
      (emptySession.load 100 hallText).toOption = (emptySession.installData hallData).toOption ∧
      (∀ e, emptySession.load 100 hallText = .error e → e.kind = "ProgressError") ∧
      (∀ e, emptySession.installData hallData = .error e → e.kind = "ProgressError") ∧
      (∀ t w, emptySession.installData hallData = .ok (t, w) → emptySession.Installs hallData t w) ∧
      ∀ t w, emptySession.Installs hallData t w → ∃ t', emptySession.installData hallData = .ok (t', w) ∧
        t'.doc = t.doc ∧ t'.enterLogic = t.enterLogic ∧ t'.progress.Same t.progress := by
  have decodes : Json.read (100 - 1 - Progress.jsonReadingCalls) hallText = .ok hallData := by
    -- the text's characters are spelled out once, so that reading does not decode them again
    have chars : hallText.toList.toArray =
      #['\x7b', '"', 'c', 'u', 'r', 'r', 'e', 'n', 't', 'P', 'a', 'g', 'e', '"', ':', ' ',
      '"', 'h', 'a', 'l', 'l', '"', ',', ' ', '"', 'v', 'a', 'r', 's', '"', ':', ' ',
      '\x7b', '"', 'G', 'o', 'l', 'd', '"', ':', ' ', '3', ',', ' ', '"', 'g', 'o',
      'l', 'd', '"', ':', ' ', '4', ',', ' ', '"', 't', 'o', 'r', 'c', 'h', '"', ':',
      ' ', '0', ',', ' ', '"', 'k', 'e', 'y', 's', '"', ':', ' ', '1', '\x7d',
      '\x7d'] := by cbv
    simp only [Json.read, chars]
    cbv
  exact ⟨decodes, load_installs_as_data emptySession 100 hallText hallData decodes⟩

/-- Two lone surrogates name two variables. -/
example : (emptySession.installData (.map [(.str "currentPage", .str "hall"),
    (.str "vars", .map [(.codes [0xD800], .int 1), (.codes [0xDC00], .int 2)])])).toOption.map
      (fun r => r.1.progress.vars.toList) = some [(.text [0xD800], 1), (.text [0xDC00], 2)] := by
  decide +kernel

/-- Fields of a progress that installing refuses: no variable map, a page that is not text, or a
variable, wherever it stands, whose value is not an integer. -/
inductive RefusedFields : Option Value → Option Value → Prop
  | noVars {page vars : Option Value} : (∀ entries, vars ≠ some (.map entries)) →
      RefusedFields page vars
  | noPage {page vars : Option Value} : page.bind Value.codes? = none → RefusedFields page vars
  | notInteger {page : Option Value} {vars : List (Value × Value)} {e : Value × Value} :
      e ∈ vars → e.2.asVarValue? = none → RefusedFields page (some (.map vars))

theorem install_of_refused {s : Session} {page vars : Option Value}
    (refused : RefusedFields page vars) : ∃ e, s.install page vars = .error e := by
  cases installing : s.install page vars with
  | error e => exact ⟨e, rfl⟩
  | ok r =>
    obtain ⟨vars', page', isMap, found, all, -, -⟩ := install_eq_ok_iff.1 installing
    cases refused with
    | noVars notMap => exact absurd isMap (notMap vars')
    | noPage missing =>
      rw [missing] at found
      cases found
    | notInteger member notInteger =>
      cases isMap
      obtain ⟨n, valued, -⟩ := all _ member
      rw [notInteger] at valued
      cases valued

theorem installData_of_refused {s : Session} {v : Value}
    (refused : (∀ entries, v ≠ .map entries) ∨
      ∃ entries, v = .map entries ∧
        RefusedFields (snapshotPage? entries) (Value.lookup entries "vars")) :
    ∃ e, s.installData v = .error e := by
  rcases refused with notMap | ⟨entries, rfl, fields⟩
  · cases v
    all_goals first
      | exact ⟨_, rfl⟩
      | exact absurd rfl (notMap _)
  · exact install_of_refused fields

theorem load_of_refused {s : Session} {room : Nat} {j : String}
    (refused : (∃ e, Json.read (room - 1 - Progress.jsonReadingCalls) j = .error e) ∨
      ∃ v e, Json.read (room - 1 - Progress.jsonReadingCalls) j = .ok v ∧
        Progress.ofData v = .error e) :
    ∃ e, s.load room j = .error e := by
  rcases refused with ⟨e, unreadable⟩ | ⟨v, e, decodes, notSnapshot⟩
  · -- text that is no JSON is an unreadable snapshot, or one nested too deep
    have unread : ∃ e', Progress.ofJsonText (room - 1) j = .error e' := by
      unfold Progress.ofJsonText
      rw [unreadable]
      split
      · next decoded => cases decoded
      · exact ⟨_, rfl⟩
      · exact ⟨_, rfl⟩
    obtain ⟨e', unread⟩ := unread
    simp [load, unread]
  · simp [load, Progress.ofJsonText, decodes, notSnapshot]

/-- A refused call leaves the session as it was: setting a variable to a value that is not an
integer; installing fields that are refused, or data that is no map or has refused fields; and
loading text that is no JSON or whose data is no snapshot. Each of these is refused. -/
theorem refused_calls_keep_session (s : Session) :
    (∀ name value, value.asVarValue? = none → s.perform (.setVar name value) = s) ∧
    (∀ page vars, RefusedFields page vars →
      (∃ e, s.install page vars = .error e) ∧ s.perform (.install page vars) = s) ∧
    (∀ v, ((∀ entries, v ≠ .map entries) ∨
        ∃ entries, v = .map entries ∧
          RefusedFields (snapshotPage? entries) (Value.lookup entries "vars")) →
      (∃ e, s.installData v = .error e) ∧ s.perform (.installData v) = s) ∧
    (∀ room j, ((∃ e, Json.read (room - 1 - Progress.jsonReadingCalls) j = .error e) ∨
        ∃ v e, Json.read (room - 1 - Progress.jsonReadingCalls) j = .ok v ∧
          Progress.ofData v = .error e) →
      (∃ e, s.load room j = .error e) ∧ s.perform (.load room j) = s) := by
  refine ⟨fun name value notInteger => by simp [perform, notInteger], fun page vars refused => ?_,
    fun v refused => ?_, fun room j refused => ?_⟩
  · obtain ⟨e, installing⟩ := install_of_refused (s := s) refused
    exact ⟨⟨e, installing⟩, by simp [perform, installing, after]⟩
  · obtain ⟨e, installing⟩ := installData_of_refused (s := s) refused
    exact ⟨⟨e, installing⟩, by simp [perform, installing, after]⟩
  · obtain ⟨e, loading⟩ := load_of_refused (s := s) refused
    exact ⟨⟨e, loading⟩, by simp [perform, loading, after]⟩

/-- Variables whose last one is a truth value, after two integers that a store would take. -/
def torchVars : List (Value × Value) :=
  [(.str "Gold", .int 3), (.str " keys ", .int 1), (.str "torch", .bool true)]

theorem late_truth_value_keeps_session :
    RefusedFields (some (.str "hall")) (some (.map torchVars)) ∧
      (∃ e, emptySession.install (some (.str "hall")) (some (.map torchVars)) = .error e) ∧
      emptySession.perform (.install (some (.str "hall")) (some (.map torchVars))) = emptySession := by
  have refused : RefusedFields (some (.str "hall")) (some (.map torchVars)) :=
    .notInteger (e := (.str "torch", .bool true))
      (List.mem_cons_of_mem _ (List.mem_cons_of_mem _ List.mem_cons_self)) rfl
  exact ⟨refused, (refused_calls_keep_session emptySession).2.1 _ _ refused⟩

end Session

end Gamebook
