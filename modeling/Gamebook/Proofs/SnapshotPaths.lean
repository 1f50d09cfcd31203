import Mathlib
import Gamebook.Proofs.SavedProgress
/- The ways back from a progress that need not be in canonical form: through its data, through its
   JSON text and through its YAML text. All of them set the variables one after another and keep,
   under each canonical name, the last non-zero value of a name of that form; but the data keeps
   the variables in the progress's own order, while both writers sort them by name. So the data,
   installing the progress and installing its data give one progress, the JSON text, loading it
   and the YAML text of a library that keeps snapshots give another, and the two agree exactly
   when the last values under each canonical name agree in the two orders, as they do when no two
   non-zero names have one canonical form. Main statement: `Progress.snapshot_paths`. -/

namespace Gamebook

namespace Vars

theorem length_filterMap_le_one {l : List (Name × Int)}
    (unique : ((l.filter (·.2 != 0)).map (·.1.canonical)).Nodup) (k : Name) :
    (l.filterMap fun e => if e.1.canonical = k ∧ e.2 ≠ 0 then some e.2 else none).length ≤ 1 := by
  induction l with
  | nil => simp
  | cons e rest ih =>
    by_cases zero : e.2 = 0
    · -- a zero gives nothing, and leaves the non-zero names as they were
      rw [List.filterMap_cons_none (by simp [zero])]
      exact ih (by simpa [zero] using unique)
    · have nonzero : (e.2 != 0) = true := by simpa using zero
      rw [List.filter_cons_of_pos (p := fun x : Name × Int => x.2 != 0) nonzero, List.map_cons,
        List.nodup_cons] at unique
      by_cases here : e.1.canonical = k
      · -- the first variable gives the value, so no later one has its canonical name
        have none : ∀ e' ∈ rest, ¬ (e'.1.canonical = k ∧ e'.2 ≠ 0) := by
          rintro e' member ⟨same, nonzero'⟩
          exact unique.1 (List.mem_map.2 ⟨e', List.mem_filter.2 ⟨member, by simpa using nonzero'⟩,
            same.trans here.symm⟩)
        rw [List.filterMap_cons_some (b := e.2) (by simp [here, zero]), List.filterMap_eq_nil_iff.2
          fun e' member => by simp [none e' member]]
        simp
      · rw [List.filterMap_cons_none (by simp [here])]
        exact ih unique.2

theorem lastUnder_perm {l l' : List (Name × Int)} (perm : l.Perm l')
    (unique : ((l.filter (·.2 != 0)).map (·.1.canonical)).Nodup) (k : Name) :
    lastUnder l k = lastUnder l' k := by
  unfold lastUnder
  have values := perm.filterMap fun e => if e.1.canonical = k ∧ e.2 ≠ 0 then some e.2 else none
  have short := length_filterMap_le_one unique k
  generalize l.filterMap (fun e => if e.1.canonical = k ∧ e.2 ≠ 0 then some e.2 else none) = m
    at values short
  generalize l'.filterMap (fun e => if e.1.canonical = k ∧ e.2 ≠ 0 then some e.2 else none) = m'
    at values
  match m, values, short with
  | [], values, _ => rw [List.nil_perm.1 values]
  | [x], values, _ => rw [← List.singleton_perm.1 values]
  | _ :: _ :: _, _, short => simp at short

theorem lastUnder_filter_nonzero (l : List (Name × Int)) (k : Name) :
    lastUnder (l.filter (·.2 != 0)) k = lastUnder l k := by
  rw [← lookup_ofList, ofList_filter_nonzero, lookup_ofList]

end Vars

namespace Progress

theorem installProgress_eq_data (s : Session) (p : Progress) :
    s.installProgress p = ({ s with progress := ⟨Codes.canonical p.page, Vars.ofList p.vars.toList⟩ },
      if Codes.canonical p.page ≠ Codes.ofString endName ∧
          s.doc.findCodes? (Codes.canonical p.page) = none then
        [unknownPageWarning (Codes.canonical p.page)] else []) :=
  Session.installed_eq s _ _

theorem installData_toData (s : Session) (p : Progress) :
    s.installData p.toData = .ok ({ s with progress := ⟨Codes.canonical p.page, Vars.ofList p.vars.toList⟩ },
      if Codes.canonical p.page ≠ Codes.ofString endName ∧
          s.doc.findCodes? (Codes.canonical p.page) = none then
        [unknownPageWarning (Codes.canonical p.page)] else []) := by
  obtain ⟨entries, vars, page, data, isMap, found, all, read⟩ := ofData_eq_ok_iff.1 (ofData_toData p)
  simp only [Progress.mk.injEq] at read
  rw [Session.installData_eq_ok_iff]
  exact ⟨entries, vars, page, data, isMap, found, all, by rw [read.1, read.2], by rw [read.1]⟩

/-- A progress given with text names, in canonical form or not, comes back through its data as one
progress and through its JSON text as another. The first has the canonical form of the page and,
under each canonical name, the last non-zero value of a name of that form in the progress's own
order; installing the progress, and installing its data, install it. The JSON writer refuses the
progress exactly when a value is past the digit limit; otherwise, when the page and the names are
plain text, its text reads back as the second, which is the same but with the variables taken in
the order of their names, and loading the text installs it, as does the YAML text of a library
that keeps snapshots. All the installs warn alike. The two are the same exactly when the last
values under each canonical name agree in the two orders, as they do when no two non-zero names
have one canonical form. -/
theorem snapshot_paths (p : Progress) (text : ∀ e ∈ p.vars.toList, ∃ cs, e.1 = .text cs)
    (s : Session) {room : Nat} (writeRoom : jsonWritingCalls + 2 ≤ room)
    (readRoom : jsonReadingCalls + 3 ≤ room) :
    let byData : Progress := ⟨Codes.canonical p.page, Vars.ofList p.vars.toList⟩
    let byText : Progress := ⟨Codes.canonical p.page, Vars.ofList (byName p.written)⟩
    let warnings := if Codes.canonical p.page ≠ Codes.ofString endName ∧
        s.doc.findCodes? (Codes.canonical p.page) = none then
      [unknownPageWarning (Codes.canonical p.page)] else []
    ofData p.toData = .ok byData ∧
      s.installProgress p = ({ s with progress := byData }, warnings) ∧
      s.installData p.toData = .ok ({ s with progress := byData }, warnings) ∧
      (p.snapshot.toJsonText room = .ok p.toJsonText ↔ p.Fits) ∧
      (¬ p.Fits → p.snapshot.toJsonText room = .error .numberTooLong) ∧
      (p.PlainNames → p.Fits → ofJsonText room p.toJsonText = .ok byText ∧
        s.load room p.toJsonText = .ok ({ s with progress := byText }, warnings)) ∧
      (∀ (lib : YamlLibrary) (r : Nat), lib.KeepsSnapshots r → p.PlainNames → p.Fits →
        p.snapshot.toYamlText lib (r + yamlWritingCalls) = .ok (lib.dump p.toData) ∧
          ofYaml lib (r + 1) (Codes.ofString (lib.dump p.toData)) = .ok byText) ∧
      (byText.Same byData ↔ ∀ k, Vars.lastUnder (byName p.written) k = Vars.lastUnder p.vars.toList k) ∧
      ((p.written.map (·.1.canonical)).Nodup → byText.Same byData) := by
  intro byData byText warnings
  have agree : byText.Same byData ↔
      ∀ k, Vars.lastUnder (byName p.written) k = Vars.lastUnder p.vars.toList k := by
    rw [← Vars.same_ofList_iff]
    show _ ∧ _ ↔ _
    exact and_iff_right rfl
  have written := snapshot_toJsonText_iff_fits text writeRoom
  refine ⟨ofData_toData p, installProgress_eq_data s p, installData_toData s p, written.1, written.2,
    fun plain fits => ⟨ofJsonText_toJsonText plain fits (by omega), load_toJsonText s plain fits readRoom⟩,
    fun lib r keeps plain fits => ⟨snapshot_toYamlText keeps plain fits, ofYaml_dump keeps plain fits⟩,
    agree, fun unique => agree.2 fun k => ?_⟩
  -- with no two non-zero names of one canonical form, the order of the variables does not matter
  have nonzeros : p.written.filter (·.2 != 0) = p.written :=
    List.filter_eq_self.2 fun e member => (List.mem_filter.1 member).2
  rw [← Vars.lastUnder_perm (byName_perm p.written).symm (by rwa [nonzeros]) k,
    show p.written = p.vars.toList.filter (·.2 != 0) from rfl, Vars.lastUnder_filter_nonzero]

/-- A progress with two names of one canonical form, set in the order `b`, then `B`. -/
def collidingProgress : Progress :=
  ⟨Codes.ofString "a", Vars.empty.put (.ofString "b") 1 |>.put (.ofString "B") 2⟩

theorem colliding_listed : collidingProgress.vars.toList = [(.ofString "b", 1), (.ofString "B", 2)] := by
  decide +kernel

theorem colliding_byName : byName collidingProgress.written = [(.ofString "B", 2), (.ofString "b", 1)] := by
  have written : collidingProgress.written = [(.ofString "b", 1), (.ofString "B", 2)] := by
    decide +kernel
  rw [written]
  exact byName_eq_of_sorted (List.Perm.swap _ _ []) (by decide +kernel)

theorem colliding_plainNames : collidingProgress.PlainNames :=
  plainNames_of_strings rfl fun e member => by
    rw [colliding_listed] at member
    rcases List.mem_pair.1 member with rfl | rfl
    exacts [⟨"b", rfl⟩, ⟨"B", rfl⟩]

theorem colliding_snapshot_paths :
    ∃ byData byText : Progress,
      Session.emptySession.installData collidingProgress.toData =
        .ok ({ Session.emptySession with progress := byData }, [unknownPageWarning (Codes.ofString "a")]) ∧
      Session.emptySession.load 995 collidingProgress.toJsonText =
        .ok ({ Session.emptySession with progress := byText }, [unknownPageWarning (Codes.ofString "a")]) ∧
      ¬ byText.Same byData := by
  have plain := colliding_plainNames
  have fits : collidingProgress.Fits := by decide +kernel
  have unknown : (Codes.canonical collidingProgress.page ≠ Codes.ofString endName ∧
      Session.emptySession.doc.findCodes? (Codes.canonical collidingProgress.page) = none) := by
    decide +kernel
  have page : Codes.canonical collidingProgress.page = Codes.ofString "a" := by decide +kernel
  obtain ⟨-, -, installs, -, -, json, -, agree, -⟩ := snapshot_paths collidingProgress plain.text
    Session.emptySession (by decide : jsonWritingCalls + 2 ≤ 995) (by decide : jsonReadingCalls + 3 ≤ 995)
  -- `B` sorts before `b`, so the text keeps `b = 1` and the data `b = 2`
  have differ : ¬ ∀ k, Vars.lastUnder (byName collidingProgress.written) k =
      Vars.lastUnder collidingProgress.vars.toList k := fun same => by
    have atB := same (.ofString "b")
    rw [colliding_byName] at atB
    revert atB
    decide +kernel
  rw [if_pos unknown, page] at installs json
  rw [page] at agree
  exact ⟨_, _, installs, (json plain fits).2, mt agree.1 differ⟩

/-- The names `b` and `B` of the colliding progress: its data reads as `b = 2`, the later of the
two in its own order, and its JSON text as `b = 1`, the later of the two by name. -/
theorem colliding_names_part_paths :
    (ofData collidingProgress.toData).toOption.map (·.vars.get (.ofString "b")) = some 2 ∧
      (ofJsonText 995 collidingProgress.toJsonText).toOption.map (·.vars.get (.ofString "b")) =
        some 1 := by
  have fits : collidingProgress.Fits := by decide +kernel
  rw [ofData_toData, ofJsonText_toJsonText colliding_plainNames fits (by decide), colliding_byName]
  decide +kernel

end Progress

end Gamebook
