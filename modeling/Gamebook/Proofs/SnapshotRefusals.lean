import Mathlib
import Gamebook.Play.SnapshotYaml
import Gamebook.Proofs.Installing
/- How reading a snapshot is refused. Reading data checks the data, its page, its variable map and
   every value, and refuses each with an error of progress; but it takes the canonical form of every
   name it stores without checking that the name is text or bytes, so a name of another kind under
   a non-zero integer is refused with an error of another kind. JSON text names every member of an object by a
   string, so reading a snapshot from JSON text is refused only with an error of progress, or for
   text nested deeper than reading goes. YAML text may name a variable by a number, a truth value
   or a null, and may hold a value that cannot be built; what the YAML library reads is left open.
   Main statement: `Progress.snapshot_refusals`. -/

namespace Gamebook

/-- Snapshot data with a variable under a key that names none: neither text nor bytes. -/
def Value.UnnamedVar (v : Value) : Prop :=
  ∃ entries vars, v = .map entries ∧ Value.lookup entries "vars" = some (.map vars) ∧
    ∃ x ∈ vars, x.1.name? = none

namespace Progress

theorem ofData_error_of_other_kind {v : Value} {e : SnapshotError} (refused : ofData v = .error e) :
    e.kind = "ProgressError" ∨ v.UnnamedVar := by
  by_cases named : v.UnnamedVar
  · exact .inr named
  · refine .inl (ofData_error_kind (fun entries vars isMap found x member => ?_) refused)
    rw [Option.isSome_iff_ne_none]
    exact fun unnamed => named ⟨entries, vars, isMap, found, x, member, unnamed⟩

theorem ofData_first_unnamed (page : String) {k : Value} (n : Int) (rest : List (Value × Value))
    (unnamed : k.name? = none) (nonzero : n ≠ 0) :
    ofData (.map [(.str "currentPage", .str page), (.str "vars", .map ((k, .int n) :: rest))]) =
      .error (.keyNotText k.className) := by
  have stops : addVars ⟨Codes.canonical (Codes.ofString page), Vars.empty⟩ ((k, .int n) :: rest) =
      .error (.keyNotText k.className) := by
    simp [addVars, Value.asVarValue?, unnamed]
  simp [ofData, snapshotPage?, Value.lookup, Value.sameKey, Value.codes?, stops]

theorem ofJsonText_error_kind {room : Nat} {t : String} {e : SnapshotError}
    (refused : ofJsonText room t = .error e) : e.kind = "ProgressError" ∨ e = .tooDeep := by
  unfold ofJsonText at refused
  split at refused
  · next v decodes =>
    have decoded := Json.decoded_of_read decodes
    exact .inl (ofData_error_kind (fun entries vars isMap found e member => by
      subst isMap
      exact Value.name?_isSome ((decoded.lookup found).keys e member)) refused)
  · cases refused
    exact .inr rfl
  · cases refused
    exact .inl rfl

theorem ofYaml_error_cases {lib : YamlLibrary} {room : Nat} {t : List Nat} {err : YamlSnapshotError}
    (refused : ofYaml lib room t = .error err) :
    (∃ e, err = .snapshot e ∧
      (e.kind = "ProgressError" ∨ ∃ v, lib.load (room - 1) t = .ok v ∧ v.UnnamedVar)) ∨
    ∃ e, err = .value e ∧ lib.load (room - 1) t = .error e ∧ e.isTextError = false := by
  unfold ofYaml at refused
  split at refused
  · next v loaded =>
    cases read : ofData v with
    | ok p => simp [read, Except.mapError] at refused
    | error e =>
      simp only [read, Except.mapError, Except.error.injEq] at refused
      subst refused
      rcases ofData_error_of_other_kind read with progress | unnamed
      · exact .inl ⟨e, rfl, .inl progress⟩
      · exact .inl ⟨e, rfl, .inr ⟨v, loaded, unnamed⟩⟩
  · next e failed =>
    by_cases text : e.isTextError = true
    · simp only [text, if_true, Except.error.injEq] at refused
      subst refused
      exact .inl ⟨_, rfl, .inl rfl⟩
    · simp only [text, Bool.false_eq_true, if_false, Except.error.injEq] at refused
      subst refused
      exact .inr ⟨e, rfl, failed, by simpa using text⟩

/-- Reading a snapshot is refused with an error of progress, with three exceptions. From data, an
error of another kind comes only from a variable under a key that names none (neither text nor
bytes), and every such key under a non-zero integer, first among the variables, is refused as
having no `strip`. From JSON text, whose names are strings, the only other error is that of text
nested too deep. From YAML text, whatever the library reads, the others are those of a variable
key that names none in the data read, and of a value that cannot be built. -/
theorem snapshot_refusals (v : Value) (room : Nat) (t : String) (lib : YamlLibrary) (y : List Nat) :
    (∀ e, ofData v = .error e → e.kind = "ProgressError" ∨ v.UnnamedVar) ∧
    (∀ (page : String) (k : Value) (n : Int) (rest : List (Value × Value)),
      v = .map [(.str "currentPage", .str page), (.str "vars", .map ((k, .int n) :: rest))] →
      k.name? = none → n ≠ 0 →
      ofData v = .error (.keyNotText k.className) ∧
        (SnapshotError.keyNotText k.className).kind = "AttributeError") ∧
    (∀ e, ofJsonText room t = .error e → e.kind = "ProgressError" ∨ e = .tooDeep) ∧
    (∀ err, ofYaml lib room y = .error err →
      (∃ e, err = .snapshot e ∧
        (e.kind = "ProgressError" ∨ ∃ v, lib.load (room - 1) y = .ok v ∧ v.UnnamedVar)) ∨
      ∃ e, err = .value e ∧ lib.load (room - 1) y = .error e ∧ e.isTextError = false) := by
  refine ⟨fun _ refused => ofData_error_of_other_kind refused, ?_,
    fun _ refused => ofJsonText_error_kind refused, fun _ refused => ofYaml_error_cases refused⟩
  rintro page k n rest rfl unnamed nonzero
  exact ⟨ofData_first_unnamed page n rest unnamed nonzero, rfl⟩

/-- The data YAML reads from the snapshot `currentPage: Shop` with the variables `12: 3`. -/
def numberedData : Value :=
  .map [(.str "currentPage", .str "Shop"), (.str "vars", .map [(.int 12, .int 3)])]

/-- At the data read from `vars: {12: 3}`, the number names no variable, and the data is refused
with an attribute error. -/
theorem numbered_data_refusals :
    numberedData.UnnamedVar ∧ ofData numberedData = .error (.keyNotText "int") ∧
      (SnapshotError.keyNotText "int").kind = "AttributeError" := by
  obtain ⟨other, first, -⟩ := snapshot_refusals numberedData 995 "" pyYaml []
  have refused := first "Shop" (.int 12) 3 [] rfl rfl (by decide)
  exact ⟨(other _ refused.1).resolve_left (by decide), refused⟩

/-- The data of a snapshot whose one variable is named by the number 12 is refused with an
attribute error, not an error of progress. -/
theorem numbered_name_refused :
    ofData numberedData = .error (.keyNotText "int") ∧
      (SnapshotError.keyNotText "int").kind = "AttributeError" :=
  ⟨ofData_first_unnamed "Shop" 3 [] rfl (by decide), rfl⟩

end Progress

end Gamebook
