import Mathlib
import Gamebook.Play.Snapshot
import Gamebook.Proofs.CanonicalProgress
/- Reading a snapshot's variables into a store. A variable a store can take has an integer value
   and, unless the value is zero, a name that is text or bytes; the store taken from a list of such
   variables reads, under each name, the value of the last variable whose name has that canonical
   form, and it is valid. Reading a progress from data succeeds exactly when the data is a map with
   a text page and a map of variables that can all be taken, and then gives that page's canonical
   form and that store; when every variable has a text or bytes name, the only refusals are
   refusals of the progress itself. Main statements: `Vars.lookup_foldl_take`,
   `Progress.ofData_eq_ok_iff`, `Progress.ofData_error_kind`. -/

namespace Gamebook

theorem Value.name?_isSome {v : Value} (text : v.codes?.isSome) : v.name?.isSome := by
  cases v <;> simp_all [Value.name?, Value.codes?]

namespace Vars

theorem ext {v w : Vars} (same : v.toList = w.toList) : v = w := by
  cases v
  cases w
  cases same
  rfl

/-- A variable of a snapshot that a store can take: an integer value, under a name that is text
or bytes unless the value is zero. -/
def Storable (e : Value × Value) : Prop :=
  ∃ n, e.2.asVarValue? = some n ∧ (n = 0 ∨ e.1.name?.isSome)

/-- The value a variable of a snapshot gives the canonical name `k`: a non-zero integer under a
name whose canonical form is `k`. -/
def valueFor (k : Name) (e : Value × Value) : Option Int :=
  match e.2.asVarValue?, e.1.name? with
  | some n, some name => if name.canonical = k ∧ n ≠ 0 then some n else none
  | _, _ => none

/-- A variable of a snapshot taken into a store: a non-zero integer is stored under the canonical
form of its name; anything else leaves the store as it is. -/
def take (v : Vars) (e : Value × Value) : Vars :=
  match e.2.asVarValue?, e.1.name? with
  | some n, some name => if n = 0 then v else v.put name.canonical n
  | _, _ => v

theorem getLast?_filterMap_cons {α β : Type} (f : α → Option β) (a : α) (l : List α) :
    ((a :: l).filterMap f).getLast? = (l.filterMap f).getLast?.or (f a) := by
  cases h : f a with
  | none => simp [h]
  | some b =>
    simp only [List.filterMap_cons, h, List.getLast?_cons]
    cases (l.filterMap f).getLast? <;> rfl

theorem lookup_foldl {α : Type} {step : Vars → α → Vars} {f : Name → α → Option Int}
    (reads : ∀ v a k, (step v a).toList.lookup k = (f k a).or (v.toList.lookup k))
    (l : List α) (v : Vars) (k : Name) :
    (l.foldl step v).toList.lookup k = (l.filterMap (f k)).getLast?.or (v.toList.lookup k) := by
  -- the store read after the first step is the first step's value, or what was there before
  induction l generalizing v with
  | nil => simp
  | cons a rest ih => rw [List.foldl_cons, getLast?_filterMap_cons, Option.or_assoc, ← reads, ih]

theorem lookup_put (v : Vars) (k k' : Name) (x : Int) :
    (v.put k x).toList.lookup k' = if k' = k then some x else v.toList.lookup k' :=
  lookup_putEntries k k' x v.toList

theorem lookup_take (v : Vars) (e : Value × Value) (k : Name) :
    (v.take e).toList.lookup k = (valueFor k e).or (v.toList.lookup k) := by
  unfold take valueFor
  split
  · next n name _ _ =>
    by_cases zero : n = 0
    · simp [zero]
    · rw [if_neg zero, lookup_put]
      by_cases same : k = name.canonical
      · simp [same, zero]
      · simp [same, Ne.symm same]
  · simp

theorem lookup_foldl_take (vars : List (Value × Value)) (k : Name) :
    (vars.foldl take empty).toList.lookup k = (vars.filterMap (valueFor k)).getLast? := by
  rw [lookup_foldl lookup_take vars empty k]
  simp [empty]

theorem Valid.take {v : Vars} (valid : v.Valid) (e : Value × Value) : (v.take e).Valid := by
  unfold Vars.take
  split
  · next n name _ _ =>
    split
    · exact valid
    · next nonzero => exact valid.put (Name.canonical_canonical name) nonzero
  · exact valid

theorem valid_foldl_take (vars : List (Value × Value)) : (vars.foldl take empty).Valid := by
  suffices ∀ v : Vars, v.Valid → (vars.foldl take v).Valid from this empty valid_empty
  induction vars with
  | nil => exact fun v valid => valid
  | cons e rest ih => exact fun v valid => ih _ (valid.take e)

theorem putEntries_fresh {l : List (Name × Int)} {k : Name} (fresh : k ∉ l.map Prod.fst) (x : Int) :
    putEntries l k x = l ++ [(k, x)] := by
  induction l with
  | nil => rfl
  | cons e rest ih =>
    obtain ⟨k', x'⟩ := e
    simp only [List.map_cons, List.mem_cons, not_or] at fresh
    rw [putEntries, if_neg (Ne.symm fresh.1), ih fresh.2]
    rfl

theorem toList_foldl_put_fresh :
    ∀ {l : List (Name × Int)} {v : Vars}, (l.map Prod.fst).Nodup →
      (∀ e ∈ l, e.1 ∉ v.toList.map Prod.fst) →
      (l.foldl (fun acc e => acc.put e.1 e.2) v).toList = v.toList ++ l
  | [], v, _, _ => by simp
  | e :: rest, v, distinct, fresh => by
    rw [List.map_cons, List.nodup_cons] at distinct
    have step : (v.put e.1 e.2).toList = v.toList ++ [e] :=
      putEntries_fresh (fresh e List.mem_cons_self) e.2
    rw [List.foldl_cons, toList_foldl_put_fresh distinct.2 fun e' member => ?_, step]
    · simp
    · rw [step, List.map_append, List.mem_append, not_or]
      refine ⟨fresh e' (List.mem_cons_of_mem _ member), ?_⟩
      simp only [List.map_cons, List.map_nil, List.mem_singleton]
      exact fun same => distinct.1 (same ▸ List.mem_map_of_mem member)

theorem foldl_put_toList (v : Vars) : v.toList.foldl (fun acc e => acc.put e.1 e.2) empty = v :=
  ext (toList_foldl_put_fresh v.nodup (by simp [empty]))

theorem ofList_toList {v : Vars} (valid : v.Valid) : ofList v.toList = v := by
  have same : v.toList.foldl (fun acc e => if e.2 = 0 then acc else acc.put e.1.canonical e.2)
      empty = v.toList.foldl (fun acc e => acc.put e.1 e.2) empty := by
    refine List.foldl_ext _ _ _ fun acc e member => ?_
    obtain ⟨nonzero, canonical⟩ := valid e member
    simp [nonzero, canonical]
  rw [ofList_eq_foldl, same, foldl_put_toList]

end Vars

namespace Progress

theorem addVars_cons (p : Progress) (e : Value × Value) (rest : List (Value × Value)) :
    (¬ Vars.Storable e ∧ ∃ err, addVars p (e :: rest) = .error err) ∨
      (Vars.Storable e ∧ addVars p (e :: rest) = addVars { p with vars := p.vars.take e } rest) := by
  obtain ⟨k, x⟩ := e
  rw [addVars.eq_2]
  split
  · next refused =>
    refine .inl ⟨fun ⟨n, valued, _⟩ => by simp_all, ?_⟩
    cases nameText k <;> exact ⟨_, rfl⟩
  · next zero =>
    refine .inr ⟨⟨0, zero, .inl rfl⟩, ?_⟩
    cases named : k.name? <;> simp [Vars.take, zero, named]
  · next n nonzero valued =>
    split
    · next name named =>
      refine .inr ⟨⟨n, valued, .inr (by simp [named])⟩, ?_⟩
      simp [Vars.take, valued, named, show n ≠ 0 from nonzero]
    · next named =>
      refine .inl ⟨?_, _, rfl⟩
      rintro ⟨m, valued', zero | named'⟩
      · simp_all
      · simp_all

theorem addVars_eq_ok_iff {vars : List (Value × Value)} :
    ∀ {p p' : Progress}, addVars p vars = .ok p' ↔
      (∀ e ∈ vars, Vars.Storable e) ∧ p' = { p with vars := vars.foldl Vars.take p.vars } := by
  induction vars with
  | nil =>
    intro p p'
    simp only [addVars, Except.ok.injEq, List.not_mem_nil, IsEmpty.forall_iff, implies_true,
      List.foldl_nil, true_and]
    exact eq_comm
  | cons e rest ih =>
    intro p p'
    rcases addVars_cons p e rest with ⟨unstorable, err, refused⟩ | ⟨storable, taken⟩
    · rw [refused]
      simp only [reduceCtorEq, List.mem_cons, forall_eq_or_imp, false_iff, not_and]
      exact fun storable => absurd storable.1 unstorable
    · rw [taken, ih]
      simp [storable]

theorem ofData_eq_ok_iff {v : Value} {p : Progress} :
    ofData v = .ok p ↔
      ∃ entries vars page, v = .map entries ∧ Value.lookup entries "vars" = some (.map vars) ∧
        (snapshotPage? entries).bind Value.codes? = some page ∧ (∀ e ∈ vars, Vars.Storable e) ∧
        p = ⟨Codes.canonical page, vars.foldl Vars.take Vars.empty⟩ := by
  unfold ofData
  split
  · next entries =>
    split
    · next page found =>
      split
      · next vars isMap =>
        rw [addVars_eq_ok_iff]
        simp [found, isMap]
      · next notMap =>
        simp only [reduceCtorEq, false_iff, not_exists, not_and]
        intro entries' vars page' same isMap
        cases same
        exact absurd isMap (notMap vars)
    · next missing =>
      simp only [reduceCtorEq, false_iff, not_exists, not_and]
      intro entries' vars page' same _ found
      cases same
      exact absurd found (missing page')
  · next notMap =>
    simp only [reduceCtorEq, false_iff, not_exists, not_and]
    exact fun entries _ _ isMap => absurd isMap (notMap entries)

theorem nameText_of_named {k : Value} (named : k.name?.isSome) : nameText k = .ok k.plain := by
  cases k with
  | int n => simp [Value.name?, Value.codes?] at named
  | _ => rfl

theorem addVars_error_of_named {vars : List (Value × Value)} (keys : ∀ e ∈ vars, e.1.name?.isSome) :
    ∀ {p : Progress} {err : SnapshotError}, addVars p vars = .error err →
      ∃ name, err = .notInteger name := by
  induction vars with
  | nil => intro p err refused; cases refused
  | cons e rest ih =>
    intro p err refused
    obtain ⟨k, x⟩ := e
    have named := keys _ List.mem_cons_self
    have others := fun e member => keys e (List.mem_cons_of_mem _ member)
    rw [addVars.eq_2] at refused
    split at refused
    · simp only [nameText_of_named named, bind, Except.bind, Except.error.injEq] at refused
      exact ⟨_, refused.symm⟩
    · exact ih others refused
    · split at refused
      · exact ih others refused
      · next unnamed => simp [unnamed] at named

theorem ofData_error_kind {v : Value}
    (keys : ∀ entries vars, v = .map entries → Value.lookup entries "vars" = some (.map vars) →
      ∀ e ∈ vars, e.1.name?.isSome) {err : SnapshotError} (refused : ofData v = .error err) :
    err.kind = "ProgressError" := by
  unfold ofData at refused
  split at refused
  · next entries =>
    split at refused
    · split at refused
      · next vars isMap =>
        obtain ⟨name, rfl⟩ := addVars_error_of_named (keys entries vars rfl isMap) refused
        rfl
      · cases refused
        rfl
    · cases refused
      rfl
  · cases refused
    rfl

end Progress

end Gamebook
