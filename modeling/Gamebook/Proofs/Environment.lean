import Mathlib
import Gamebook.Play.Session
import Gamebook.Proofs.CanonicalName
/- Variables as a total environment. A dictionary reads a name as the value stored under it, or 0;
   setting a name changes what that name reads and nothing else, wherever the entry stands. A
   store is valid when its names are canonical and no value is zero; two valid stores that read
   alike hold the same entries, so they are equal as dictionaries. Main statement
   (`Session.logic_acts_on_env`): a piece of logic answers and changes what every name reads
   exactly as its operator says, a page's logic acts on the readings as the left fold of these
   changes, and a progress is fixed by its page and its readings. -/

namespace Gamebook

namespace Vars

/-- A valid store: names canonical, no zero value. -/
def Valid (v : Vars) : Prop := ∀ e ∈ v.toList, e.2 ≠ 0 ∧ e.1.canonical = e.1

theorem lookup_cons (a k : Name) (b : Int) (l : List (Name × Int)) :
    ((k, b) :: l).lookup a = if a = k then some b else l.lookup a := by
  by_cases h : a = k
  · simp [List.lookup, h]
  · have hb : (a == k) = false := beq_false_of_ne h
    simp only [List.lookup, hb, if_neg h]

theorem lookup_putEntries (k k' : Name) (x : Int) :
    ∀ l : List (Name × Int), (putEntries l k x).lookup k' = if k' = k then some x else l.lookup k'
  | [] => by simp [putEntries, lookup_cons]
  | (k0, x0) :: rest => by
    by_cases same : k0 = k
    · subst same
      rw [putEntries, if_pos rfl]
      by_cases hk : k' = k0 <;> simp [lookup_cons, hk]
    · rw [putEntries, if_neg same, lookup_cons, lookup_cons, lookup_putEntries k k' x rest]
      by_cases h0 : k' = k0 <;> by_cases hk : k' = k <;> simp_all

theorem lookup_filter_ne (k k' : Name) :
    ∀ l : List (Name × Int), (l.filter (·.1 != k)).lookup k' = if k' = k then none else l.lookup k'
  | [] => by simp
  | (k0, x0) :: rest => by
    rw [List.filter_cons]
    by_cases same : k0 = k
    · subst same
      rw [if_neg (by simp), lookup_filter_ne k0 k' rest, lookup_cons]
      by_cases hk : k' = k0 <;> simp [hk]
    · rw [if_pos (by simpa using same), lookup_cons, lookup_cons, lookup_filter_ne k k' rest]
      by_cases h0 : k' = k0 <;> by_cases hk : k' = k <;> simp_all

theorem get_set (v : Vars) (k k' : Name) (x : Int) :
    (v.set k x).get k' = if k' = k then x else v.get k' := by
  unfold set get
  by_cases zero : x = 0
  · rw [if_pos zero, erase, lookup_filter_ne]
    by_cases same : k' = k <;> simp [same, zero]
  · rw [if_neg zero, put, lookup_putEntries]
    by_cases same : k' = k <;> simp [same]

theorem mem_of_lookup {l : List (Name × Int)} {k : Name} {x : Int}
    (h : l.lookup k = some x) : (k, x) ∈ l := by
  induction l with
  | nil => simp [List.lookup] at h
  | cons e rest ih =>
    obtain ⟨k0, x0⟩ := e
    rw [lookup_cons] at h
    split_ifs at h with hk
    · cases h
      subst hk
      simp
    · exact List.mem_cons_of_mem _ (ih h)

theorem lookup_of_mem {l : List (Name × Int)} (nodup : (l.map Prod.fst).Nodup)
    {k : Name} {x : Int} (h : (k, x) ∈ l) : l.lookup k = some x := by
  induction l with
  | nil => simp at h
  | cons e rest ih =>
    obtain ⟨k0, x0⟩ := e
    simp only [List.map_cons, List.nodup_cons, List.mem_map] at nodup
    rcases List.mem_cons.1 h with he | he
    · cases he
      simp
    · have hne : k ≠ k0 := fun same => nodup.1 ⟨(k, x), he, same⟩
      rw [lookup_cons, if_neg hne]
      exact ih nodup.2 he

theorem lookup_eq_some_iff (v : Vars) (k : Name) (x : Int) :
    v.toList.lookup k = some x ↔ (k, x) ∈ v.toList :=
  ⟨mem_of_lookup, lookup_of_mem v.nodup⟩

theorem same_iff_lookup (v w : Vars) : v.Same w ↔ ∀ k, v.toList.lookup k = w.toList.lookup k := by
  have entries : ∀ u : Vars, u.toList.Nodup := fun u => List.Nodup.of_map Prod.fst u.nodup
  constructor
  · intro perm k
    cases h : v.toList.lookup k with
    | none =>
      cases h' : w.toList.lookup k with
      | none => rfl
      | some y =>
        have member := perm.symm.mem_iff.1 ((lookup_eq_some_iff w k y).1 h')
        rw [(lookup_eq_some_iff v k y).2 member] at h
        cases h
    | some x => exact ((lookup_eq_some_iff w k x).2 (perm.mem_iff.1 ((lookup_eq_some_iff v k x).1 h))).symm
  · intro same
    refine (List.perm_ext_iff_of_nodup (entries v) (entries w)).2 fun ⟨k, x⟩ => ?_
    rw [← lookup_eq_some_iff, ← lookup_eq_some_iff, same k]

theorem get_of_not_canonical {v : Vars} (hv : v.Valid) {k : Name} (hk : k.canonical ≠ k) :
    v.get k = 0 := by
  unfold get
  cases h : v.toList.lookup k with
  | none => rfl
  | some x => exact absurd (hv _ (mem_of_lookup h)).2 hk

theorem same_of_get {v w : Vars} (hv : v.Valid) (hw : w.Valid) (h : ∀ k, v.get k = w.get k) :
    v.Same w := by
  refine (same_iff_lookup v w).2 fun k => ?_
  have hk := h k
  unfold get at hk
  -- a stored value is never zero, so reading 0 means the name is not stored
  have nonzero : ∀ {u : Vars}, u.Valid → ∀ {y}, u.toList.lookup k = some y → y ≠ 0 :=
    fun hu _ found => (hu _ (mem_of_lookup found)).1
  cases h1 : v.toList.lookup k with
  | none =>
    cases h2 : w.toList.lookup k with
    | none => rfl
    | some y =>
      rw [h1, h2] at hk
      exact absurd hk.symm (nonzero hw h2)
  | some x =>
    cases h2 : w.toList.lookup k with
    | none =>
      rw [h1, h2] at hk
      exact absurd hk (nonzero hv h1)
    | some y =>
      rw [h1, h2] at hk
      simp only [Option.getD_some] at hk
      rw [hk]

end Vars

namespace Logic

/-- What a piece of logic does to an environment of variables, as its operator says: `=` gives
every name of the lhs's canonical form the new value, `+=` adds to the value read under the
lhs, and a comparison changes nothing. -/
def update (l : Logic) (env : Name → Int) (n : Name) : Int :=
  if n.canonical = (Name.ofString l.lhs).canonical then
    match l.op with
    | .assign => l.rhs
    | .increase => env (.ofString l.lhs) + l.rhs
    | _ => env n
  else env n

/-- What a piece of logic answers in an environment: false for state logic, the comparison of
the lhs's value with the rhs for a guard. -/
def answer (l : Logic) (env : Name → Int) : Bool :=
  match l.op with
  | .assign | .increase => false
  | .eq => decide (env (.ofString l.lhs) = l.rhs)
  | .ne => decide (env (.ofString l.lhs) ≠ l.rhs)
  | .lt => decide (env (.ofString l.lhs) < l.rhs)
  | .gt => decide (env (.ofString l.lhs) > l.rhs)

end Logic

namespace Session

theorem getVar_setVar (s : Session) (name n : Name) (x : Int) :
    (s.setVar name x).getVar n = if n.canonical = name.canonical then x else s.getVar n := by
  simp only [getVar, setVar]
  rw [Vars.get_set]

theorem run_answer (s : Session) (l : Logic) : (s.run l).1 = l.answer s.getVar := by
  cases h : l.op <;> simp [run, Logic.answer, h]

theorem getVar_run (s : Session) (l : Logic) (n : Name) :
    (s.run l).2.getVar n = l.update s.getVar n := by
  cases hop : l.op <;> simp only [run, Logic.update, hop, getVar_setVar] <;> split <;> rfl

theorem page_run (s : Session) (l : Logic) : (s.run l).2.progress.page = s.progress.page := by
  cases h : l.op <;> simp [run, h, setVar]

theorem applyPage_some (s : Session) (p : Page) :
    s.applyPage (some p) = p.logics.foldl (fun s l => (s.run l).2) s := by
  simp [applyPage]

theorem getVar_foldl_run (logics : List Logic) (s : Session) (n : Name) :
    (logics.foldl (fun s l => (s.run l).2) s).getVar n =
      logics.foldl (fun env l => l.update env) s.getVar n := by
  induction logics generalizing s with
  | nil => rfl
  | cons l rest ih =>
    have step : (s.run l).2.getVar = l.update s.getVar := funext (getVar_run s l)
    rw [List.foldl_cons, List.foldl_cons, ih, step]

theorem page_foldl_run (logics : List Logic) (s : Session) :
    (logics.foldl (fun s l => (s.run l).2) s).progress.page = s.progress.page := by
  induction logics generalizing s with
  | nil => rfl
  | cons l rest ih => rw [List.foldl_cons, ih, page_run]

theorem progress_same_of_env (s t : Session) (hs : s.progress.vars.Valid)
    (ht : t.progress.vars.Valid) (hp : t.progress.page = s.progress.page)
    (henv : ∀ n, t.getVar n = s.getVar n) : t.progress.Same s.progress := by
  refine ⟨hp, Vars.same_of_get ht hs fun k => ?_⟩
  by_cases hk : k.canonical = k
  · simpa only [getVar, hk] using henv k
  · rw [Vars.get_of_not_canonical ht hk, Vars.get_of_not_canonical hs hk]

theorem mem_vars_iff (s : Session) (hv : s.progress.vars.Valid) (k : Name) (x : Int) :
    (k, x) ∈ s.progress.vars.toList ↔ k.canonical = k ∧ x ≠ 0 ∧ s.getVar k = x := by
  constructor
  · intro hm
    obtain ⟨hx, hk⟩ := hv _ hm
    refine ⟨hk, hx, ?_⟩
    simp only [getVar, hk, Vars.get, (Vars.lookup_eq_some_iff _ k x).2 hm, Option.getD_some]
  · rintro ⟨hk, hx, hg⟩
    simp only [getVar, hk, Vars.get] at hg
    cases h : s.progress.vars.toList.lookup k with
    | none =>
      rw [h] at hg
      exact absurd hg.symm (by simpa using hx)
    | some y =>
      rw [h, Option.getD_some] at hg
      subst hg
      exact Vars.mem_of_lookup h

/-- Running a piece of logic on a session with a valid store: the answer and the change to what
every name reads are as the operator says, and the page stays; a page's logic changes what every
name reads as the left fold of these changes, keeping the page; and the progress is fixed, as a
dictionary, by its page and readings, the stored entries being the canonical names that read
non-zero. -/
theorem logic_acts_on_env (s : Session) (l : Logic) (hv : s.progress.vars.Valid) :
    (s.run l).1 = l.answer s.getVar ∧
    (∀ n, (s.run l).2.getVar n = l.update s.getVar n) ∧
    (s.run l).2.progress.page = s.progress.page ∧
    (∀ (p : Page) (n : Name),
      (s.applyPage (some p)).getVar n = p.logics.foldl (fun env l => l.update env) s.getVar n) ∧
    (∀ p : Page, (s.applyPage (some p)).progress.page = s.progress.page) ∧
    (∀ t : Session, t.progress.vars.Valid → t.progress.page = s.progress.page →
      (∀ n, t.getVar n = s.getVar n) → t.progress.Same s.progress) ∧
    (∀ k x, (k, x) ∈ s.progress.vars.toList ↔ k.canonical = k ∧ x ≠ 0 ∧ s.getVar k = x) :=
  ⟨run_answer s l, getVar_run s l, page_run s l,
    fun p n => by rw [applyPage_some, getVar_foldl_run],
    fun p => by rw [applyPage_some, page_foldl_run],
    fun t ht hp henv => progress_same_of_env s t hv ht hp henv, mem_vars_iff s hv⟩

/-- A one-page story at its start, with no variables set. -/
def emptySession : Session := ⟨⟨"start", []⟩, true, ⟨Codes.ofString "start", Vars.empty⟩⟩

/-- Setting `Gold` to 5 on a session with no variables. -/
theorem assign_gold_on_empty :
    emptySession.progress.vars.Valid ∧
    ((emptySession.run ⟨.assign, "Gold", 5⟩).1 =
        Logic.answer ⟨.assign, "Gold", 5⟩ emptySession.getVar ∧
      (∀ n, (emptySession.run ⟨.assign, "Gold", 5⟩).2.getVar n =
        Logic.update ⟨.assign, "Gold", 5⟩ emptySession.getVar n) ∧
      (emptySession.run ⟨.assign, "Gold", 5⟩).2.progress.page = emptySession.progress.page ∧
      (∀ (p : Page) (n : Name), (emptySession.applyPage (some p)).getVar n =
        p.logics.foldl (fun env l => l.update env) emptySession.getVar n) ∧
      (∀ p : Page, (emptySession.applyPage (some p)).progress.page = emptySession.progress.page) ∧
      (∀ t : Session, t.progress.vars.Valid → t.progress.page = emptySession.progress.page →
        (∀ n, t.getVar n = emptySession.getVar n) → t.progress.Same emptySession.progress) ∧
      (∀ k x, (k, x) ∈ emptySession.progress.vars.toList ↔
        k.canonical = k ∧ x ≠ 0 ∧ emptySession.getVar k = x)) :=
  have h : emptySession.progress.vars.Valid := by simp [emptySession, Vars.Valid, Vars.empty]
  ⟨h, logic_acts_on_env emptySession ⟨.assign, "Gold", 5⟩ h⟩

end Session

end Gamebook
