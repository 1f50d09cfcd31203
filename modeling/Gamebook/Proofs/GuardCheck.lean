import Mathlib
import Gamebook.Proofs.Environment
/- Checking a guard changes nothing. A host checks a choice's guard through `run`, the evaluator
   that page logic uses and that sets or increases a variable for `=` and `+=`. The check runs a
   guard only when it compares, and a comparison leaves the session as it was; so every check
   answers as `isVisible` does (true without a guard, false for a changing guard, the comparison
   otherwise) and leaves the session as it was, and so does listing the visible choices of the
   current page, which checks them one after another. Main statement:
   `Session.guard_check_leaves_session`. -/

namespace Gamebook

namespace Session

/-- A guard check as a host's call makes it, with the session it leaves: no guard shows, a
changing guard does not show and is not run, and a comparing guard is run by `run`. -/
def check (s : Session) (c : Choice) : Bool × Session :=
  match c.guard with
  | none => (true, s)
  | some g => if g.op.changes then (false, s) else s.run g

/-- Check choices in turn, each in the session the check before it left, keeping those that show
with their places. -/
def checkAll (s : Session) : List (Nat × Choice) → List (Nat × Choice) × Session
  | [] => ([], s)
  | (i, c) :: rest =>
    let (shows, s') := s.check c
    let (kept, s'') := s'.checkAll rest
    (if shows then (i, c) :: kept else kept, s'')

/-- The visible choices of the current page, listed as a host's call lists them, with the session
the checks leave. -/
def listVisible (s : Session) : List (Nat × Choice) × Session :=
  match s.currentPage? with
  | some p => s.checkAll (p.choices.zipIdx.map fun (c, i) => (i, c))
  | none => ([], s)

theorem run_of_compares (s : Session) {g : Logic} (compares : g.op.changes = false) :
    s.run g = (g.answer s.getVar, s) := by
  cases op : g.op <;> simp_all [run, Logic.answer, Operator.changes]

theorem isVisible_eq (s : Session) (c : Choice) :
    s.isVisible c = c.guard.all fun g => !g.op.changes && g.answer s.getVar := by
  unfold isVisible
  cases c.guard with
  | none => rfl
  | some g => cases changes : g.op.changes <;> simp [run_answer]

theorem check_eq (s : Session) (c : Choice) : s.check c = (s.isVisible c, s) := by
  rw [isVisible_eq]
  unfold check
  cases c.guard with
  | none => rfl
  | some g =>
    dsimp only
    cases changes : g.op.changes with
    | true => simp [changes]
    | false => simp [run_of_compares s changes, changes]

theorem checkAll_eq (s : Session) (l : List (Nat × Choice)) :
    s.checkAll l = (l.filter fun e => s.isVisible e.2, s) := by
  -- each check leaves the session, so every later check is made in `s`
  induction l with
  | nil => rfl
  | cons e rest ih =>
    obtain ⟨i, c⟩ := e
    cases shows : s.isVisible c <;> simp [checkAll, check_eq, ih, shows]

theorem listVisible_eq (s : Session) : s.listVisible = (s.visible, s) := by
  unfold listVisible visible
  cases s.currentPage? with
  | none => rfl
  | some p =>
    dsimp only
    rw [checkAll_eq, List.filter_map]
    rfl

/-- A host's guard check leaves the session as it was, whatever the guard, and answers true for no
guard, false for a changing guard (which it does not run) and the comparison otherwise; listing the
visible choices of the current page leaves the session too and lists `visible`. -/
theorem guard_check_leaves_session (s : Session) (c : Choice) :
    s.check c = (s.isVisible c, s) ∧
      s.isVisible c = (c.guard.all fun g => !g.op.changes && g.answer s.getVar) ∧
      s.listVisible = (s.visible, s) :=
  ⟨check_eq s c, isVisible_eq s c, listVisible_eq s⟩

end Session

end Gamebook
