import Mathlib
/- Reading a success in `Except`: a bind, an error relabelled, a fold and an elementwise map
   succeed exactly when each of their steps does. -/

namespace Gamebook

theorem bind_eq_ok {ε α β : Type} {x : Except ε α} {f : α → Except ε β} {b : β}
    (h : x >>= f = .ok b) : ∃ a, x = .ok a ∧ f a = .ok b := by
  cases x with
  | error e => cases h
  | ok a => exact ⟨a, rfl, h⟩

theorem bind_eq_ok_iff {ε α β : Type} {x : Except ε α} {f : α → Except ε β} {b : β} :
    x >>= f = .ok b ↔ ∃ a, x = .ok a ∧ f a = .ok b := by
  cases x <;> simp [bind, Except.bind]

theorem mapError_eq_ok {ε ε' α : Type} {x : Except ε α} {f : ε → ε'} {a : α} :
    x.mapError f = .ok a ↔ x = .ok a := by
  cases x <;> simp [Except.mapError]

theorem eq_ok_of_toOption {ε α : Type} {x : Except ε α} {a : α} (h : x.toOption = some a) :
    x = .ok a := by
  cases x with
  | error e => cases h
  | ok b => rw [Option.some.inj h]

theorem foldlM_inv {ε α β : Type} {f : β → α → Except ε β} {P : β → Prop}
    (step : ∀ b a b', P b → f b a = .ok b' → P b') :
    ∀ (l : List α) {b r : β}, P b → l.foldlM f b = .ok r → P r
  | [], b, r, start, h => by
    cases h
    exact start
  | a :: l, b, r, start, h => by
    rw [List.foldlM_cons] at h
    obtain ⟨b', first, rest⟩ := bind_eq_ok h
    exact foldlM_inv step l (step b a b' start first) rest

theorem foldlM_eq_ok_iff {ε α β : Type} {f : β → α → Except ε β} {g : β → α → β} {P : α → Prop}
    (accepts : ∀ b a, P a → f b a = .ok (g b a)) (refuses : ∀ b a, ¬ P a → ∃ e, f b a = .error e) :
    ∀ (l : List α) (b r : β), l.foldlM f b = .ok r ↔ (∀ a ∈ l, P a) ∧ r = l.foldl g b
  | [], b, r => by
    simp only [List.foldlM_nil, List.not_mem_nil, IsEmpty.forall_iff, implies_true, List.foldl_nil,
      true_and]
    exact ⟨fun h => by cases h; rfl, fun h => h ▸ rfl⟩
  | a :: l, b, r => by
    rw [List.foldlM_cons]
    by_cases holds : P a
    · rw [accepts b a holds]
      show l.foldlM f (g b a) = .ok r ↔ _
      simpa [holds] using foldlM_eq_ok_iff accepts refuses l (g b a) r
    · obtain ⟨e, refused⟩ := refuses b a holds
      rw [refused]
      simp only [List.mem_cons, forall_eq_or_imp, holds, false_and, iff_false]
      rintro ⟨⟩

theorem exists_foldlM_eq_ok_and {ε α β : Type} {f : β → α → Except ε β} {g : β → α → β}
    {P : α → Prop} (accepts : ∀ b a, P a → f b a = .ok (g b a))
    (refuses : ∀ b a, ¬ P a → ∃ e, f b a = .error e) (l : List α) (b : β) (Q : β → Prop) :
    (∃ r, l.foldlM f b = .ok r ∧ Q r) ↔ (∀ a ∈ l, P a) ∧ Q (l.foldl g b) := by
  constructor
  · rintro ⟨r, folded, holds⟩
    obtain ⟨all, rfl⟩ := (foldlM_eq_ok_iff accepts refuses l b r).1 folded
    exact ⟨all, holds⟩
  · rintro ⟨all, holds⟩
    exact ⟨_, (foldlM_eq_ok_iff accepts refuses l b _).2 ⟨all, rfl⟩, holds⟩

theorem exists_of_foldlM_eq_error {ε α β : Type} {f : β → α → Except ε β} :
    ∀ {l : List α} {b : β} {e : ε}, l.foldlM f b = .error e → ∃ a ∈ l, ∃ b', f b' a = .error e
  | [], b, e, h => by cases h
  | a :: l, b, e, h => by
    rw [List.foldlM_cons] at h
    cases first : f b a with
    | error e' =>
      simp only [first, bind, Except.bind, Except.error.injEq] at h
      exact ⟨a, List.mem_cons_self, b, h ▸ first⟩
    | ok b' =>
      simp only [first, bind, Except.bind] at h
      obtain ⟨a', member, b'', failed⟩ := exists_of_foldlM_eq_error h
      exact ⟨a', List.mem_cons_of_mem _ member, b'', failed⟩

theorem mapM_eq_ok {ε α β : Type} {f : α → Except ε β} :
    ∀ {xs : List α} {ys : List β}, xs.mapM f = .ok ys ↔ List.Forall₂ (fun x y => f x = .ok y) xs ys
  | [], ys => by
    cases ys <;> simp [pure, Except.pure]
  | x :: xs, ys => by
    rw [List.mapM_cons]
    constructor
    · intro h
      obtain ⟨y, first, h⟩ := bind_eq_ok h
      obtain ⟨rest, others, h⟩ := bind_eq_ok h
      cases h
      exact .cons first (mapM_eq_ok.1 others)
    · rintro (_ | ⟨first, others⟩)
      rw [first, mapM_eq_ok.2 others]
      rfl

theorem exists_of_mapM_eq_error {ε α β : Type} {f : α → Except ε β} :
    ∀ {xs : List α} {e : ε}, xs.mapM f = .error e → ∃ x ∈ xs, f x = .error e
  | [], e, h => by cases h
  | x :: xs, e, h => by
    rw [List.mapM_cons] at h
    cases first : f x with
    | error e' =>
      simp only [first, bind, Except.bind, Except.error.injEq] at h
      exact ⟨x, List.mem_cons_self, h ▸ first⟩
    | ok y =>
      cases rest : xs.mapM f with
      | error e' =>
        simp only [first, rest, bind, Except.bind, Except.error.injEq] at h
        obtain ⟨x', member, failed⟩ := exists_of_mapM_eq_error rest
        exact ⟨x', List.mem_cons_of_mem _ member, h ▸ failed⟩
      | ok ys => simp [first, rest, bind, Except.bind, pure, Except.pure] at h

theorem mapM_cons_of_error {ε α β : Type} {f : α → Except ε β} {x : α} {xs : List α} {e : ε}
    (h : f x = .error e) : (x :: xs).mapM f = .error e := by
  rw [List.mapM_cons, h]
  rfl

theorem mapM_eq_error {ε α β : Type} {f : α → Except ε β} {e : ε} :
    ∀ {xs : List α}, (∀ x ∈ xs, (∃ y, f x = .ok y) ∨ f x = .error e) → (∃ x ∈ xs, f x = .error e) →
      xs.mapM f = .error e
  | [], _, found => by simp at found
  | x :: xs, only, found => by
    rcases only x List.mem_cons_self with ⟨y, first⟩ | first
    · -- the first element is written, so the failing one is among the others
      have later : ∃ x' ∈ xs, f x' = .error e := by
        obtain ⟨x', member, failed⟩ := found
        rcases List.mem_cons.1 member with rfl | later
        · rw [first] at failed
          cases failed
        · exact ⟨x', later, failed⟩
      rw [List.mapM_cons, first, mapM_eq_error (fun x' member => only x' (List.mem_cons_of_mem _ member))
        later]
      rfl
    · exact mapM_cons_of_error first

theorem mapM_eq_ok_map {ε α β : Type} {f : α → Except ε β} {g : α → β} {xs : List α}
    (each : ∀ x ∈ xs, f x = .ok (g x)) : xs.mapM f = .ok (xs.map g) :=
  mapM_eq_ok.2 (List.forall₂_map_right_iff.2 (List.forall₂_same.2 each))

theorem exists_of_forall₂ {α β : Type} {R : α → β → Prop} {xs : List α} {ys : List β}
    (each : List.Forall₂ R xs ys) {y : β} (mem : y ∈ ys) : ∃ x ∈ xs, R x y := by
  induction each with
  | nil => cases mem
  | cons first _ ih =>
    rcases List.mem_cons.1 mem with rfl | later
    · exact ⟨_, List.mem_cons_self, first⟩
    · obtain ⟨x, inside, related⟩ := ih later
      exact ⟨x, List.mem_cons_of_mem _ inside, related⟩

theorem mem_of_mapM_eq_ok {ε α β : Type} {f : α → Except ε β} {xs : List α} {ys : List β}
    (h : xs.mapM f = .ok ys) {y : β} (mem : y ∈ ys) : ∃ x ∈ xs, f x = .ok y :=
  exists_of_forall₂ (mapM_eq_ok.1 h) mem

theorem exists_of_forall₂_left {α β : Type} {R : α → β → Prop} {xs : List α} {ys : List β}
    (each : List.Forall₂ R xs ys) {x : α} (mem : x ∈ xs) : ∃ y ∈ ys, R x y :=
  exists_of_forall₂ (List.Forall₂.flip (R := fun y x => R x y) each) mem

theorem ok_of_mapM_eq_ok {ε α β : Type} {f : α → Except ε β} {xs : List α} {ys : List β}
    (h : xs.mapM f = .ok ys) {x : α} (mem : x ∈ xs) : ∃ y ∈ ys, f x = .ok y :=
  exists_of_forall₂_left (mapM_eq_ok.1 h) mem

theorem map_eq_map_of_forall₂ {α β γ : Type} {R : α → β → Prop} {f : α → γ} {g : β → γ}
    (agree : ∀ x y, R x y → f x = g y) {xs : List α} {ys : List β}
    (each : List.Forall₂ R xs ys) : xs.map f = ys.map g := by
  induction each with
  | nil => rfl
  | cons related _ ih => simp [agree _ _ related, ih]

theorem mapM_ok_of_forall {ε α β : Type} {f : α → Except ε β} :
    ∀ {xs : List α}, (∀ x ∈ xs, ∃ y, f x = .ok y) → ∃ ys, xs.mapM f = .ok ys
  | [], _ => ⟨[], rfl⟩
  | x :: xs, each => by
    obtain ⟨y, first⟩ := each x List.mem_cons_self
    obtain ⟨ys, rest⟩ := mapM_ok_of_forall fun x' mem => each x' (List.mem_cons_of_mem _ mem)
    exact ⟨y :: ys, mapM_eq_ok.2 (.cons first (mapM_eq_ok.1 rest))⟩

theorem exists_mapM_forall₂ {ε α β : Type} {f : α → Except ε β} {P : α → β → Prop} {xs : List α}
    (each : ∀ x ∈ xs, ∃ y, f x = .ok y ∧ P x y) : ∃ ys, xs.mapM f = .ok ys ∧ List.Forall₂ P xs ys := by
  obtain ⟨ys, mapped⟩ := mapM_ok_of_forall fun x member => (each x member).imp fun _ both => both.1
  refine ⟨ys, mapped, ((List.forall₂_and_left xs ys).2 ⟨each, mapM_eq_ok.1 mapped⟩).imp ?_⟩
  intro x y both
  obtain ⟨⟨y', written', related⟩, written⟩ := both
  rw [written] at written'
  injection written' with same
  rw [same]
  exact related

theorem forall_iff_of_forall₂ {α β : Type} {R : α → β → Prop} {P : α → Prop} {Q : β → Prop}
    (agree : ∀ x y, R x y → (P x ↔ Q y)) {xs : List α} {ys : List β} (each : List.Forall₂ R xs ys) :
    (∀ x ∈ xs, P x) ↔ ∀ y ∈ ys, Q y := by
  induction each with
  | nil => simp
  | cons related _ ih => simp [agree _ _ related, ih]

end Gamebook
