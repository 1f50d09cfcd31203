import Mathlib
import Gamebook.Story.Name
import Gamebook.Unicode.Class
import Gamebook.Play.Vars
/- Canonical names are fixed by canonicalization. Lowercasing by the case runs never yields a
   character that lowercases again, a capital sigma, or white space, so a canonical name is
   already trimmed and lowercase. The facts about the tables are checked run against run by one
   `decide`; the rest is about lists. -/

namespace Gamebook.Unicode

theorem lastAtMost_go_mem {α : Type} {t : Array α} {key : α → Nat} {n : Nat} :
    ∀ {lo hi : Nat} {best : Option α} {x : α},
      (∀ y, best = some y → y ∈ t.toList ∧ key y ≤ n) →
      lastAtMost.go t key n lo hi best = some x → x ∈ t.toList ∧ key x ≤ n := by
  intro lo hi best x hbest h
  fun_induction lastAtMost.go t key n lo hi best with
  | case1 lo hi best hlt y hy hkey ih =>
    apply ih _ h
    intro z hz
    cases hz
    exact ⟨Array.mem_toList_iff.2 (Array.mem_of_getElem? hy), hkey⟩
  | case2 lo hi best hlt y hy hkey ih => exact ih hbest h
  | case3 lo hi best hlt hy => exact hbest x h
  | case4 lo hi best hlt => exact hbest x h

theorem lastAtMost_mem {α : Type} {t : Array α} {key : α → Nat} {n : Nat} {x : α}
    (h : lastAtMost t key n = some x) : x ∈ t.toList ∧ key x ≤ n :=
  lastAtMost_go_mem (by simp) h

theorem inRanges_cover {t : Array (Nat × Nat)} {n : Nat} (h : inRanges t n = true) :
    ∃ r ∈ t.toList, r.1 ≤ n ∧ n ≤ r.2 := by
  unfold inRanges at h
  split at h
  · next a b hfound =>
    obtain ⟨member, low⟩ := lastAtMost_mem hfound
    exact ⟨(a, b), member, low, by simpa using h⟩
  · cases h

/-- Whether a case run lowers the point `n`. -/
def covers (r : Nat × Nat × Nat × Int) (n : Nat) : Bool :=
  r.1 ≤ n && n ≤ r.2.1 && (n - r.1) % r.2.2.1 == 0

/-- The point a case run lowers `n` to. -/
def lowered (r : Nat × Nat × Nat × Int) (n : Nat) : Nat := ((n : Int) + r.2.2.2).toNat

theorem lowerChar_cases (c : Char) :
    (c.toNat = 0x130 ∧ lowerChar c = ['i', '̇']) ∨
    (∃ r ∈ lowerRuns.toList, covers r c.toNat = true ∧
      lowerChar c = [Char.ofNat (lowered r c.toNat)]) ∨
    lowerChar c = [c] := by
  unfold lowerChar
  split
  · next h130 => exact .inl ⟨h130, rfl⟩
  · split
    · next a b step shift found =>
      obtain ⟨member, low⟩ := lastAtMost_mem found
      split
      · next inside =>
        refine .inr (.inl ⟨(a, b, step, shift), member, ?_, rfl⟩)
        simp only [covers, Bool.and_eq_true, decide_eq_true_eq, beq_iff_eq]
        exact ⟨⟨low, inside.1⟩, inside.2⟩
      · exact .inr (.inr rfl)
    · exact .inr (.inr rfl)

theorem lowerChar_of_uncovered {c : Char} (h130 : c.toNat ≠ 0x130)
    (free : ∀ r ∈ lowerRuns.toList, covers r c.toNat = false) : lowerChar c = [c] := by
  rcases lowerChar_cases c with ⟨dotted, -⟩ | ⟨r, member, hit, -⟩ | same
  · exact absurd dotted h130
  · rw [free r member] at hit
    cases hit
  · exact same

theorem toNat_ofNat {n : Nat} (h : n.isValidChar) : (Char.ofNat n).toNat = n := by
  simp [Char.ofNat, h, Char.ofNatAux, Char.toNat]

theorem toNat_of_isDigit {d : Char} (digit : d.isDigit = true) : 48 ≤ d.toNat ∧ d.toNat ≤ 57 := by
  simp only [Char.isDigit, Bool.and_eq_true, decide_eq_true_eq, ge_iff_le,
    UInt32.le_iff_toNat_le] at digit
  exact digit

theorem of_range {P : Char → Prop} {lo n : Nat} (table : ∀ i : Fin n, P (Char.ofNat (lo + i.val)))
    {d : Char} (low : lo ≤ d.toNat) (high : d.toNat < lo + n) : P d := by
  have own := table ⟨d.toNat - lo, by omega⟩
  rwa [show lo + (d.toNat - lo) = d.toNat by omega, Char.ofNat_toNat] at own

theorem of_isDigit {P : Char → Prop} (table : ∀ n : Fin 10, P (Char.ofNat (48 + n.val)))
    {d : Char} (digit : d.isDigit = true) : P d := by
  have bounds := toNat_of_isDigit digit
  exact of_range table bounds.1 (by omega)

/-- Whether some point `lo, lo + step, …` up to `hi` is also a point `a, a + s, …` up to `b`;
exact when both steps are 1 or 2, as two neighbouring candidates then settle it. -/
def meets (lo hi step a b s : Nat) : Bool :=
  a ≤ hi && lo ≤ b &&
    let x := max lo a
    let y := min hi b
    let ok (t : Nat) : Bool := (t - lo) % step == 0 && (t - a) % s == 0
    x ≤ y && (ok x || (x + 1 ≤ y && ok (x + 1)))

theorem meets_of_common {lo hi step a b s t : Nat} (hstep : step = 1 ∨ step = 2)
    (hs : s = 1 ∨ s = 2) (first : lo ≤ t ∧ t ≤ hi ∧ (t - lo) % step = 0)
    (second : a ≤ t ∧ t ≤ b ∧ (t - a) % s = 0) : meets lo hi step a b s = true := by
  simp only [meets, Bool.and_eq_true, Bool.or_eq_true, decide_eq_true_eq, beq_iff_eq]
  rcases hstep with rfl | rfl <;> rcases hs with rfl | rfl <;> omega

/-- The white space of `isSpace` as ranges of points. -/
def spaceRanges : List (Nat × Nat) :=
  [(9, 13), (28, 32), (0x85, 0x85), (0xA0, 0xA0), (0x1680, 0x1680), (0x2000, 0x200A),
    (0x2028, 0x2029), (0x202F, 0x202F), (0x205F, 0x205F), (0x3000, 0x3000)]

theorem isSpace_cover {c : Char} (h : isSpace c = true) :
    ∃ q ∈ spaceRanges, q.1 ≤ c.toNat ∧ c.toNat ≤ q.2 := by
  simp only [isSpace, Bool.or_eq_true, Bool.and_eq_true, decide_eq_true_eq, beq_iff_eq] at h
  simp only [spaceRanges, List.mem_cons, List.not_mem_nil, or_false, exists_eq_or_imp,
    exists_eq_left]
  omega

/-- A case run whose step is 1 or 2 and whose lowered points are characters that no run lowers
again, neither the dotted capital I nor white space. -/
def lowersToRest (r : Nat × Nat × Nat × Int) : Bool :=
  let lo := lowered r r.1
  let hi := lowered r r.2.1
  (r.2.2.1 == 1 || r.2.2.1 == 2) && decide (0 ≤ (r.1 : Int) + r.2.2.2) &&
    (hi < 0xD800 || (0xE000 ≤ lo && hi < 0x110000)) &&
    lowerRuns.toList.all (fun q => !meets lo hi r.2.2.1 q.1 q.2.1 q.2.2.1) &&
    ((0x130, 0x130) :: spaceRanges).all (fun q => !meets lo hi r.2.2.1 q.1 q.2 1)

set_option maxRecDepth 100000 in
theorem lowerRuns_lower_to_rest : lowerRuns.toList.all lowersToRest = true := by decide +kernel

theorem step_of_mem {r : Nat × Nat × Nat × Int} (member : r ∈ lowerRuns.toList) :
    r.2.2.1 = 1 ∨ r.2.2.1 = 2 := by
  have sound := List.all_eq_true.1 lowerRuns_lower_to_rest r member
  simp only [lowersToRest, Bool.and_eq_true, Bool.or_eq_true, beq_iff_eq] at sound
  exact sound.1.1.1.1

theorem lowered_rest {r : Nat × Nat × Nat × Int} {n : Nat} (member : r ∈ lowerRuns.toList)
    (hit : covers r n = true) :
    (lowered r n).isValidChar ∧ lowered r n ≠ 0x130 ∧
      (∀ q ∈ lowerRuns.toList, covers q (lowered r n) = false) ∧
      (∀ q ∈ spaceRanges, ¬ (q.1 ≤ lowered r n ∧ lowered r n ≤ q.2)) := by
  obtain ⟨a, b, step, shift⟩ := r
  have sound := List.all_eq_true.1 lowerRuns_lower_to_rest _ member
  simp only [lowersToRest, Bool.and_eq_true, Bool.or_eq_true, beq_iff_eq, decide_eq_true_eq,
    List.all_eq_true, Bool.not_eq_true', List.mem_cons, forall_eq_or_imp] at sound
  obtain ⟨⟨⟨⟨steps, nonneg⟩, valid⟩, runs⟩, dotted, spaces⟩ := sound
  simp only [covers, Bool.and_eq_true, decide_eq_true_eq, beq_iff_eq] at hit
  simp only [lowered] at *
  -- the lowered point sits on the shifted progression of the run
  have onRun : ∀ s, (s = 1 ∨ s = 2) → ∀ a' b' s', (s' = 1 ∨ s' = 2) →
      a' ≤ ((n : Int) + shift).toNat ∧ ((n : Int) + shift).toNat ≤ b' ∧
        (((n : Int) + shift).toNat - a') % s' = 0 →
      s = step → meets ((a : Int) + shift).toNat ((b : Int) + shift).toNat s a' b' s' = true := by
    rintro s hs a' b' s' hs' second rfl
    apply meets_of_common hs hs' _ second
    rcases hs with rfl | rfl <;> omega
  refine ⟨?_, ?_, ?_, ?_⟩
  · simp only [Nat.isValidChar]
    omega
  · intro same
    have := onRun step steps 0x130 0x130 1 (.inl rfl) ⟨by omega, by omega, by omega⟩ rfl
    rw [dotted] at this
    cases this
  · intro q qmember
    obtain ⟨a', b', s', shift'⟩ := q
    cases again : covers (a', b', s', shift') ((n : Int) + shift).toNat
    · rfl
    · simp only [covers, Bool.and_eq_true, decide_eq_true_eq, beq_iff_eq] at again
      have := onRun step steps a' b' s' (step_of_mem qmember) ⟨again.1.1, again.1.2, again.2⟩ rfl
      rw [runs _ qmember] at this
      cases this
  · rintro ⟨a', b'⟩ qmember ⟨low, high⟩
    have := onRun step steps a' b' 1 (.inl rfl) ⟨low, high, by omega⟩ rfl
    rw [spaces _ qmember] at this
    cases this

/-- A character that lowercasing leaves as it is wherever it stands: no capital sigma, and its
own lowercase form. -/
def Stable (d : Char) : Prop := d ≠ 'Σ' ∧ lowerChar d = [d]

theorem stable_of_uncovered {d : Char} (h130 : d.toNat ≠ 0x130)
    (free : ∀ r ∈ lowerRuns.toList, covers r d.toNat = false) : Stable d := by
  refine ⟨?_, lowerChar_of_uncovered h130 free⟩
  rintro rfl
  have sigma := free (0x3A3, 0x3AB, 1, 32) (by decide)
  revert sigma
  decide

theorem stable_of_all {d : Char} (h130 : d.toNat ≠ 0x130)
    (free : lowerRuns.toList.all (fun r => !covers r d.toNat) = true) : Stable d :=
  stable_of_uncovered h130 fun r member => by simpa using List.all_eq_true.1 free r member

theorem stable_written : Stable 'i' ∧ Stable '̇' ∧ Stable 'σ' ∧ Stable 'ς' :=
  ⟨stable_of_all (by decide) (by decide +kernel), stable_of_all (by decide) (by decide +kernel),
    stable_of_all (by decide) (by decide +kernel), stable_of_all (by decide) (by decide +kernel)⟩

theorem stable_of_mem_lowerChar {c d : Char} (notSigma : c ≠ 'Σ') (member : d ∈ lowerChar c) :
    Stable d := by
  rcases lowerChar_cases c with ⟨-, same⟩ | ⟨r, run, hit, same⟩ | same <;>
    rw [same, List.mem_cons] at member
  · rcases member with rfl | member
    · exact stable_written.1
    · rw [List.mem_singleton.1 member]
      exact stable_written.2.1
  · rw [or_iff_left (List.not_mem_nil)] at member
    subst member
    obtain ⟨valid, h130, free, -⟩ := lowered_rest run hit
    rw [← toNat_ofNat valid] at h130 free
    exact stable_of_uncovered h130 free
  · rw [or_iff_left (List.not_mem_nil)] at member
    subst member
    exact ⟨notSigma, same⟩

theorem not_space_of_mem_lowerChar {c d : Char} (member : d ∈ lowerChar c)
    (solid : isSpace c = false) : isSpace d = false := by
  rcases lowerChar_cases c with ⟨-, same⟩ | ⟨r, run, hit, same⟩ | same <;>
    rw [same] at member
  · simp only [List.mem_cons, List.not_mem_nil, or_false] at member
    rcases member with rfl | rfl <;> decide
  · rw [List.mem_singleton.1 member]
    obtain ⟨valid, -, -, apart⟩ := lowered_rest run hit
    cases space : isSpace (Char.ofNat (lowered r c.toNat))
    · rfl
    · obtain ⟨q, qmember, inside⟩ := isSpace_cover space
      rw [toNat_ofNat valid] at inside
      exact absurd inside (apart q qmember)
  · rw [List.mem_singleton.1 member]
    exact solid

theorem lowerChar_ne_nil (c : Char) : lowerChar c ≠ [] := by
  rcases lowerChar_cases c with ⟨-, same⟩ | ⟨r, -, -, same⟩ | same <;> simp [same]

theorem lowerFrom_cons (before rest : List Char) (c : Char) :
    ∃ piece, piece ≠ [] ∧ (∀ d ∈ piece, isSpace c = false → isSpace d = false) ∧
      lowerFrom before (c :: rest) = piece ++ lowerFrom (c :: before) rest := by
  by_cases sigma : c = 'Σ'
  · subst sigma
    refine ⟨[if finalSigma before rest then 'ς' else 'σ'], by simp, ?_, by simp [lowerFrom]⟩
    intro d member _
    rw [List.mem_singleton.1 member]
    split <;> decide
  · exact ⟨lowerChar c, lowerChar_ne_nil c, fun d member solid =>
      not_space_of_mem_lowerChar member solid, by simp [lowerFrom, sigma]⟩

theorem stable_of_mem_lowerFrom {before s : List Char} {d : Char}
    (member : d ∈ lowerFrom before s) : Stable d := by
  induction s generalizing before with
  | nil => simp [lowerFrom] at member
  | cons c rest ih =>
    simp only [lowerFrom, List.mem_append] at member
    rcases member with piece | later
    · split at piece
      · rw [List.mem_singleton.1 piece]
        split
        · exact stable_written.2.2.2
        · exact stable_written.2.2.1
      · exact stable_of_mem_lowerChar ‹_› piece
    · exact ih later

theorem lowerFrom_of_stable {before s : List Char} (stable : ∀ d ∈ s, Stable d) :
    lowerFrom before s = s := by
  induction s generalizing before with
  | nil => rfl
  | cons c rest ih =>
    obtain ⟨notSigma, same⟩ := stable c (by simp)
    simp only [lowerFrom, if_neg notSigma, same, ih (fun d member => stable d (by simp [member]))]
    rfl

theorem lower_lower (s : List Char) : lower (lower s) = lower s :=
  lowerFrom_of_stable fun _ member => stable_of_mem_lowerFrom member

theorem lowerFrom_ne_nil {before s : List Char} (h : s ≠ []) : lowerFrom before s ≠ [] := by
  obtain ⟨c, rest, rfl⟩ := List.exists_cons_of_ne_nil h
  obtain ⟨piece, solid, -, same⟩ := lowerFrom_cons before rest c
  simp [same, solid]

theorem lowerFrom_head? {before s : List Char} (front : ∀ c ∈ s.head?, isSpace c = false) :
    ∀ d ∈ (lowerFrom before s).head?, isSpace d = false := by
  intro d member
  cases s with
  | nil => simp [lowerFrom] at member
  | cons c rest =>
    obtain ⟨piece, solid, spaces, same⟩ := lowerFrom_cons before rest c
    rw [same, List.head?_append_of_ne_nil _ solid] at member
    exact spaces d (List.mem_of_mem_head? member) (front c rfl)

theorem lowerFrom_getLast? {before s : List Char} (back : ∀ c ∈ s.getLast?, isSpace c = false) :
    ∀ d ∈ (lowerFrom before s).getLast?, isSpace d = false := by
  induction s generalizing before with
  | nil => simp [lowerFrom]
  | cons c rest ih =>
    intro d member
    obtain ⟨piece, solid, spaces, same⟩ := lowerFrom_cons before rest c
    rw [same] at member
    cases rest with
    | nil =>
      simp only [lowerFrom, List.append_nil] at member
      exact spaces d (List.mem_of_getLast? member) (back c rfl)
    | cons c' rest' =>
      rw [List.getLast?_append_of_ne_nil _ (lowerFrom_ne_nil (List.cons_ne_nil c' rest'))] at member
      exact ih (fun x hx => back x (by simpa using hx)) d member

theorem alnum_apart_from_space :
    alnumRanges.toList.all (fun r => spaceRanges.all fun q => r.2 < q.1 || q.2 < r.1) = true := by
  decide +kernel

theorem isSpace_of_isWord {c : Char} (word : isWord c = true) : isSpace c = false := by
  cases space : isSpace c
  · rfl
  obtain ⟨q, qmember, inside⟩ := isSpace_cover space
  simp only [isWord, Bool.or_eq_true, beq_iff_eq] at word
  rcases word with rfl | alnum
  · revert space
    decide
  · obtain ⟨r, rmember, low, high⟩ := inRanges_cover alnum
    have apart := List.all_eq_true.1 (List.all_eq_true.1 alnum_apart_from_space r rmember) q qmember
    simp only [Bool.or_eq_true, decide_eq_true_eq] at apart
    omega

end Gamebook.Unicode

namespace Gamebook.Text

section
variable {α : Type} {p : α → Bool}

theorem dropWhile_eq_self {l : List α} (front : ∀ c ∈ l.head?, p c = false) :
    l.dropWhile p = l := by
  cases l with
  | nil => rfl
  | cons c rest => simp [front c rfl]

theorem strip_eq_self {l : List α} (front : ∀ c ∈ l.head?, p c = false)
    (back : ∀ c ∈ l.getLast?, p c = false) : ((l.dropWhile p).reverse.dropWhile p).reverse = l := by
  rw [dropWhile_eq_self front, dropWhile_eq_self (by simpa using back), List.reverse_reverse]

theorem getLast?_strip (l : List α) :
    ∀ c ∈ ((l.dropWhile p).reverse.dropWhile p).reverse.getLast?, p c = false := by
  intro c member
  simp only [List.getLast?_reverse] at member
  have kept := List.head?_dropWhile_not p ((l.dropWhile p).reverse)
  rw [member] at kept
  exact kept

theorem head?_strip (l : List α) :
    ∀ c ∈ ((l.dropWhile p).reverse.dropWhile p).reverse.head?, p c = false := by
  intro c member
  simp only [List.head?_reverse] at member
  -- what is kept ends where the text without its leading part ends
  have kept : (l.dropWhile p).reverse.dropWhile p ≠ [] := by
    intro empty
    simp [empty] at member
  have suffix := (List.dropWhile_suffix p (l := (l.dropWhile p).reverse)).getLast kept
  rw [List.getLast?_eq_some_getLast kept, suffix, ← List.getLast?_eq_some_getLast,
    List.getLast?_reverse] at member
  have first := List.head?_dropWhile_not p l
  rw [Option.mem_def.1 member] at first
  exact first

theorem strip_strip (l : List α) :
    ((((l.dropWhile p).reverse.dropWhile p).reverse.dropWhile p).reverse.dropWhile p).reverse =
      ((l.dropWhile p).reverse.dropWhile p).reverse :=
  strip_eq_self (head?_strip l) (getLast?_strip l)

theorem strip_map {β : Type} {f : β → α} {q : β → Bool} (keeps : ∀ b, p (f b) = q b) (l : List β) :
    (((l.map f).dropWhile p).reverse.dropWhile p).reverse =
      ((l.dropWhile q).reverse.dropWhile q).reverse.map f := by
  have same : p ∘ f = q := funext keeps
  rw [List.dropWhile_map, same, ← List.map_reverse, List.dropWhile_map, same, ← List.map_reverse]

theorem mem_dropWhile {l : List α} {c : α} (member : c ∈ l) (kept : p c = false) :
    c ∈ l.dropWhile p := by
  rw [← List.takeWhile_append_dropWhile (p := p) (l := l), List.mem_append] at member
  rcases member with dropped | rest
  · exact absurd (List.mem_takeWhile_imp dropped) (by simp [kept])
  · exact rest

theorem mem_strip {l : List α} {c : α} (member : c ∈ l) (solid : p c = false) :
    c ∈ ((l.dropWhile p).reverse.dropWhile p).reverse := by
  rw [List.mem_reverse]
  exact mem_dropWhile (List.mem_reverse.2 (mem_dropWhile member solid)) solid

end

open Unicode

theorem trim_eq_self {l : List Char} (front : ∀ c ∈ l.head?, isSpace c = false)
    (back : ∀ c ∈ l.getLast?, isSpace c = false) : trim l = l :=
  strip_eq_self front back

theorem getLast?_trim (l : List Char) : ∀ c ∈ (trim l).getLast?, isSpace c = false :=
  getLast?_strip l

theorem head?_trim (l : List Char) : ∀ c ∈ (trim l).head?, isSpace c = false :=
  head?_strip l

theorem mem_trim {l : List Char} {c : Char} (member : c ∈ l) (solid : isSpace c = false) :
    c ∈ trim l :=
  mem_strip member solid

end Gamebook.Text

namespace Gamebook
open Unicode

theorem trim_lower_trim (l : List Char) : Text.trim (lower (Text.trim l)) = lower (Text.trim l) :=
  Text.trim_eq_self (lowerFrom_head? (Text.head?_trim l))
    (lowerFrom_getLast? (Text.getLast?_trim l))

theorem canonicalName_canonicalName (s : String) :
    canonicalName (canonicalName s) = canonicalName s := by
  unfold canonicalName
  rw [String.toList_ofList, trim_lower_trim, lower_lower]

theorem stable_of_canonical {s : String} (canonical : canonicalName s = s) :
    ∀ d ∈ s.toList, Stable d := by
  intro d member
  rw [← canonical, canonicalName, String.toList_ofList] at member
  exact stable_of_mem_lowerFrom member

theorem head?_of_canonical {s : String} (canonical : canonicalName s = s) :
    ∀ c ∈ s.toList.head?, isSpace c = false := by
  rw [← canonical, canonicalName, String.toList_ofList]
  exact lowerFrom_head? (Text.head?_trim _)

theorem canonicalName_ne_empty {cs : List Char} {c : Char} (member : c ∈ cs)
    (solid : isSpace c = false) : canonicalName (String.ofList cs) ≠ "" := by
  unfold canonicalName lower
  rw [Ne, String.ofList_eq_empty_iff, String.toList_ofList]
  exact lowerFrom_ne_nil (List.ne_nil_of_mem (Text.mem_trim member solid))

end Gamebook

namespace Gamebook.Codes
open Unicode

theorem char_toNat (c : Char) : char c.toNat = c := by
  rw [char, if_pos (valid_toNat c), Char.ofNat_toNat]

theorem chars_map_toNat (l : List Char) : chars (l.map Char.toNat) = l := by
  simp [chars, Function.comp_def, char_toNat]

theorem toString_ofString (s : String) : Codes.toString (ofString s) = s := by
  rw [Codes.toString, ofString, chars_map_toNat, String.ofList_toList]

theorem toNat_char {n : Nat} (scalar : (!isSurrogate n && n < 0x110000) = true) : (char n).toNat = n := by
  rw [char, if_pos scalar]
  simp only [Bool.and_eq_true, Bool.not_eq_true', decide_eq_true_eq, isSurrogate,
    Bool.and_eq_false_iff, decide_eq_false_iff_not, Nat.not_le] at scalar
  exact toNat_ofNat (by simp only [Nat.isValidChar]; omega)

theorem ofString_toString {cs : List Nat} (text : isString cs = true) :
    ofString (Codes.toString cs) = cs := by
  rw [ofString, Codes.toString, String.toList_ofList, chars, List.map_map]
  refine (List.map_congr_left fun n member => ?_).trans (List.map_id cs)
  exact toNat_char (List.all_eq_true.1 text n member)

theorem isSurrogate_toNat (c : Char) : isSurrogate c.toNat = false := by
  have valid := valid_toNat c
  simp only [Bool.and_eq_true, Bool.not_eq_true'] at valid
  exact valid.1

theorem isSpace_toNat (c : Char) : isSpace c.toNat = Unicode.isSpace c := by
  rw [isSpace, char_toNat]

theorem isSpace_of_isSurrogate {n : Nat} (surrogate : isSurrogate n = true) : isSpace n = false := by
  rw [isSpace, char, if_neg (by simp [surrogate])]
  decide

/-- Text with no lone surrogate: one run of lowercasing. -/
def Free (r : List Nat) : Prop := ∀ n ∈ r, isSurrogate n = false

theorem free_lowerRun (r : List Nat) : Free (lowerRun r) := by
  simp [Free, lowerRun, isSurrogate_toNat]

theorem lowerWithRun_append {run r : List Nat} (rest : List Nat) (free : Free r) :
    lowerWithRun run (r ++ rest) = lowerWithRun (r.reverse ++ run) rest := by
  induction r generalizing run with
  | nil => rfl
  | cons n r ih =>
    rw [List.cons_append, lowerWithRun, if_neg (by simp [free n (by simp)]),
      ih fun m member => free m (by simp [member])]
    simp

theorem lower_of_free {r : List Nat} (free : Free r) : lower r = lowerRun r := by
  have whole : lowerWithRun [] (r ++ []) = lowerWithRun (r.reverse ++ []) [] :=
    lowerWithRun_append [] free
  rw [List.append_nil] at whole
  rw [lower, whole, lowerWithRun, List.append_nil, List.reverse_reverse]

theorem lower_surrogate {r rest : List Nat} {n : Nat} (free : Free r) (surrogate : isSurrogate n = true) :
    lower (r ++ n :: rest) = lowerRun r ++ n :: lower rest := by
  rw [lower, lowerWithRun_append _ free, lowerWithRun, if_pos surrogate, List.append_nil,
    List.reverse_reverse, lower]

theorem free_or_split (cs : List Nat) :
    Free cs ∨ ∃ r n rest, cs = r ++ n :: rest ∧ Free r ∧ isSurrogate n = true := by
  cases split : cs.dropWhile (fun n => !isSurrogate n) with
  | nil =>
    left
    intro n member
    have all := List.dropWhile_eq_nil_iff.1 split n member
    simpa using all
  | cons n rest =>
    right
    have whole := List.takeWhile_append_dropWhile (p := fun n => !isSurrogate n) (l := cs)
    have first := List.head?_dropWhile_not (fun n => !isSurrogate n) cs
    rw [split] at whole first
    simp only [List.head?_cons, Bool.not_eq_false'] at first
    refine ⟨_, n, rest, whole.symm, fun m member => ?_, first⟩
    simpa using List.mem_takeWhile_imp member

theorem lowerRun_lowerRun (r : List Nat) : lowerRun (lowerRun r) = lowerRun r := by
  rw [lowerRun, lowerRun, chars_map_toNat, lower_lower]

theorem lower_lower (cs : List Nat) : lower (lower cs) = lower cs := by
  induction h : cs.length using Nat.strongRecOn generalizing cs with
  | ind k ih =>
    rcases free_or_split cs with free | ⟨r, n, rest, rfl, free, surrogate⟩
    · rw [lower_of_free free, lower_of_free (free_lowerRun cs), lowerRun_lowerRun]
    · have shorter : rest.length < k := by simp at h; omega
      rw [lower_surrogate free surrogate, lower_surrogate (free_lowerRun r) surrogate,
        lowerRun_lowerRun, ih rest.length shorter rest rfl]

theorem lowerRun_ne_nil {r : List Nat} (h : r ≠ []) : lowerRun r ≠ [] := by
  rw [lowerRun, Ne, List.map_eq_nil_iff]
  exact lowerFrom_ne_nil (by simpa [chars] using h)

theorem lowerRun_head? {r : List Nat} (front : ∀ n ∈ r.head?, isSpace n = false) :
    ∀ m ∈ (lowerRun r).head?, isSpace m = false := by
  intro m member
  simp only [lowerRun, List.head?_map, Option.mem_def, Option.map_eq_some_iff] at member
  obtain ⟨d, first, rfl⟩ := member
  rw [isSpace_toNat]
  refine lowerFrom_head? (fun c member => ?_) d first
  simp only [chars, List.head?_map, Option.mem_def, Option.map_eq_some_iff] at member
  obtain ⟨n, head, rfl⟩ := member
  exact front n head

theorem lowerRun_getLast? {r : List Nat} (back : ∀ n ∈ r.getLast?, isSpace n = false) :
    ∀ m ∈ (lowerRun r).getLast?, isSpace m = false := by
  intro m member
  simp only [lowerRun, List.getLast?_map, Option.mem_def, Option.map_eq_some_iff] at member
  obtain ⟨d, last, rfl⟩ := member
  rw [isSpace_toNat]
  refine lowerFrom_getLast? (fun c member => ?_) d last
  simp only [chars, List.getLast?_map, Option.mem_def, Option.map_eq_some_iff] at member
  obtain ⟨n, final, rfl⟩ := member
  exact back n final

theorem lower_head? {cs : List Nat} (front : ∀ n ∈ cs.head?, isSpace n = false) :
    ∀ m ∈ (lower cs).head?, isSpace m = false := by
  rcases free_or_split cs with free | ⟨r, n, rest, rfl, free, surrogate⟩
  · rw [lower_of_free free]
    exact lowerRun_head? front
  · rw [lower_surrogate free surrogate]
    cases r with
    | nil =>
      intro m member
      simp only [lowerRun, chars, List.map_nil, Unicode.lower, lowerFrom, List.nil_append,
        List.head?_cons, Option.mem_def, Option.some.injEq] at member
      rw [← member]
      exact isSpace_of_isSurrogate surrogate
    | cons a r =>
      rw [List.head?_append_of_ne_nil _ (lowerRun_ne_nil (List.cons_ne_nil a r))]
      exact lowerRun_head? fun n member => front n (by simpa using member)

theorem lower_getLast? {cs : List Nat} (back : ∀ n ∈ cs.getLast?, isSpace n = false) :
    ∀ m ∈ (lower cs).getLast?, isSpace m = false := by
  induction h : cs.length using Nat.strongRecOn generalizing cs with
  | ind k ih =>
    rcases free_or_split cs with free | ⟨r, n, rest, rfl, free, surrogate⟩
    · rw [lower_of_free free]
      exact lowerRun_getLast? back
    · rw [lower_surrogate free surrogate, List.getLast?_append_of_ne_nil _ (List.cons_ne_nil _ _)]
      cases rest with
      | nil =>
        intro m member
        simp only [lower, lowerWithRun, lowerRun, chars, List.reverse_nil, List.map_nil,
          Unicode.lower, lowerFrom, List.getLast?_singleton, Option.mem_def,
          Option.some.injEq] at member
        rw [← member]
        exact isSpace_of_isSurrogate surrogate
      | cons a rest =>
        have shorter : (a :: rest).length < k := by simp at h ⊢; omega
        have later := ih _ shorter (fun m member => back m (by simpa using member)) rfl
        intro m member
        cases after : lower (a :: rest) with
        | nil => simp [after] at member; rw [← member]; exact isSpace_of_isSurrogate surrogate
        | cons b more =>
          rw [after, List.getLast?_cons_cons] at member
          exact later m (by rw [after]; simpa using member)

theorem trim_lower_trim (cs : List Nat) : trim (lower (trim cs)) = lower (trim cs) :=
  Text.strip_eq_self (lower_head? (Text.head?_strip cs)) (lower_getLast? (Text.getLast?_strip cs))

theorem canonical_canonical (cs : List Nat) : canonical (canonical cs) = canonical cs := by
  rw [canonical, canonical, trim_lower_trim, lower_lower]

theorem canonical_ofString (s : String) : canonical (ofString s) = ofString (canonicalName s) := by
  have trimmed : trim (s.toList.map Char.toNat) = (Text.trim s.toList).map Char.toNat := by
    simp only [trim, Text.trim, List.dropWhile_map, ← List.map_reverse, Function.comp_def, isSpace_toNat]
  rw [canonical, ofString, trimmed, lower_of_free (by simp [Free, isSurrogate_toNat]), lowerRun,
    chars_map_toNat, canonicalName, ofString, String.toList_ofList]

end Gamebook.Codes

namespace Gamebook
open Unicode

/-- Canonicalizing twice is canonicalizing once. Lowercasing by the full mapping, the dotted
capital I and the final sigma included, is idempotent on every text; and it puts no white space
at either end of a stripped text, so the second strip removes nothing. The same holds of text as
code points, where lone surrogates bound the runs that are lowercased. -/
theorem canonicalName_idempotent :
    (∀ t : List Char, lower (lower t) = lower t) ∧
    (∀ t : List Char, Text.trim (lower (Text.trim t)) = lower (Text.trim t)) ∧
    (∀ s : String, canonicalName (canonicalName s) = canonicalName s) ∧
    ∀ cs : List Nat, Codes.canonical (Codes.canonical cs) = Codes.canonical cs :=
  ⟨lower_lower, trim_lower_trim, canonicalName_canonicalName, Codes.canonical_canonical⟩

end Gamebook

namespace Gamebook.Name

theorem isByteSpace_lowerByte : ∀ b : UInt8, isByteSpace (lowerByte b) = isByteSpace b := by
  decide +kernel

theorem lowerByte_lowerByte : ∀ b : UInt8, lowerByte (lowerByte b) = lowerByte b := by
  decide +kernel

theorem canonical_canonical : ∀ k : Name, k.canonical.canonical = k.canonical
  | text cs => by rw [canonical, canonical, Codes.canonical_canonical]
  | bytes bs => by
    rw [canonical, canonical, Text.strip_map isByteSpace_lowerByte, Text.strip_strip,
      List.map_map]
    congr 2
    funext b
    exact lowerByte_lowerByte b

theorem canonical_ofString (s : String) : (ofString s).canonical = ofString (canonicalName s) := by
  rw [ofString, canonical, Codes.canonical_ofString, ofString]

end Gamebook.Name
