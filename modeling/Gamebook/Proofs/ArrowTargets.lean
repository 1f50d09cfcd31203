import Mathlib
import Gamebook.Proofs.MarkupReading
/- A page and the links to it are spelled alike. A header line reads its page name after the first
   arrow that is followed, past white space, by a word character; a choice line reads its link the
   same way after its opening star. Text before the arrow in which no arrow stands is skipped by
   that search, so a header `-> s` and a choice `* t -> s` whose label has no arrow find their
   arrows at the same place of `s`: the same name, or none on both lines. Main statement:
   `Markup.header_and_choice_name_alike`. -/

namespace Gamebook

namespace Text
open Unicode

theorem trimRight_append_solid (pre rest : List Char)
    (solid : ∀ c ∈ pre.getLast?, isSpace c = false) :
    trimRight (pre ++ rest) = pre ++ trimRight rest := by
  unfold trimRight
  rw [List.reverse_append, List.dropWhile_append]
  split
  · next blank =>
    have front : ∀ c ∈ pre.reverse.head?, isSpace c = false := by
      simpa [List.head?_reverse] using solid
    rw [dropWhile_eq_self front, List.reverse_reverse]
    have gone : (rest.reverse.dropWhile isSpace) = [] := List.isEmpty_iff.1 blank
    simp [gone]
  · simp

theorem trim_of_solid_front {c : Char} (rest : List Char) (solid : isSpace c = false) :
    trim (c :: rest) = trimRight (c :: rest) := by
  unfold trim trimRight
  rw [List.dropWhile_cons_of_neg (by simp [solid])]

end Text

namespace Markup
open Unicode

theorem splitAtArrow_cons_other {c : Char} {rest : List Char}
    (notArrow : ¬ (c = '-' ∧ rest.head? = some '>')) :
    splitAtArrow (c :: rest) = (splitAtArrow rest).map fun p => (c :: p.1, p.2) := by
  rw [splitAtArrow.eq_3 c rest fun more dash next => notArrow ⟨dash, by simp [next]⟩]

theorem noArrow_iff_isChain (l : List Char) :
    ¬ ['-', '>'] <:+: l ↔ l.IsChain fun a b => ¬ (a = '-' ∧ b = '>') := by
  induction l with
  | nil => simp
  | cons c l ih =>
    rw [List.infix_cons_iff, not_or, ih, List.isChain_cons, and_congr_left_iff]
    intro _
    cases l <;> simp [eq_comm]

theorem splitAtArrow_append_plain {pre rest : List Char}
    (plain : (pre ++ rest.take 1).IsChain fun a b => ¬ (a = '-' ∧ b = '>')) :
    splitAtArrow (pre ++ rest) = (splitAtArrow rest).map fun p => (pre ++ p.1, p.2) := by
  induction pre with
  | nil => simp
  | cons c pre ih =>
    rw [List.cons_append, List.isChain_cons] at plain
    obtain ⟨first, later⟩ := plain
    have notArrow : ¬ (c = '-' ∧ (pre ++ rest).head? = some '>') := by
      rintro ⟨dash, next⟩
      apply first '>' _ ⟨dash, rfl⟩
      cases pre <;> cases rest <;> simp_all
    rw [List.cons_append, splitAtArrow_cons_other notArrow, ih later, Option.map_map]
    rfl

/-- The header line `-> s` and the choice line `* t -> s`, trimmed as significant lines are, find
the same name or none: the search both readers run after the header's start and after the
choice's star stops at the same arrow of `s`, whatever `s` holds (arrows, a start that is no
word character, white space at its end), as long as the label `t` has no arrow. The page a
header `-> s` declares is thus, in canonical form, the page a choice `... -> s` links to. -/
theorem header_and_choice_name_alike (s t : List Char) (plain : ¬ ['-', '>'] <:+: t) :
    ∃ rest, Text.trim ('*' :: ' ' :: (t ++ ' ' :: '-' :: '>' :: ' ' :: s)) = '*' :: rest ∧
      (splitAtArrow (Text.trim ('-' :: '>' :: ' ' :: s))).map Prod.snd =
        (splitAtArrow rest).map Prod.snd := by
  have header : Text.trim ('-' :: '>' :: ' ' :: s) = '-' :: '>' :: Text.trimRight (' ' :: s) := by
    rw [Text.trim_of_solid_front _ (by decide)]
    exact Text.trimRight_append_solid ['-', '>'] (' ' :: s) (by simp; decide)
  have choice : Text.trim ('*' :: ' ' :: (t ++ ' ' :: '-' :: '>' :: ' ' :: s)) =
      '*' :: ((' ' :: t ++ [' ']) ++ '-' :: '>' :: Text.trimRight (' ' :: s)) := by
    rw [Text.trim_of_solid_front _ (by decide)]
    have split : '*' :: ' ' :: (t ++ ' ' :: '-' :: '>' :: ' ' :: s) =
        ('*' :: ' ' :: t ++ [' ', '-', '>']) ++ ' ' :: s := by simp
    have last : ('*' :: ' ' :: t ++ [' ', '-', '>']).getLast? = some '>' := by
      rw [List.getLast?_append]
      simp
    rw [split, Text.trimRight_append_solid _ _ (by rw [last]; simp; decide)]
    simp
  have skipped : ((' ' :: t ++ [' ']) ++ ('-' :: '>' :: Text.trimRight (' ' :: s)).take 1).IsChain
      fun a b => ¬ (a = '-' ∧ b = '>') := by
    have label := (noArrow_iff_isChain t).1 plain
    simp only [List.take_succ_cons, List.take_zero, List.cons_append, List.append_assoc]
    rw [List.isChain_cons, List.isChain_append]
    refine ⟨by cases t <;> simp, label, by simp, ?_⟩
    intro x _ y first
    simp at first
    simp [← first]
  refine ⟨_, choice, ?_⟩
  rw [header, splitAtArrow_append_plain skipped, Option.map_map]
  rfl

/-- A header and a choice whose target itself holds an arrow, with a space at its end: the
first arrow of both lines is followed by a second arrow rather than a word, and both read `Hall`
after the second. -/
theorem stair_arrows_alike :
    ¬ ['-', '>'] <:+: "Go up".toList ∧
      ∃ rest, Text.trim ('*' :: ' ' :: ("Go up".toList ++ ' ' :: '-' :: '>' :: ' ' :: "-> Hall ".toList)) =
          '*' :: rest ∧
        (splitAtArrow (Text.trim ('-' :: '>' :: ' ' :: "-> Hall ".toList))).map Prod.snd =
          (splitAtArrow rest).map Prod.snd :=
  ⟨by decide, header_and_choice_name_alike _ _ (by decide)⟩

end Markup

end Gamebook
