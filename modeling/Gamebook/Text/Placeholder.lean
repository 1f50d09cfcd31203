import Gamebook.Unicode.Class
/- Placeholders in text: `{name}`, where the name is a run of word characters and blanks may stand
   inside the braces. Text is scanned from the left; a placeholder that is replaced is not looked
   at again. -/
namespace Gamebook.Text
open Unicode

/-- The placeholder at the front of a text: its name and the text after it. -/
def placeholder? : List Char → Option (List Char × List Char)
  | '{' :: rest =>
    match ((rest.dropWhile isSpace).dropWhile isWord).dropWhile isSpace,
        (rest.dropWhile isSpace).takeWhile isWord with
    | '}' :: after, name@(_ :: _) => some (name, after)
    | _, _ => none
  | _ => none

theorem placeholder?_rest_lt {cs name after : List Char}
    (h : placeholder? cs = some (name, after)) : after.length < cs.length := by
  unfold placeholder? at h
  split at h
  · rename_i rest
    split at h
    · rename_i after' _ _ heq _
      simp only [Option.some.injEq, Prod.mk.injEq] at h
      obtain ⟨-, rfl⟩ := h
      have h1 := (List.dropWhile_suffix (l := rest) isSpace).length_le
      have h2 := (List.dropWhile_suffix (l := rest.dropWhile isSpace) isWord).length_le
      have h3 := (List.dropWhile_suffix
        (l := (rest.dropWhile isSpace).dropWhile isWord) isSpace).length_le
      rw [heq] at h3
      simp only [List.length_cons] at h3 ⊢
      omega
    · simp at h
  · simp at h

/-- Replace every placeholder by `f` of its name. -/
def fill (f : List Char → List Char) : List Char → List Char
  | [] => []
  | c :: rest =>
    match _h : placeholder? (c :: rest) with
    | some (name, after) => f name ++ fill f after
    | none => c :: fill f rest
termination_by cs => cs.length
decreasing_by
  · exact placeholder?_rest_lt _h
  · simp

/-- The names of the placeholders of a text, in order. -/
def placeholderNames : List Char → List (List Char)
  | [] => []
  | c :: rest =>
    match _h : placeholder? (c :: rest) with
    | some (name, after) => name :: placeholderNames after
    | none => placeholderNames rest
termination_by cs => cs.length
decreasing_by
  · exact placeholder?_rest_lt _h
  · simp

end Gamebook.Text
