import Mathlib
import Gamebook.Proofs.JsonScalars
import Gamebook.Proofs.JsonReading
/- What the JSON reader makes of the text the writer writes for objects. An object is read member
   by member, each key set after the ones before it; when its keys are texts in increasing order of
   their code points, the writer keeps that order and setting them one after another builds the
   same map. Data made of plain text, integers within the digit limit and such objects
   (`Json.Plain`) is read back from its text by induction on its nesting, with the fuel the whole
   text gives and room for the nesting. Main statement: `Json.Plain.read_render`. -/

namespace Gamebook.Json

/-- The text of a member of an object: its quoted key, a colon and a space, and its value. -/
def memberText (key : List Nat) (text : String) : String := quoteCodes true key ++ ": " ++ text

theorem toList_memberText (key : List Nat) (text : String) :
    (memberText key text).toList = (quoteCodes true key).toList ++ ':' :: ' ' :: text.toList := by
  simp only [memberText, String.toList_append, List.append_assoc]
  rfl

theorem length_memberText (key : List Nat) (text : String) :
    (memberText key text).length = (quoteCodes true key).length + 2 + text.length := by
  simp only [← String.length_toList, toList_memberText, List.length_append, List.length_cons]
  omega

theorem valueEnd_eq (i : Nat) (key : List Nat) (text : String) :
    i + (quoteCodes true key).length + 2 + text.length = i + (memberText key text).length := by
  rw [length_memberText]
  omega

/-- The members of an object, apart by a comma and a blank. -/
def membersText (text : Value → String) (ms : List (List Nat × Value)) : String :=
  ", ".intercalate (ms.map fun m => memberText m.1 (text m.2))

/-- The text of an object: its members between braces. -/
def objectText (text : Value → String) (ms : List (List Nat × Value)) : String :=
  "\x7b" ++ membersText text ms ++ "\x7d"

theorem member_key {s : Array Char} {i : Nat} {key : List Nat} {text : String} {rest : List Char}
    {c : Char} {t : List Char} (plain : PlainText key)
    (h : remaining s i = (memberText key text).toList ++ rest)
    (first : text.toList = c :: t) (solid : isBlank c = false) :
    s[i]? = some '"' ∧
      readString s i (i + 1) [] = .ok (key, i + (quoteCodes true key).length) ∧
      skipBlank s (i + (quoteCodes true key).length) = i + (quoteCodes true key).length ∧
      s[i + (quoteCodes true key).length]? = some ':' ∧
      skipBlank s (i + (quoteCodes true key).length + 1) = i + (quoteCodes true key).length + 2 := by
  rw [toList_memberText, first, List.append_assoc] at h
  have colon := remaining_append h
  simp only [String.length_toList, List.cons_append] at colon
  refine ⟨by simpa [quoteCodes] using getElem?_of_remaining h 0, readString_quotedCodes plain h,
    skipBlank_of_not_blank colon rfl, (remaining_cons colon).1, ?_⟩
  rw [skipBlank_space (remaining_cons colon).2 solid]

theorem readMembers_close {s : Array Char} {i room fuel : Nat} {acc : List (Value × Value)}
    {key : List Nat} {text : String} {v : Value} {rest : List Char} {c : Char} {t : List Char}
    (plain : PlainText key) (h : remaining s i = (memberText key text).toList ++ '}' :: rest)
    (first : text.toList = c :: t) (solid : isBlank c = false)
    (reads : readValue s (i + (quoteCodes true key).length + 2) room fuel =
      .ok (v, i + (memberText key text).length)) :
    readMembers s i room acc (fuel + 1) =
      .ok (.map (Value.setKey acc (.ofCodes key) v), i + (memberText key text).length + 1) := by
  obtain ⟨opening, keyRead, colonAt, colon, valueAt⟩ := member_key plain h first solid
  have closing := remaining_append h
  rw [String.length_toList] at closing
  rw [readMembers.eq_def]
  simp only [opening, keyRead, colonAt, colon, valueAt, reads,
    skipBlank_of_not_blank closing rfl, (remaining_cons closing).1, bne_self_eq_false,
    beq_self_eq_true, Bool.false_eq_true, ↓reduceIte]

theorem readMembers_next {s : Array Char} {i room fuel : Nat} {acc : List (Value × Value)}
    {key : List Nat} {text : String} {v : Value} {rest : List Char} {c c' : Char} {t : List Char}
    (plain : PlainText key) (h : remaining s i = (memberText key text).toList ++ ',' :: ' ' :: c' :: rest)
    (first : text.toList = c :: t) (solid : isBlank c = false) (solid' : isBlank c' = false)
    (reads : readValue s (i + (quoteCodes true key).length + 2) room fuel =
      .ok (v, i + (memberText key text).length)) :
    readMembers s i room acc (fuel + 1) =
      readMembers s (i + (memberText key text).length + 2) room (Value.setKey acc (.ofCodes key) v)
        fuel := by
  obtain ⟨opening, keyRead, colonAt, colon, valueAt⟩ := member_key plain h first solid
  have comma := remaining_append h
  rw [String.length_toList] at comma
  rw [readMembers.eq_def]
  simp only [opening, keyRead, colonAt, colon, valueAt, reads,
    skipBlank_of_not_blank comma rfl, (remaining_cons comma).1,
    skipBlank_space (remaining_cons comma).2 solid', bne_self_eq_false, Bool.false_eq_true,
    ↓reduceIte, (by decide : (some ',' == some '}') = false)]

theorem remaining_value {s : Array Char} {i : Nat} {key : List Nat} {text : String}
    {rest : List Char} (h : remaining s i = (memberText key text).toList ++ rest) :
    remaining s (i + (quoteCodes true key).length + 2) = text.toList ++ rest := by
  rw [toList_memberText, List.append_assoc] at h
  have value := remaining_append h
  simp only [String.length_toList, List.cons_append] at value
  have := (remaining_cons (remaining_cons value).2).2
  rwa [Nat.add_assoc]

theorem members_head (text : Value → String) (m : List Nat × Value)
    (ms : List (List Nat × Value)) : ∃ more, (membersText text (m :: ms)).toList = '"' :: more := by
  rw [membersText, List.map_cons, show memberText m.1 (text m.2) = "\"" ++
    (String.join (m.1.map (escapeCode true)) ++ "\"" ++ ": " ++ text m.2) by
      simp only [memberText, quoteCodes, String.append_assoc], String.intercalate_cons_append,
    String.toList_append]
  exact ⟨_, rfl⟩

theorem readMembers_members {s : Array Char} {room need : Nat} (text : Value → String) :
    ∀ (ms : List (List Nat × Value)) (acc : List (Value × Value)) (i fuel : Nat)
      (rest : List Char),
      ms ≠ [] → (∀ m ∈ ms, PlainText m.1) →
      (∀ m ∈ ms, ∃ c t, (text m.2).toList = c :: t ∧ isBlank c = false) →
      remaining s i = (membersText text ms).toList ++ '}' :: rest →
      (∀ m ∈ ms, ∀ j f t, need ≤ f → remaining s j = (text m.2).toList ++ t →
        (∀ c ∈ t.head?, c = ',' ∨ c = '}') →
        readValue s j room f = .ok (m.2, j + (text m.2).length)) →
      ms.length + need ≤ fuel →
      readMembers s i room acc fuel =
        .ok (.map (ms.foldl (fun a m => Value.setKey a (.ofCodes m.1) m.2) acc),
          i + (membersText text ms).length + 1)
  | [], _, _, _, _, nonempty, _, _, _, _, _ => absurd rfl nonempty
  | [m], acc, i, fuel, rest, _, keys, starts, h, reads, enough => by
    simp only [List.length_singleton] at enough
    obtain ⟨f, rfl⟩ : ∃ f, fuel = f + 1 := ⟨fuel - 1, by omega⟩
    obtain ⟨c, t, first, solid⟩ := starts m List.mem_cons_self
    simp only [membersText, List.map_cons, List.map_nil, String.intercalate_singleton] at h ⊢
    have value := reads m List.mem_cons_self _ f _ (by omega) (remaining_value h) (by simp)
    rw [valueEnd_eq] at value
    rw [readMembers_close (keys m List.mem_cons_self) h first solid value]
    rfl
  | m :: m' :: ms, acc, i, fuel, rest, _, keys, starts, h, reads, enough => by
    simp only [List.length_cons] at enough
    obtain ⟨f, rfl⟩ : ∃ f, fuel = f + 1 := ⟨fuel - 1, by omega⟩
    obtain ⟨c, t, first, solid⟩ := starts m List.mem_cons_self
    obtain ⟨more, nextQuote⟩ := members_head text m' ms
    have split : membersText text (m :: m' :: ms) =
        memberText m.1 (text m.2) ++ ", " ++ membersText text (m' :: ms) := by
      rw [membersText, List.map_cons, String.intercalate_cons_of_ne_nil (by simp), membersText]
    rw [split, String.toList_append, String.toList_append, List.append_assoc,
      List.append_assoc] at h
    have later := remaining_append h
    rw [String.length_toList] at later
    have next : remaining s (i + (memberText m.1 (text m.2)).length + 2) =
        (membersText text (m' :: ms)).toList ++ '}' :: rest :=
      (remaining_cons (remaining_cons later).2).2
    rw [nextQuote] at h
    have value := reads m List.mem_cons_self _ f _ (by omega) (remaining_value h) (by simp)
    rw [valueEnd_eq] at value
    have commaLength : ", ".length = 2 := rfl
    rw [readMembers_next (keys m List.mem_cons_self) h first solid rfl value,
      readMembers_members text (m' :: ms) _ _ f rest (by simp)
      (fun m'' member => keys m'' (List.mem_cons_of_mem _ member))
      (fun m'' member => starts m'' (List.mem_cons_of_mem _ member)) next
      (fun m'' member => reads m'' (List.mem_cons_of_mem _ member)) (by simp; omega),
      split, String.length_append, String.length_append, commaLength]
    simp only [List.foldl_cons, Nat.add_assoc]

theorem readValue_object {s : Array Char} {i room fuel : Nat} (need : Nat) (text : Value → String)
    (ms : List (List Nat × Value)) {rest : List Char} (keys : ∀ m ∈ ms, PlainText m.1)
    (starts : ∀ m ∈ ms, ∃ c t, (text m.2).toList = c :: t ∧ isBlank c = false)
    (h : remaining s i = (objectText text ms).toList ++ rest)
    (reads : ∀ m ∈ ms, ∀ j f t, need ≤ f → remaining s j = (text m.2).toList ++ t →
      (∀ c ∈ t.head?, c = ',' ∨ c = '}') →
      readValue s j room f = .ok (m.2, j + (text m.2).length))
    (enough : ms.length + need ≤ fuel) :
    readValue s i (room + 1) (fuel + 1) =
      .ok (.map (ms.foldl (fun a m => Value.setKey a (.ofCodes m.1) m.2) []),
        i + (objectText text ms).length) := by
  simp only [objectText, String.toList_append, List.append_assoc] at h
  have opening : s[i]? = some '{' := (remaining_cons h).1
  have inner := (remaining_cons h).2
  rw [readValue.eq_def]
  simp only [opening]
  cases ms with
  | nil =>
    have closing : s[i + 1]? = some '}' := (remaining_cons inner).1
    simp only [skipBlank_of_not_blank inner rfl, closing, beq_self_eq_true, ↓reduceIte,
      List.foldl_nil, objectText, membersText, List.map_nil, String.intercalate_nil]
    rfl
  | cons m ms =>
    obtain ⟨more, first⟩ := members_head text m ms
    have members := inner
    rw [first] at inner
    simp only [skipBlank_of_not_blank inner rfl, (remaining_cons inner).1,
      (by decide : (some '"' == some '}') = false), Bool.false_eq_true, ↓reduceIte]
    have braceLength : "\x7b".length = 1 ∧ "\x7d".length = 1 := ⟨rfl, rfl⟩
    rw [readMembers_members text (m :: ms) [] (i + 1) fuel rest (by simp) keys starts members reads
      enough]
    simp only [objectText, String.length_append, braceLength, Nat.add_assoc]

theorem renderMembers_eq (o : Style) :
    ∀ entries : List (Value × Value),
      renderMembers o entries = entries.map fun e => (keyCodes e.1, render o e.2)
  | [] => by rw [renderMembers]; rfl
  | (k, v) :: rest => by rw [renderMembers, renderMembers_eq o rest]; rfl

theorem keyCodes_ofCodes (cs : List Nat) : keyCodes (.ofCodes cs) = cs := by
  unfold Value.ofCodes
  split
  · exact Codes.ofString_toString (by assumption)
  · rfl

theorem render_ofCodes (o : Style) (cs : List Nat) : render o (.ofCodes cs) = quoteCodes o.ascii cs := by
  unfold Value.ofCodes
  split
  · rename_i text
    rw [render, quote_eq_quoteCodes, Codes.ofString_toString text]
  · rw [render]

theorem keyLe_iff_not_lex : ∀ {a b : List Nat}, keyLe a b = true ↔ ¬ List.Lex (· < ·) b a
  | [], b => by simp [keyLe]
  | x :: xs, [] => by simp [keyLe]
  | x :: xs, y :: ys => by
    rw [keyLe, List.cons_lex_cons_iff, Bool.or_eq_true, Bool.and_eq_true, beq_iff_eq,
      decide_eq_true_iff, keyLe_iff_not_lex]
    rcases lt_trichotomy x y with lt | same | gt
    · simp [lt, lt.ne', not_lt_of_gt lt]
    · simp [same]
    · simp [gt.ne', not_lt_of_gt gt, gt]

theorem keyLe_iff {a b : List Nat} : keyLe a b = true ↔ a ≤ b := by
  rw [keyLe_iff_not_lex, List.lex_lt]
  exact not_lt

theorem keyLe_of_lt {a b : List Nat} (lt : a < b) : keyLe a b = true := keyLe_iff.2 lt.le

theorem keyLe_trans {a b c : List Nat} (ab : keyLe a b = true) (bc : keyLe b c = true) :
    keyLe a c = true :=
  keyLe_iff.2 ((keyLe_iff.1 ab).trans (keyLe_iff.1 bc))

theorem keyLe_total (a b : List Nat) : (keyLe a b || keyLe b a) = true := by
  rw [Bool.or_eq_true, keyLe_iff, keyLe_iff]
  exact le_total a b

theorem render_sorted (ms : List (List Nat × Value)) (sorted : ms.Pairwise fun a b => a.1 < b.1) :
    render ⟨true, true⟩ (.map (ms.map fun m => (.ofCodes m.1, m.2))) =
      objectText (render ⟨true, true⟩) ms := by
  have inOrder : ((ms.map fun m => (.ofCodes m.1, m.2)).map fun e =>
      (keyCodes e.1, render ⟨true, true⟩ e.2)).Pairwise fun a b => keyLe a.1 b.1 = true := by
    simp only [List.map_map, List.pairwise_map, Function.comp_apply, keyCodes_ofCodes]
    exact sorted.imp keyLe_of_lt
  rw [render]
  simp only [renderMembers_eq, ↓reduceIte]
  rw [List.mergeSort_of_pairwise inOrder, List.map_map, List.map_map, objectText, membersText]
  simp only [Function.comp_def, keyCodes_ofCodes]
  rfl

theorem length_le_intercalate :
    ∀ (l : List String), ∀ x ∈ l, x.length + l.length ≤ (", ".intercalate l).length + 1
  | [], _, member => absurd member List.not_mem_nil
  | [a], x, member => by
    rw [List.mem_singleton] at member
    subst member
    simp
  | a :: b :: l, x, member => by
    have commaLength : ", ".length = 2 := rfl
    have rest := length_le_intercalate (b :: l) b List.mem_cons_self
    rw [String.intercalate_cons_cons, String.length_append, String.length_append, commaLength]
    rcases List.mem_cons.1 member with rfl | later
    · simp only [List.length_cons] at rest ⊢
      omega
    · have := length_le_intercalate (b :: l) x later
      simp only [List.length_cons] at this ⊢
      omega

theorem length_quoteCodes (o : Bool) (k : List Nat) :
    (quoteCodes o k).length = (String.join (k.map (escapeCode o))).length + 2 := by
  simp only [quoteCodes, String.length_append]
  have quoteLength : "\"".length = 1 := rfl
  omega

theorem length_value_lt_objectText (text : Value → String) {ms : List (List Nat × Value)}
    {m : List Nat × Value} (member : m ∈ ms) :
    (text m.2).length + ms.length + 1 ≤ (objectText text ms).length := by
  have braceLength : "\x7b".length = 1 ∧ "\x7d".length = 1 := ⟨rfl, rfl⟩
  have := length_le_intercalate _ _
    (List.mem_map_of_mem (f := fun m => memberText m.1 (text m.2)) member)
  rw [List.length_map, length_memberText, length_quoteCodes] at this
  simp only [objectText, membersText, String.length_append, braceLength]
  omega

theorem length_lt_objectText (text : Value → String) :
    ∀ ms : List (List Nat × Value), ms.length + 1 ≤ (objectText text ms).length
  | [] => by
    simp only [objectText, membersText, List.map_nil, String.intercalate_nil]
    decide
  | m :: more => by
    have := length_value_lt_objectText text (List.mem_cons_self (a := m) (l := more))
    omega

theorem isBlank_of_isDigit {c : Char} (digit : isDigit c = true) : isBlank c = false := by
  simp only [isBlank, Bool.or_eq_false_iff, beq_eq_false_iff_ne, ne_eq]
  refine ⟨⟨⟨?_, ?_⟩, ?_⟩, ?_⟩ <;> rintro rfl <;> exact absurd digit (by decide)

theorem sameKey_ofCodes (a b : List Nat) : Value.sameKey (.ofCodes a) (.ofCodes b) = (a == b) := by
  unfold Value.ofCodes
  split <;> split
  · rename_i textA textB
    simp only [Value.sameKey, beq_eq_beq]
    constructor
    · intro same
      rw [← Codes.ofString_toString textA, ← Codes.ofString_toString textB, same]
    · rintro rfl
      rfl
  · rename_i textA notText
    simp only [Value.sameKey, Value.intValue?]
    exact (beq_eq_false_iff_ne.2 fun (same : a = b) => notText (same ▸ textA)).symm
  · rename_i notText textB
    simp only [Value.sameKey, Value.intValue?]
    exact (beq_eq_false_iff_ne.2 fun (same : a = b) => notText (same ▸ textB)).symm
  · rfl

theorem setKey_fresh {k v : Value} :
    ∀ {acc : List (Value × Value)}, (∀ e ∈ acc, Value.sameKey e.1 k = false) →
      Value.setKey acc k v = acc ++ [(k, v)]
  | [], _ => rfl
  | (k', v') :: rest, fresh => by
    rw [Value.setKey, if_neg (by simpa using fresh (k', v') List.mem_cons_self),
      setKey_fresh fun e member => fresh e (List.mem_cons_of_mem _ member)]
    rfl

theorem foldl_setKey_sorted :
    ∀ {ms : List (List Nat × Value)} {acc : List (Value × Value)},
      ms.Pairwise (fun a b => a.1 < b.1) →
      (∀ m ∈ ms, ∀ e ∈ acc, Value.sameKey e.1 (.ofCodes m.1) = false) →
      ms.foldl (fun a m => Value.setKey a (.ofCodes m.1) m.2) acc =
        acc ++ ms.map fun m => (.ofCodes m.1, m.2)
  | [], acc, _, _ => by simp
  | m :: ms, acc, sorted, fresh => by
    rw [List.pairwise_cons] at sorted
    rw [List.foldl_cons, setKey_fresh (fresh m List.mem_cons_self), foldl_setKey_sorted sorted.2]
    · simp
    · intro m' member e listed
      rcases List.mem_append.1 listed with old | new
      · exact fresh m' (List.mem_cons_of_mem _ member) e old
      · rw [List.mem_singleton] at new
        subst new
        rw [sameKey_ofCodes, beq_eq_false_iff_ne]
        exact ne_of_lt (sorted.1 m' member)

/-- Data that the writer writes and the reader reads back unchanged, with objects nested at most
`depth` deep: plain text, integers within the digit limit, and objects whose keys are plain texts
in increasing order of their code points. -/
inductive Plain : Nat → Value → Prop
  | text {depth : Nat} {cs : List Nat} (plain : PlainText cs) : Plain depth (.ofCodes cs)
  | int {depth : Nat} {x : Int} (fits : Number.fitsDigitLimit x = true) : Plain depth (.int x)
  | map {depth : Nat} {ms : List (List Nat × Value)} (keys : ∀ m ∈ ms, PlainText m.1)
      (sorted : ms.Pairwise fun a b => a.1 < b.1) (members : ∀ m ∈ ms, Plain depth m.2) :
      Plain (depth + 1) (.map (ms.map fun m => (.ofCodes m.1, m.2)))

theorem Plain.str {depth : Nat} (s : String) : Plain depth (.str s) :=
  ofCodes_ofString s ▸ .text (plainText_ofString s)

theorem Plain.starts {depth : Nat} {v : Value} (plain : Plain depth v) :
    ∃ c t, (render ⟨true, true⟩ v).toList = c :: t ∧ isBlank c = false ∧
      c ≠ '\uFEFF' := by
  cases plain with
  | @text _ cs _ =>
    refine ⟨'"', (String.join (cs.map (escapeCode true))).toList ++ ['"'], ?_, rfl,
      by decide⟩
    simp only [render_ofCodes, quoteCodes, String.toList_append, List.append_assoc]
    rfl
  | @int _ x fits =>
    obtain ⟨d, more, first, -⟩ := toDigits_head x.natAbs
    have digit : isDigit d = true := isDigit_of_mem_toDigits (first ▸ List.mem_cons_self)
    show ∃ c t, (toString x).toList = c :: t ∧ isBlank c = false ∧ c ≠ '\uFEFF'
    rw [toList_toString_int, first]
    by_cases sign : 0 ≤ x
    · exact ⟨d, more, by rw [if_pos sign]; rfl, isBlank_of_isDigit digit,
        ne_of_isDigit digit (by decide)⟩
    · exact ⟨'-', d :: more, by rw [if_neg sign]; rfl, rfl, by decide⟩
  | @map _ ms _ sorted members =>
    refine ⟨'{', (membersText (render ⟨true, true⟩) ms).toList ++ ['}'], ?_, rfl, by decide⟩
    rw [render_sorted _ sorted, objectText, String.toList_append, String.toList_append,
      List.append_assoc]
    rfl

theorem Plain.readValue_render {depth : Nat} {v : Value} (plain : Plain depth v) :
    ∀ (s : Array Char) (i room fuel : Nat) (rest : List Char), depth ≤ room →
      (render ⟨true, true⟩ v).length ≤ fuel →
      remaining s i = (render ⟨true, true⟩ v).toList ++ rest →
      (∀ c ∈ rest.head?, c = ',' ∨ c = '}') →
      Json.readValue s i room fuel = .ok (v, i + (render ⟨true, true⟩ v).length) := by
  induction plain with
  | @text _ cs plain =>
    intro s i room fuel rest _ enough h _
    rw [render_ofCodes] at enough h ⊢
    dsimp only at enough h ⊢
    have long : 2 ≤ (quoteCodes true cs).length := by rw [length_quoteCodes]; omega
    obtain ⟨f, rfl⟩ : ∃ f, fuel = f + 1 := ⟨fuel - 1, by omega⟩
    exact readValue_codes plain h
  | @int _ x fits =>
    intro s i room fuel rest _ enough h stop
    have plain : Plain 0 (.int x) := .int fits
    obtain ⟨c, t, first, -⟩ := plain.starts
    have long : 1 ≤ (toString x).length := by
      simp only [render] at first
      rw [← String.length_toList, first, List.length_cons]
      omega
    obtain ⟨f, rfl⟩ : ∃ f, fuel = f + 1 :=
      ⟨fuel - 1, by simp only [render] at enough; omega⟩
    exact readValue_int h fits stop
  | @map depth ms keys sorted members ih =>
    intro s i room fuel rest deep enough h _
    obtain ⟨r, rfl⟩ : ∃ r, room = r + 1 := ⟨room - 1, by omega⟩
    rw [render_sorted _ sorted] at enough h ⊢
    have long := length_lt_objectText (render ⟨true, true⟩) ms
    obtain ⟨f, rfl⟩ : ∃ f, fuel = f + 1 := ⟨fuel - 1, by omega⟩
    refine readValue_object ((objectText (render ⟨true, true⟩) ms).length - 1 - ms.length)
      (render ⟨true, true⟩) ms keys
      (fun m member => by
        obtain ⟨c, t, first, solid, -⟩ := (members m member).starts
        exact ⟨c, t, first, solid⟩) h
      -- each value is read with the fuel the object leaves after its members
      (fun m member j f' t atLeast at' stop' => ih m member s j r f' t (by omega)
        (by have := length_value_lt_objectText (render ⟨true, true⟩) member; omega) at' stop')
      (by omega) |>.trans ?_
    rw [foldl_setKey_sorted sorted (fun _ _ _ none => absurd none List.not_mem_nil),
      List.nil_append]

theorem Plain.read_render {depth : Nat} {v : Value} (plain : Plain depth v) {room : Nat}
    (deep : depth ≤ room) : read room (render ⟨true, true⟩ v) = .ok v := by
  obtain ⟨c, t, first, solid, notMark⟩ := plain.starts
  have whole : remaining (render ⟨true, true⟩ v).toList.toArray 0 =
      (render ⟨true, true⟩ v).toList ++ [] := by simp [remaining]
  have atEnd : remaining (render ⟨true, true⟩ v).toList.toArray
      (render ⟨true, true⟩ v).length = [] := by
    simp [remaining, ← String.length_toList]
  have opening : remaining (render ⟨true, true⟩ v).toList.toArray 0 = c :: (t ++ []) := by
    rw [whole, first]
    rfl
  have size :
      (render ⟨true, true⟩ v).toList.toArray.size = (render ⟨true, true⟩ v).length := by
    simp [← String.length_toList]
  unfold Json.read
  simp only [(remaining_cons opening).1, skipBlank_of_not_blank opening solid]
  have notMarked : (some c == some '\uFEFF') = false := by simpa using notMark
  rw [plain.readValue_render _ 0 room _ [] deep (by omega) whole (by simp)]
  simp only [notMarked, Bool.false_eq_true, ↓reduceIte, Nat.zero_add, skipBlank_end atEnd, size]

theorem memberErrors_eq (room : Nat) :
    ∀ entries : List (Value × Value),
      memberErrors room entries = entries.map fun e => (keyCodes e.1, writeError? room e.2)
  | [] => by rw [memberErrors]; rfl
  | (k, v) :: rest => by rw [memberErrors, memberErrors_eq room rest]; rfl

theorem keysError?_of_text : ∀ {keys : List Value}, (∀ k ∈ keys, k.codes?.isSome) →
    keysError? keys = none
  | [], _ => rfl
  | k :: rest, text => by
    have kind : ∀ k' ∈ k :: rest, sortKind k' = "str" := fun k' member => by
      have := text k' member
      cases k' <;> first | rfl | simp [Value.codes?] at this
    have sameKind : rest.find? (fun k' => sortKind k' != sortKind k) = none := by
      rw [List.find?_eq_none]
      intro k' member
      simp [kind k' (List.mem_cons_of_mem _ member), kind k List.mem_cons_self]
    have key : isKey k = true := by
      have := text k List.mem_cons_self
      cases k <;> first | rfl | simp [Value.codes?] at this
    simp [keysError?, sameKind, key]

theorem writeError?_map {room : Nat} {entries : List (Value × Value)}
    (keys : keysError? (entries.map (·.1)) = none) :
    writeError? (room + 1) (.map entries) =
      firstError (((entries.map fun e => (keyCodes e.1, writeError? room e.2)).mergeSort
        fun a b => keyLe a.1 b.1).map (·.2)) := by
  rw [writeError?, keys, memberErrors_eq]

theorem firstError_eq_none : ∀ {l : List (Option WriteError)}, (∀ e ∈ l, e = none) →
    firstError l = none
  | [], _ => rfl
  | e :: rest, empty => by
    rw [empty e List.mem_cons_self, firstError,
      firstError_eq_none fun e' member => empty e' (List.mem_cons_of_mem _ member)]

theorem firstError_eq_some {e : WriteError} : ∀ {l : List (Option WriteError)},
    (∀ x ∈ l, x = none ∨ x = some e) → some e ∈ l → firstError l = some e
  | [], _, found => absurd found List.not_mem_nil
  | x :: rest, only, found => by
    rcases only x List.mem_cons_self with rfl | rfl
    · rw [firstError]
      exact firstError_eq_some (fun x member => only x (List.mem_cons_of_mem _ member))
        (by simpa using found)
    · rfl

theorem writeError?_map_eq_none {room : Nat} {entries : List (Value × Value)}
    (keys : keysError? (entries.map (·.1)) = none) (all : ∀ m ∈ entries, writeError? room m.2 = none) :
    writeError? (room + 1) (.map entries) = none := by
  rw [writeError?_map keys]
  refine firstError_eq_none fun x member => ?_
  obtain ⟨⟨k, x'⟩, sortedMember, rfl⟩ := List.mem_map.1 member
  obtain ⟨m, listed, same⟩ := List.mem_map.1 (List.mem_mergeSort.1 sortedMember)
  rw [← (Prod.mk.inj same).2]
  exact all m listed

theorem writeError?_map_eq_some {room : Nat} {entries : List (Value × Value)} {e : WriteError}
    (keys : keysError? (entries.map (·.1)) = none)
    (only : ∀ m ∈ entries, writeError? room m.2 = none ∨ writeError? room m.2 = some e)
    (found : ∃ m ∈ entries, writeError? room m.2 = some e) :
    writeError? (room + 1) (.map entries) = some e := by
  rw [writeError?_map keys]
  refine firstError_eq_some (fun x member => ?_) ?_
  · obtain ⟨⟨k, x'⟩, sortedMember, rfl⟩ := List.mem_map.1 member
    obtain ⟨m, listed, same⟩ := List.mem_map.1 (List.mem_mergeSort.1 sortedMember)
    rw [← (Prod.mk.inj same).2]
    exact only m listed
  · obtain ⟨m, listed, failing⟩ := found
    refine List.mem_map.2 ⟨(keyCodes m.1, some e),
      List.mem_mergeSort.2 (List.mem_map.2 ⟨m, listed, ?_⟩), rfl⟩
    rw [failing]

theorem Plain.writeError?_eq_none {depth : Nat} {v : Value} (plain : Plain depth v) :
    ∀ room, depth ≤ room → writeError? room v = none := by
  induction plain with
  | text _ => intro room _; unfold Value.ofCodes; split <;> rfl
  | int fits => intro room _; simp [writeError?, fits]
  | @map depth ms keys sorted members ih =>
    intro room deep
    obtain ⟨r, rfl⟩ : ∃ r, room = r + 1 := ⟨room - 1, by omega⟩
    have text : keysError? ((ms.map fun m => (Value.ofCodes m.1, m.2)).map (·.1)) = none :=
      keysError?_of_text fun k member => by
        obtain ⟨m, -, rfl⟩ := List.mem_map.1 (List.map_map ▸ member)
        exact Value.codes?_ofCodes m.1
    refine writeError?_map_eq_none text fun m member => ?_
    obtain ⟨m', inMs, rfl⟩ := List.mem_map.1 member
    exact ih m' inMs r (by omega)

end Gamebook.Json
