import Mathlib
import Gamebook.Proofs.JsonRoundTrip
import Gamebook.Proofs.SnapshotReading
import Gamebook.Play.SnapshotYaml
/- Writing progress snapshots. The data of a page and a list of variables is a map of the page and
   of the variables in their order; reading it back gives the page's canonical form and the store
   the variables give when set in turn, which reads under each name the last non-zero value set
   under a name of that canonical form. The JSON writer takes the variables in the order of the
   code points of their names: it refuses a name that is bytes, then a value past the digit limit,
   and otherwise writes text that reads back as the data with the variables in that order, when
   the page and the names are plain text. What a YAML library must do for the same is a named
   hypothesis, and a library that writes flow style meets it. Main statements:
   `Progress.ofData_snapshotData`, `Progress.writeError?_snapshotData`,
   `Progress.read_render_snapshotData`. -/

namespace Gamebook

theorem Value.codes?_ofCodes_eq (cs : List Nat) : (Value.ofCodes cs).codes? = some cs := by
  unfold Value.ofCodes
  split
  · rename_i text
    rw [Value.codes?, Codes.ofString_toString text]
  · rfl

theorem Value.name?_ofCodes (cs : List Nat) : (Value.ofCodes cs).name? = some (.text cs) := by
  unfold Value.ofCodes
  split
  · rename_i text
    show (some (Codes.ofString (Codes.toString cs))).map Name.text = _
    rw [Codes.ofString_toString text]
    rfl
  · rfl

theorem Name.name?_toValue (k : Name) : k.toValue.name? = some k := by
  cases k with
  | text cs => exact Value.name?_ofCodes cs
  | bytes bs => rfl

namespace Vars

/-- The value the last non-zero variable of a list whose name has canonical form `k` gives. -/
def lastUnder (l : List (Name × Int)) (k : Name) : Option Int :=
  (l.filterMap fun e => if e.1.canonical = k ∧ e.2 ≠ 0 then some e.2 else none).getLast?

theorem lookup_ofList (l : List (Name × Int)) (k : Name) :
    (ofList l).toList.lookup k = lastUnder l k := by
  have reads : ∀ (v : Vars) (e : Name × Int) (k' : Name),
      (if e.2 = 0 then v else v.put e.1.canonical e.2).toList.lookup k' =
        (if e.1.canonical = k' ∧ e.2 ≠ 0 then some e.2 else none).or (v.toList.lookup k') := by
    intro v e k'
    by_cases zero : e.2 = 0
    · simp [zero]
    · rw [if_neg zero, lookup_put]
      by_cases same : k' = e.1.canonical
      · simp [same, zero]
      · simp [same, Ne.symm same]
  rw [ofList_eq_foldl, lookup_foldl reads l empty k]
  simp [lastUnder, empty]

theorem same_ofList_iff {l l' : List (Name × Int)} :
    (ofList l).Same (ofList l') ↔ ∀ k, lastUnder l k = lastUnder l' k := by
  simp only [same_iff_lookup, lookup_ofList]

theorem ofList_filter_nonzero (l : List (Name × Int)) : ofList (l.filter (·.2 != 0)) = ofList l := by
  rw [ofList_eq_foldl, ofList_eq_foldl, List.foldl_filter]
  congr 1
  funext acc e
  by_cases zero : e.2 = 0 <;> simp [zero]

theorem toList_ofList_of_perm {v : Vars} (valid : v.Valid) {l : List (Name × Int)}
    (perm : l.Perm v.toList) : (ofList l).toList = l := by
  have puts : ofList l = l.foldl (fun acc e => acc.put e.1 e.2) empty := by
    rw [ofList_eq_foldl]
    refine List.foldl_ext _ _ _ fun acc e member => ?_
    obtain ⟨nonzero, canonical⟩ := valid e (perm.subset member)
    simp [nonzero, canonical]
  have distinct : (l.map Prod.fst).Nodup := ((perm.map Prod.fst).nodup_iff).2 v.nodup
  rw [puts, toList_foldl_put_fresh distinct (by simp [empty])]
  rfl

end Vars

namespace Json

theorem keysError?_of_bytes : ∀ {keys : List Value} {bs : List UInt8}, .bytes bs ∈ keys →
    keysError? keys ≠ none
  | [], _, member => absurd member List.not_mem_nil
  | k :: rest, bs, member => by
    unfold keysError?
    cases found : rest.find? (fun k' => sortKind k' != sortKind k) with
    | some k' => simp [found]
    | none =>
      -- every later key is of the first key's kind, so the first key is of the kind of bytes
      have kind : sortKind k = "bytes" := by
        rcases List.mem_cons.1 member with first | later
        · rw [← first]
          rfl
        · have same := List.find?_eq_none.1 found _ later
          simp only [bne_iff_ne, ne_eq, Decidable.not_not] at same
          rw [← same]
          rfl
      have notKey : isKey k = false := by
        cases k <;> first | rfl | simp [sortKind, Value.typeName] at kind
      simp [found, notKey]

theorem kind_of_keysError? : ∀ {keys : List Value} {e : WriteError}, keysError? keys = some e →
    e.kind = "TypeError"
  | [], _, refused => by simp [keysError?] at refused
  | k :: rest, e, refused => by
    unfold keysError? at refused
    cases found : rest.find? (fun k' => sortKind k' != sortKind k) with
    | some k' =>
      simp only [found, Option.some.injEq] at refused
      rw [← refused]
      rfl
    | none =>
      simp only [found] at refused
      split at refused
      · cases refused
      · simp only [Option.some.injEq] at refused
        rw [← refused]
        rfl

theorem writeError?_of_keysError? {room : Nat} {entries : List (Value × Value)} {e : WriteError}
    (keys : keysError? (entries.map (·.1)) = some e) : writeError? (room + 1) (.map entries) = some e := by
  rw [writeError?, keys]

theorem render_map_congr {o : Style} {entries entries' : List (Value × Value)}
    (same : renderMembers o entries = renderMembers o entries') :
    render o (.map entries) = render o (.map entries') := by
  rw [render, render, same]

end Json

namespace Progress

/-- Variables as the entries of a map: each name as data, each value an integer. -/
def varData (l : List (Name × Int)) : List (Value × Value) := l.map fun e => (e.1.toValue, .int e.2)

/-- The data of a snapshot of a page and variables: the page as text and the variables as a map, in
their order. -/
def snapshotData (page : List Nat) (l : List (Name × Int)) : Value :=
  .map [(.str "currentPage", .ofCodes page), (.str "vars", .map (varData l))]

/-- The variables a snapshot of a progress writes: the non-zero ones, in the store's order. -/
def written (p : Progress) : List (Name × Int) := p.vars.toList.filter (·.2 != 0)

theorem toData_eq (p : Progress) : p.toData = snapshotData p.page p.written := by
  simp only [toData, snapshot, Snapshot.toData, snapshotData, varData, written, List.filter_map]
  rfl

theorem written_of_valid {p : Progress} (valid : p.vars.Valid) : p.written = p.vars.toList :=
  List.filter_eq_self.2 fun e member => by simpa using (valid e member).1

theorem keysError?_of_textNames {l : List (Name × Int)} (text : ∀ e ∈ l, ∃ cs, e.1 = .text cs) :
    Json.keysError? (l.map fun e => e.1.toValue) = none :=
  Json.keysError?_of_text fun k member => by
    obtain ⟨e, listed, rfl⟩ := List.mem_map.1 member
    obtain ⟨cs, named⟩ := text e listed
    rw [named]
    simp [Name.toValue, Value.codes?_ofCodes_eq]

theorem keys_varData (l : List (Name × Int)) : (varData l).map (·.1) = l.map fun e => e.1.toValue := by
  simp [varData]

theorem foldl_take_varData (l : List (Name × Int)) :
    (varData l).foldl Vars.take Vars.empty = Vars.ofList l := by
  rw [varData, List.foldl_map, Vars.ofList_eq_foldl]
  refine List.foldl_ext _ _ _ fun acc e _ => ?_
  simp only [Vars.take, Value.asVarValue?, Name.name?_toValue]

theorem ofData_snapshotData (page : List Nat) (l : List (Name × Int)) :
    ofData (snapshotData page l) = .ok ⟨Codes.canonical page, Vars.ofList l⟩ := by
  rw [ofData_eq_ok_iff]
  refine ⟨_, varData l, page, rfl, rfl, Value.codes?_ofCodes_eq page, fun e member => ?_, ?_⟩
  · obtain ⟨b, -, rfl⟩ := List.mem_map.1 member
    exact ⟨b.2, rfl, .inr (by rw [Name.name?_toValue]; rfl)⟩
  · rw [foldl_take_varData]

theorem ofData_toData (p : Progress) :
    ofData p.toData = .ok ⟨Codes.canonical p.page, Vars.ofList p.vars.toList⟩ := by
  rw [toData_eq, ofData_snapshotData, written, Vars.ofList_filter_nonzero]

theorem writeError?_varData (r : Nat) (l : List (Name × Int)) :
    Json.writeError? (r + 1) (.map (varData l)) =
      (Json.keysError? (l.map fun e => e.1.toValue)).or
        (if ∀ e ∈ l, Number.fitsDigitLimit e.2 = true then none else some .numberTooLong) := by
  cases keys : Json.keysError? (l.map fun e => e.1.toValue) with
  | some e => exact Json.writeError?_of_keysError? (by rw [keys_varData, keys])
  | none =>
    have keys' : Json.keysError? ((varData l).map (·.1)) = none := by rw [keys_varData, keys]
    have only : ∀ m ∈ varData l, Json.writeError? r m.2 = none ∨
        Json.writeError? r m.2 = some .numberTooLong := by
      intro m member
      obtain ⟨b, -, rfl⟩ := List.mem_map.1 member
      by_cases fits : Number.fitsDigitLimit b.2 = true <;> simp [Json.writeError?, fits]
    split
    · next fits =>
      refine Json.writeError?_map_eq_none keys' fun m member => ?_
      obtain ⟨b, listed, rfl⟩ := List.mem_map.1 member
      simp [Json.writeError?, fits b listed]
    · next long =>
      obtain ⟨b, listed, tooLong⟩ : ∃ b ∈ l, Number.fitsDigitLimit b.2 = false := by simpa using long
      refine Json.writeError?_map_eq_some keys' only ⟨_, List.mem_map_of_mem listed, ?_⟩
      simp [Json.writeError?, tooLong]

theorem currentPage_lt_vars : Codes.ofString "currentPage" < Codes.ofString "vars" := by decide

theorem writeError?_snapshotData (r : Nat) (page : List Nat) (l : List (Name × Int)) :
    Json.writeError? (r + 2) (snapshotData page l) =
      (Json.keysError? (l.map fun e => e.1.toValue)).or
        (if ∀ e ∈ l, Number.fitsDigitLimit e.2 = true then none else some .numberTooLong) := by
  have keys : Json.keysError? ([(Value.str "currentPage", Value.ofCodes page),
      (.str "vars", .map (varData l))].map (·.1)) = none := rfl
  have page' : Json.writeError? (r + 1) (.ofCodes page) = none := by
    unfold Value.ofCodes
    split <;> rfl
  have inOrder : [(Json.keyCodes (.str "currentPage"), Json.writeError? (r + 1) (.ofCodes page)),
      (Json.keyCodes (.str "vars"), Json.writeError? (r + 1) (.map (varData l)))].Pairwise
        fun a b => Json.keyLe a.1 b.1 = true := by
    rw [List.pairwise_pair]
    exact Json.keyLe_of_lt currentPage_lt_vars
  rw [snapshotData, Json.writeError?_map keys]
  simp only [List.map_cons, List.map_nil]
  rw [List.mergeSort_of_pairwise inOrder, page']
  simp only [List.map_cons, List.map_nil, firstError]
  rw [← writeError?_varData r l]
  cases Json.writeError? (r + 1) (.map (varData l)) <;> rfl

/-- The variables in the order the JSON writer puts them: by the code points of their names. -/
def byName (l : List (Name × Int)) : List (Name × Int) :=
  l.mergeSort fun a b => Json.keyLe (Json.keyCodes a.1.toValue) (Json.keyCodes b.1.toValue)

theorem byName_perm (l : List (Name × Int)) : (byName l).Perm l := List.mergeSort_perm l _

theorem byName_sorted (l : List (Name × Int)) :
    (byName l).Pairwise fun a b =>
      Json.keyLe (Json.keyCodes a.1.toValue) (Json.keyCodes b.1.toValue) = true := by
  unfold byName
  refine List.pairwise_mergeSort ?_ ?_ l
  · intro a b c
    exact Json.keyLe_trans
  · intro a b
    exact Json.keyLe_total _ _

theorem byName_byName (l : List (Name × Int)) : byName (byName l) = byName l :=
  List.mergeSort_of_pairwise (byName_sorted l)

theorem byName_eq_of_sorted {l l' : List (Name × Int)} (perm : l'.Perm l)
    (sorted : l'.Pairwise fun a b => Json.keyCodes a.1.toValue < Json.keyCodes b.1.toValue) :
    byName l = l' := by
  have apart : (l'.map fun e => Json.keyCodes e.1.toValue).Nodup :=
    List.pairwise_map.2 (sorted.imp ne_of_lt)
  have same : (byName l).Perm l' := (byName_perm l).trans perm.symm
  refine same.eq_of_pairwise (fun a b inA inB ab ba => ?_) (byName_sorted l)
    (sorted.imp Json.keyLe_of_lt)
  exact List.inj_on_of_nodup_map apart (same.subset inA) inB
    (le_antisymm (Json.keyLe_iff.1 ab) (Json.keyLe_iff.1 ba))

theorem renderMembers_varData (l : List (Name × Int)) :
    (Json.renderMembers ⟨true, true⟩ (varData l)).mergeSort (fun a b => Json.keyLe a.1 b.1) =
      Json.renderMembers ⟨true, true⟩ (varData (byName l)) := by
  simp only [Json.renderMembers_eq, varData, List.map_map, byName]
  refine (List.map_mergeSort ?_).symm
  intro a _ b _
  rfl

theorem render_varData_byName (l : List (Name × Int)) :
    Json.render ⟨true, true⟩ (.map (varData l)) = Json.render ⟨true, true⟩ (.map (varData (byName l))) := by
  have sorted : (Json.renderMembers ⟨true, true⟩ (varData (byName l))).mergeSort
      (fun a b => Json.keyLe a.1 b.1) = Json.renderMembers ⟨true, true⟩ (varData (byName l)) := by
    rw [renderMembers_varData, byName_byName]
  rw [Json.render, Json.render]
  simp only [↓reduceIte]
  rw [renderMembers_varData, sorted]

theorem render_snapshotData_byName (page : List Nat) (l : List (Name × Int)) :
    Json.render ⟨true, true⟩ (snapshotData page l) =
      Json.render ⟨true, true⟩ (snapshotData page (byName l)) := by
  refine Json.render_map_congr ?_
  simp only [Json.renderMembers_eq, List.map_cons, List.map_nil]
  rw [render_varData_byName]

/-- A page and variables that JSON text carries as they are: the page and every name are plain
text, and the names are distinct. -/
structure PlainSnapshot (page : List Nat) (l : List (Name × Int)) : Prop where
  page : Json.PlainText page
  names : ∀ e ∈ l, ∃ cs, e.1 = .text cs ∧ Json.PlainText cs
  distinct : (l.map (·.1)).Nodup

theorem keyCodes_text {k : Name} {cs : List Nat} (named : k = .text cs) :
    Json.keyCodes k.toValue = cs := by
  subst named
  exact Json.keyCodes_ofCodes cs

theorem plain_varData {l : List (Name × Int)} (plain : ∀ e ∈ l, ∃ cs, e.1 = .text cs ∧ Json.PlainText cs)
    (distinct : (l.map (·.1)).Nodup) (fits : ∀ e ∈ l, Number.fitsDigitLimit e.2 = true) :
    Json.Plain 1 (.map (varData (byName l))) := by
  have member : ∀ e ∈ byName l, e ∈ l := fun e listed => (byName_perm l).subset listed
  have asCodes : varData (byName l) = ((byName l).map fun e =>
      (Json.keyCodes e.1.toValue, Value.int e.2)).map fun m => (.ofCodes m.1, m.2) := by
    rw [varData, List.map_map]
    refine List.map_congr_left fun e listed => ?_
    obtain ⟨cs, named, -⟩ := plain e (member e listed)
    simp only [Function.comp_apply, named, Name.toValue, Json.keyCodes_ofCodes]
  -- distinct text names have distinct code points, so the order by name is strict
  have apart : ((byName l).map fun e => Json.keyCodes e.1.toValue).Nodup := by
    refine List.Nodup.map_on (fun a listedA b listedB same => ?_)
      (List.Nodup.of_map Prod.fst (((byName_perm l).map Prod.fst).nodup_iff.2 distinct))
    obtain ⟨cs, namedA, -⟩ := plain a (member a listedA)
    obtain ⟨cs', namedB, -⟩ := plain b (member b listedB)
    rw [keyCodes_text namedA, keyCodes_text namedB] at same
    have sameName : a.1 = b.1 := by rw [namedA, namedB, same]
    exact (List.inj_on_of_nodup_map (((byName_perm l).map Prod.fst).nodup_iff.2 distinct))
      listedA listedB sameName
  have sorted : ((byName l).map fun e => (Json.keyCodes e.1.toValue, Value.int e.2)).Pairwise
      fun a b => a.1 < b.1 := by
    rw [List.pairwise_map]
    refine ((byName_sorted l).and (List.pairwise_map.1 apart)).imp fun both => ?_
    exact lt_of_le_of_ne (Json.keyLe_iff.1 both.1) both.2
  rw [asCodes]
  refine .map (fun m listed => ?_) sorted fun m listed => ?_
  · obtain ⟨e, inList, rfl⟩ := List.mem_map.1 listed
    obtain ⟨cs, named, plainName⟩ := plain e (member e inList)
    rw [keyCodes_text named]
    exact plainName
  · obtain ⟨e, inList, rfl⟩ := List.mem_map.1 listed
    exact .int (fits e (member e inList))

theorem plain_snapshotData {page : List Nat} {l : List (Name × Int)} (plain : PlainSnapshot page l)
    (fits : ∀ e ∈ l, Number.fitsDigitLimit e.2 = true) :
    Json.Plain 2 (snapshotData page (byName l)) := by
  have asCodes : snapshotData page (byName l) =
      .map ([(Codes.ofString "currentPage", Value.ofCodes page),
        (Codes.ofString "vars", .map (varData (byName l)))].map fun m => (.ofCodes m.1, m.2)) := by
    simp only [snapshotData, List.map_cons, List.map_nil, Json.ofCodes_ofString]
  rw [asCodes]
  refine .map (fun m listed => ?_) (List.pairwise_pair.2 currentPage_lt_vars) fun m listed => ?_
  · rcases List.mem_pair.1 listed with rfl | rfl <;> exact Json.plainText_ofString _
  · rcases List.mem_pair.1 listed with rfl | rfl
    · exact .text plain.page
    · exact plain_varData plain.names plain.distinct fits

theorem read_render_snapshotData {page : List Nat} {l : List (Name × Int)} (plain : PlainSnapshot page l)
    (fits : ∀ e ∈ l, Number.fitsDigitLimit e.2 = true) {room : Nat} (deep : 2 ≤ room) :
    Json.read room (Json.render ⟨true, true⟩ (snapshotData page l)) =
      .ok (snapshotData page (byName l)) := by
  rw [render_snapshotData_byName]
  exact (plain_snapshotData plain fits).read_render deep

end Progress

/-- What the round trip of a snapshot asks of a YAML library given `room` calls: it writes the data
of a page and variables that JSON text carries as they are, and it reads the text back as that
data with the variables sorted by name, as a writer that sorts keys puts them. -/
structure YamlLibrary.KeepsSnapshots (lib : YamlLibrary) (room : Nat) : Prop where
  writes : ∀ page l, Progress.PlainSnapshot page l → (∀ e ∈ l, Number.fitsDigitLimit e.2 = true) →
    lib.writeError? room (Progress.snapshotData page l) = none
  reads : ∀ page l, Progress.PlainSnapshot page l → (∀ e ∈ l, Number.fitsDigitLimit e.2 = true) →
    lib.load room (Codes.ofString (lib.dump (Progress.snapshotData page l))) =
      .ok (Progress.snapshotData page (Progress.byName l))

/-- A YAML library that writes flow style: JSON text with sorted keys, which YAML reads as the
data JSON reads it as. -/
def flowYaml : YamlLibrary where
  load room t := (Json.read room (Codes.toString t)).mapError fun e =>
    .bare (e.message (Codes.toString t)) default
  errorText _ e := e.message #[]
  writeError? := Json.writeError?
  dump := Json.render ⟨true, true⟩

theorem flowYaml_keepsSnapshots {room : Nat} (deep : 2 ≤ room) : flowYaml.KeepsSnapshots room where
  writes page l plain fits := by
    obtain ⟨r, rfl⟩ : ∃ r, room = r + 2 := ⟨room - 2, by omega⟩
    have keys := Progress.keysError?_of_textNames fun e listed =>
      (plain.names e listed).imp fun _ named => named.1
    show Json.writeError? (r + 2) (Progress.snapshotData page l) = none
    rw [Progress.writeError?_snapshotData, keys, if_pos fits]
    rfl
  reads page l plain fits := by
    simp only [flowYaml, Codes.toString_ofString]
    rw [Progress.read_render_snapshotData plain fits deep]
    rfl

end Gamebook
