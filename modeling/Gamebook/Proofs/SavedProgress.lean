import Mathlib
import Gamebook.Proofs.SnapshotWriting
import Gamebook.Proofs.Installing
/- Saving progress and reading it back. The data of any progress reads back as its page's
   canonical form and the store its variables give when set in turn, so a progress in canonical
   form (every progress read from a snapshot, and every progress a play reaches) comes back
   unchanged. Its JSON text is refused for a name that is bytes, and for a value past the digit
   limit under text names; otherwise it reads back with the variables sorted by name, which is the
   same progress up to the order of its variables when the page and the names are plain text: a
   high surrogate right before a low one is written as two escapes that read back as one code
   point. YAML text does the same for a library that keeps snapshots. Main statements:
   `Progress.ofData_round_trips`, `Session.load_save_reached`. -/

namespace Gamebook

namespace Progress

/-- Every value of a progress is within the digit limit. -/
def Fits (p : Progress) : Prop := ∀ e ∈ p.vars.toList, Number.fitsDigitLimit e.2 = true

instance (p : Progress) : Decidable p.Fits := inferInstanceAs (Decidable (∀ e ∈ p.vars.toList, _))

/-- A progress whose snapshot JSON text carries as it is: its page and every name are plain text. -/
structure PlainNames (p : Progress) : Prop where
  page : Json.PlainText p.page
  names : ∀ e ∈ p.vars.toList, ∃ cs, e.1 = .text cs ∧ Json.PlainText cs

theorem PlainNames.text {p : Progress} (plain : p.PlainNames) :
    ∀ e ∈ p.vars.toList, ∃ cs, e.1 = .text cs :=
  fun e member => (plain.names e member).imp fun _ named => named.1

theorem plainNames_of_strings {p : Progress} {page : String} (onPage : p.page = Codes.ofString page)
    (named : ∀ e ∈ p.vars.toList, ∃ s, e.1 = Name.ofString s) : p.PlainNames :=
  ⟨onPage ▸ Json.plainText_ofString page, fun e member =>
    (named e member).elim fun s isName => ⟨Codes.ofString s, isName, Json.plainText_ofString s⟩⟩

theorem fitsDigitLimit_zero : Number.fitsDigitLimit 0 = true := by
  simp [Number.fitsDigitLimit]

theorem fits_written_iff (p : Progress) :
    (∀ e ∈ p.written, Number.fitsDigitLimit e.2 = true) ↔ p.Fits := by
  constructor
  · intro fits e member
    by_cases zero : e.2 = 0
    · rw [zero]
      exact fitsDigitLimit_zero
    · exact fits e (List.mem_filter.2 ⟨member, by simpa using zero⟩)
  · exact fun fits e member => fits e (List.mem_of_mem_filter member)

theorem plainSnapshot_written {p : Progress} (plain : p.PlainNames) : PlainSnapshot p.page p.written :=
  ⟨plain.page, fun e member => plain.names e (List.mem_of_mem_filter member),
    ((List.filter_sublist).map Prod.fst).nodup p.vars.nodup⟩

theorem snapshot_toJsonText_eq (p : Progress) {room : Nat} (deep : jsonWritingCalls + 2 ≤ room) :
    p.snapshot.toJsonText room =
      match (Json.keysError? (p.written.map fun e => e.1.toValue)).or
          (if ∀ e ∈ p.written, Number.fitsDigitLimit e.2 = true then none else some .numberTooLong) with
      | some e => .error e
      | none => .ok p.toJsonText := by
  obtain ⟨r, rest⟩ : ∃ r, room - jsonWritingCalls = r + 2 := ⟨room - jsonWritingCalls - 2, by omega⟩
  rw [Snapshot.toJsonText, rest, show p.snapshot.toData = p.toData from rfl, toData_eq,
    writeError?_snapshotData]
  cases (Json.keysError? (p.written.map fun e => e.1.toValue)).or
      (if ∀ e ∈ p.written, Number.fitsDigitLimit e.2 = true then none else some .numberTooLong) with
  | some e => rfl
  | none => rw [toJsonText, toData_eq]

theorem snapshot_toJsonText_of_text {p : Progress} (text : ∀ e ∈ p.vars.toList, ∃ cs, e.1 = .text cs)
    {room : Nat} (deep : jsonWritingCalls + 2 ≤ room) :
    p.snapshot.toJsonText room = if p.Fits then .ok p.toJsonText else .error .numberTooLong := by
  have keys := keysError?_of_textNames (l := p.written) fun e listed =>
    text e (List.mem_of_mem_filter listed)
  rw [snapshot_toJsonText_eq p deep, keys, Option.none_or]
  by_cases fits : p.Fits
  · rw [if_pos ((fits_written_iff p).2 fits), if_pos fits]
  · rw [if_neg (mt (fits_written_iff p).1 fits), if_neg fits]

theorem snapshot_toJsonText_iff_fits {p : Progress} (text : ∀ e ∈ p.vars.toList, ∃ cs, e.1 = .text cs)
    {room : Nat} (deep : jsonWritingCalls + 2 ≤ room) :
    (p.snapshot.toJsonText room = .ok p.toJsonText ↔ p.Fits) ∧
      (¬ p.Fits → p.snapshot.toJsonText room = .error .numberTooLong) := by
  rw [snapshot_toJsonText_of_text text deep]
  by_cases fits : p.Fits <;> simp [fits]

theorem snapshot_toJsonText_of_bytes {p : Progress} {e : Name × Int} (member : e ∈ p.written)
    {bs : List UInt8} (bytes : e.1 = .bytes bs) {room : Nat} (deep : jsonWritingCalls + 2 ≤ room) :
    ∃ err, p.snapshot.toJsonText room = .error err ∧ err.kind = "TypeError" := by
  have listed : Value.bytes bs ∈ p.written.map fun e => e.1.toValue :=
    List.mem_map.2 ⟨e, member, by rw [bytes]; rfl⟩
  obtain ⟨err, keys⟩ := Option.ne_none_iff_exists'.1 (Json.keysError?_of_bytes listed)
  refine ⟨err, ?_, Json.kind_of_keysError? keys⟩
  rw [snapshot_toJsonText_eq p deep, keys]
  rfl

theorem ofJsonText_toJsonText {p : Progress} (plain : p.PlainNames) (fits : p.Fits) {room : Nat}
    (deep : jsonReadingCalls + 2 ≤ room) :
    ofJsonText room p.toJsonText = .ok ⟨Codes.canonical p.page, Vars.ofList (byName p.written)⟩ := by
  rw [ofJsonText, toJsonText, toData_eq,
    read_render_snapshotData (plainSnapshot_written plain) ((fits_written_iff p).2 fits) (by omega)]
  exact ofData_snapshotData _ _

theorem snapshot_toYamlText {lib : YamlLibrary} {r : Nat} (keeps : lib.KeepsSnapshots r) {p : Progress}
    (plain : p.PlainNames) (fits : p.Fits) :
    p.snapshot.toYamlText lib (r + yamlWritingCalls) = .ok (lib.dump p.toData) := by
  have writes := keeps.writes p.page p.written (plainSnapshot_written plain) ((fits_written_iff p).2 fits)
  rw [← toData_eq] at writes
  rw [Snapshot.toYamlText, Nat.add_sub_cancel, show p.snapshot.toData = p.toData from rfl, writes]

theorem ofYaml_dump {lib : YamlLibrary} {r : Nat} (keeps : lib.KeepsSnapshots r) {p : Progress}
    (plain : p.PlainNames) (fits : p.Fits) :
    ofYaml lib (r + 1) (Codes.ofString (lib.dump p.toData)) =
      .ok ⟨Codes.canonical p.page, Vars.ofList (byName p.written)⟩ := by
  have reads := keeps.reads p.page p.written (plainSnapshot_written plain) ((fits_written_iff p).2 fits)
  rw [← toData_eq] at reads
  rw [ofYaml, Nat.add_sub_cancel, reads]
  show (ofData (snapshotData p.page (byName p.written))).mapError _ = _
  rw [ofData_snapshotData]
  rfl

theorem load_toJsonText (s : Session) {p : Progress} (plain : p.PlainNames) (fits : p.Fits)
    {room : Nat} (deep : jsonReadingCalls + 3 ≤ room) :
    s.load room p.toJsonText =
      .ok ({ s with progress := ⟨Codes.canonical p.page, Vars.ofList (byName p.written)⟩ },
        if Codes.canonical p.page ≠ Codes.ofString endName ∧
            s.doc.findCodes? (Codes.canonical p.page) = none then
          [unknownPageWarning (Codes.canonical p.page)] else []) := by
  have canon : Progress.Canonical ⟨Codes.canonical p.page, Vars.ofList (byName p.written)⟩ :=
    ⟨Vars.valid_ofList _, Codes.canonical_canonical _⟩
  rw [Session.load, ofJsonText_toJsonText plain fits (by omega : jsonReadingCalls + 2 ≤ room - 1)]
  exact congrArg Except.ok (Session.installProgress_of_canonical s canon)

theorem canonical_of_ofData {v : Value} {p : Progress} (read : ofData v = .ok p) : p.Canonical := by
  obtain ⟨entries, vars, page, -, -, -, -, rfl⟩ := ofData_eq_ok_iff.1 read
  exact ⟨Vars.valid_foldl_take vars, Codes.canonical_canonical page⟩

theorem ofData_toData_of_canonical {p : Progress} (canon : p.Canonical) : ofData p.toData = .ok p := by
  rw [ofData_toData, Vars.ofList_toList canon.vars, canon.page]

theorem byName_same {p : Progress} (canon : p.Canonical) :
    (⟨Codes.canonical p.page, Vars.ofList (byName p.written)⟩ : Progress).Same p := by
  refine ⟨canon.page, ?_⟩
  rw [written_of_valid canon.vars]
  show (Vars.ofList _).toList.Perm _
  rw [Vars.toList_ofList_of_perm canon.vars (byName_perm _)]
  exact byName_perm _

/-- Every progress read from a snapshot comes back from its data unchanged. Under text names its
JSON text is written exactly when its values are within the digit limit, a name that is bytes is
refused with a type error, and when the page and the names are plain text the text reads back as
the same progress up to the order of its variables; so does the YAML text of a library that keeps
snapshots. -/
theorem ofData_round_trips {v : Value} {p : Progress} (read : ofData v = .ok p) {room : Nat}
    (writeRoom : jsonWritingCalls + 2 ≤ room) (readRoom : jsonReadingCalls + 2 ≤ room) :
    ofData p.toData = .ok p ∧
      ((∀ e ∈ p.vars.toList, ∃ cs, e.1 = .text cs) →
        (p.snapshot.toJsonText room = .ok p.toJsonText ↔ p.Fits) ∧
        (¬ p.Fits → p.snapshot.toJsonText room = .error .numberTooLong)) ∧
      (∀ e ∈ p.vars.toList, ∀ bs, e.1 = .bytes bs →
        ∃ err, p.snapshot.toJsonText room = .error err ∧ err.kind = "TypeError") ∧
      (p.PlainNames → p.Fits → ∃ q, ofJsonText room p.toJsonText = .ok q ∧ q.Same p) ∧
      ∀ (lib : YamlLibrary) (r : Nat), lib.KeepsSnapshots r → p.PlainNames → p.Fits →
        p.snapshot.toYamlText lib (r + yamlWritingCalls) = .ok (lib.dump p.toData) ∧
          ∃ q, ofYaml lib (r + 1) (Codes.ofString (lib.dump p.toData)) = .ok q ∧ q.Same p := by
  have canon := canonical_of_ofData read
  have written : p.written = p.vars.toList := written_of_valid canon.vars
  refine ⟨ofData_toData_of_canonical canon, fun text => snapshot_toJsonText_iff_fits text writeRoom,
    fun e member bs bytes => ?_, fun plain fits => ?_, fun lib r keeps plain fits => ?_⟩
  · exact snapshot_toJsonText_of_bytes (written ▸ member) bytes writeRoom
  · exact ⟨_, ofJsonText_toJsonText plain fits readRoom, byName_same canon⟩
  · exact ⟨snapshot_toYamlText keeps plain fits, _, ofYaml_dump keeps plain fits, byName_same canon⟩

/-- The progress the hall snapshot reads as: the later of its two spellings of one name wins, and
the zero is left out. -/
def hallProgress : Progress := ⟨Codes.ofString "hall", Vars.ofList [(.ofString "gold", 4), (.ofString "keys", 1)]⟩

theorem hall_progress_round_trips :
    ofData Session.hallData = .ok hallProgress ∧ ofData hallProgress.toData = .ok hallProgress ∧
      hallProgress.snapshot.toJsonText 995 = .ok hallProgress.toJsonText ∧
      ∃ q, ofJsonText 995 hallProgress.toJsonText = .ok q ∧ q.Same hallProgress := by
  have read : ofData Session.hallData = .ok hallProgress := eq_ok_of_toOption (by decide +kernel)
  have listed : hallProgress.vars.toList = [(.ofString "gold", 4), (.ofString "keys", 1)] := by
    decide +kernel
  have plain : hallProgress.PlainNames := plainNames_of_strings rfl fun e member => by
    rw [listed] at member
    rcases List.mem_pair.1 member with rfl | rfl
    exacts [⟨"gold", rfl⟩, ⟨"keys", rfl⟩]
  have fits : hallProgress.Fits := by decide +kernel
  obtain ⟨back, json, -, plainRead, -⟩ := ofData_round_trips read
    (by decide : jsonWritingCalls + 2 ≤ 995) (by decide : jsonReadingCalls + 2 ≤ 995)
  exact ⟨read, back, ((json plain.text).1).2 fits, plainRead plain fits⟩

/-- A snapshot whose one variable has 4301 digits, and the progress read from it. -/
def longSnapshot : Value :=
  .map [(.str "currentPage", .str "a"), (.str "vars", .map [(.str "x", .int ((10 ^ 4300 : Nat) : Int))])]

def longProgress : Progress := ⟨Codes.ofString "a", Vars.ofList [(.ofString "x", ((10 ^ 4300 : Nat) : Int))]⟩

theorem long_variable_read_not_written :
    ofData longSnapshot = .ok longProgress ∧
      longProgress.snapshot.toJsonText 995 = .error .numberTooLong := by
  have read : ofData longSnapshot = .ok longProgress := eq_ok_of_toOption (by decide +kernel)
  have listed : longProgress.vars.toList = [(.ofString "x", ((10 ^ 4300 : Nat) : Int))] := by
    decide +kernel
  have text : ∀ e ∈ longProgress.vars.toList, ∃ cs, e.1 = .text cs := by
    intro e member
    rw [listed, List.mem_singleton] at member
    exact ⟨_, by rw [member]; rfl⟩
  have long : ¬ longProgress.Fits := by decide +kernel
  exact ⟨read, by rw [snapshot_toJsonText_of_text text (by decide), if_neg long]⟩

end Progress

namespace Session

theorem load_save {s t : Session} (canon : t.progress.Canonical) (plain : t.progress.PlainNames)
    (fits : t.progress.Fits) {room : Nat} (deep : Progress.jsonReadingCalls + 3 ≤ room) :
    ∃ q : Progress, q.Same t.progress ∧ s.load room t.progress.toJsonText =
      .ok ({ s with progress := q }, if t.progress.page ≠ Codes.ofString endName ∧
        s.doc.findCodes? t.progress.page = none then [unknownPageWarning t.progress.page] else []) := by
  refine ⟨_, Progress.byName_same canon, ?_⟩
  rw [Progress.load_toJsonText s plain fits deep, canon.page]

/-- Saving the progress of any session a story's play reaches: under text names the text is
written exactly when the values are within the digit limit, and a name that is bytes is refused
with a type error. Whenever the text is written and the page and the names are plain text,
loading it in another session of the story installs the same progress up to the order of its
variables, with the warning of an unknown page exactly when the page is neither the end nor a page
of the story. -/
theorem load_save_reached {entry : String} {pages : List (String × Page)} {d : Document}
    (built : Document.build entry pages = .ok d) (enterLogic : Bool) (calls : List Call)
    {s : Session} (sameStory : s.doc = d) {room : Nat}
    (writeRoom : jsonWritingCalls + 2 ≤ room) (readRoom : Progress.jsonReadingCalls + 3 ≤ room) :
    let t := (start d enterLogic).performAll calls
    ((∀ e ∈ t.progress.vars.toList, ∃ cs, e.1 = .text cs) →
        (t.save room = .ok t.progress.toJsonText ↔ t.progress.Fits) ∧
        (¬ t.progress.Fits → t.save room = .error .numberTooLong)) ∧
      (∀ e ∈ t.progress.vars.toList, ∀ bs, e.1 = .bytes bs →
        ∃ err, t.save room = .error err ∧ err.kind = "TypeError") ∧
      ∀ j, t.save room = .ok j → t.progress.PlainNames →
        ∃ q : Progress, q.Same t.progress ∧ s.load room j =
          .ok ({ s with progress := q }, if t.progress.page ≠ Codes.ofString endName ∧
            d.findCodes? t.progress.page = none then [unknownPageWarning t.progress.page] else []) := by
  intro t
  have canon : t.progress.Canonical := performAll_progress_canonical built enterLogic calls
  have written : t.progress.written = t.progress.vars.toList := Progress.written_of_valid canon.vars
  refine ⟨fun text => ?_, fun e member bs bytes => ?_, fun j saved plain => ?_⟩
  · rw [save]
    exact Progress.snapshot_toJsonText_iff_fits text writeRoom
  · exact Progress.snapshot_toJsonText_of_bytes (written ▸ member) bytes writeRoom
  · -- under plain names the written text is the progress's own, so its values are within the limit
    rw [save, Progress.snapshot_toJsonText_of_text plain.text writeRoom] at saved
    by_cases fits : t.progress.Fits
    · rw [if_pos fits] at saved
      obtain rfl : t.progress.toJsonText = j := Except.ok.inj saved
      rw [← sameStory]
      exact load_save canon plain fits readRoom
    · rw [if_neg fits] at saved
      cases saved

/-- A page whose only choice ends the story, and the story of that one page. -/
def roadPage : Page := { texts := ["t"], choices := [{ link := "end" }], line := 1 }

def roadStory : Document := ⟨"a", [("a", roadPage)]⟩

theorem build_road : Document.build "a" [("a", roadPage)] = .ok roadStory := by
  have canonical : canonicalName "a" = "a" := by decide +kernel
  simp [Document.build, Document.addPages, canonical, Except.map, roadStory]

/-- The widest value the digit limit lets a saved variable have: nine, then 4299 zeros. -/
def widestValue : Int := ((9 * 10 ^ 4299 : Nat) : Int)

/-- Set a variable to the widest value, and then double it. -/
def widestCalls : List Call := [.setVar (.ofString "x") (.int widestValue)]

def doublingCalls : List Call := widestCalls ++ [.run ⟨.increase, "x", widestValue⟩]

theorem saved_widest_variable_loads :
    ((start roadStory true).performAll widestCalls).save 995 =
        .ok ((start roadStory true).performAll widestCalls).progress.toJsonText ∧
      ∃ q : Progress, q.Same ((start roadStory true).performAll widestCalls).progress ∧
        (start roadStory false).load 995
            ((start roadStory true).performAll widestCalls).progress.toJsonText =
          .ok ({ start roadStory false with progress := q }, []) := by
  obtain ⟨json, -, loads⟩ := load_save_reached build_road true widestCalls
    (show (start roadStory false).doc = roadStory from rfl)
    (by decide : jsonWritingCalls + 2 ≤ 995) (by decide : Progress.jsonReadingCalls + 3 ≤ 995)
  have listed : ((start roadStory true).performAll widestCalls).progress.vars.toList =
      [(.ofString "x", widestValue)] := by decide +kernel
  have page : ((start roadStory true).performAll widestCalls).progress.page = Codes.ofString "a" := by
    decide +kernel
  have plain : ((start roadStory true).performAll widestCalls).progress.PlainNames :=
    Progress.plainNames_of_strings page fun e member => by
      rw [listed, List.mem_singleton] at member
      exact ⟨"x", by rw [member]⟩
  have fits : ((start roadStory true).performAll widestCalls).progress.Fits := by decide +kernel
  have saved := ((json plain.text).1).2 fits
  have declared : ¬(((start roadStory true).performAll widestCalls).progress.page ≠ Codes.ofString endName ∧
      roadStory.findCodes? ((start roadStory true).performAll widestCalls).progress.page = none) := by
    decide +kernel
  obtain ⟨q, same, loaded⟩ := loads _ saved plain
  rw [if_neg declared] at loaded
  exact ⟨saved, q, same, loaded⟩

/-- A name of two code points, a high surrogate and then a low one. -/
def pairName : Name := .text [0xD83D, 0xDE00]

def pairCalls : List Call := [.setVar pairName (.int 1)]

/-- The saved text of a variable under that name: the two code points as two escapes. -/
def pairText : String := "\x7b\"currentPage\": \"a\", \"vars\": \x7b\"\\ud83d\\ude00\": 1\x7d\x7d"

theorem text_of_listed {t : Session} {l : List (Name × Int)} (listed : t.progress.vars.toList = l)
    (text : ∀ e ∈ l, ∃ cs, e.1 = .text cs) : ∀ e ∈ t.progress.vars.toList, ∃ cs, e.1 = .text cs :=
  listed ▸ text

theorem saved_progress_not_restored :
    ((start roadStory true).performAll doublingCalls).save 995 = .error .numberTooLong ∧
      ((start roadStory true).performAll pairCalls).save 995 = .ok pairText ∧
      ((start roadStory true).performAll pairCalls).getVar pairName = 1 ∧
      ((start roadStory false).load 995 pairText).toOption.map
        (fun r => (r.1.getVar pairName, r.1.getVar (.text [0x1F600]))) = some (0, 1) := by
  have doubled := text_of_listed (t := (start roadStory true).performAll doublingCalls)
    (l := [(.ofString "x", 2 * widestValue)]) (by decide +kernel) (by simp [Name.ofString])
  have paired := text_of_listed (t := (start roadStory true).performAll pairCalls)
    (l := [(pairName, 1)]) (by decide +kernel) (by simp [pairName])
  have long : ¬((start roadStory true).performAll doublingCalls).progress.Fits := by decide +kernel
  have fits : ((start roadStory true).performAll pairCalls).progress.Fits := by decide +kernel
  have text : ((start roadStory true).performAll pairCalls).progress.toJsonText = pairText := by
    cbv
  -- the text's characters are spelled out once, so that reading does not decode them again
  have chars : pairText.toList.toArray =
      #['\x7b', '"', 'c', 'u', 'r', 'r', 'e', 'n', 't', 'P', 'a', 'g', 'e', '"', ':', ' ', '"', 'a',
      '"', ',', ' ', '"', 'v', 'a', 'r', 's', '"', ':', ' ', '\x7b', '"', '\\', 'u', 'd', '8', '3',
      'd', '\\', 'u', 'd', 'e', '0', '0', '"', ':', ' ', '1', '\x7d', '\x7d'] := by cbv
  refine ⟨?_, ?_, by decide +kernel, ?_⟩
  · rw [save, Progress.snapshot_toJsonText_of_text doubled (by decide), if_neg long]
  · rw [save, Progress.snapshot_toJsonText_of_text paired (by decide), if_pos fits, text]
  · simp only [load, Progress.ofJsonText, Json.read, chars]
    cbv

end Session

end Gamebook
