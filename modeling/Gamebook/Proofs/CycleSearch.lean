import Mathlib
import Gamebook.Story.Cycle
/- The search for a cycle, seen as the usual depth-first search with three colours: a node not yet
   entered, a node whose call is open, and a node finished. Every call the search makes is entered
   with its marks in one shape (`Sound`): the open nodes are exactly those of the path the call
   was given, and a finished node links only to finished nodes and lies on no cycle. A call keeps
   that shape; a link back to an open node closes a simple cycle; and a call runs out of room only
   when the nodes left to enter are at least as many as the calls left. Over the roots, a search
   that meets no cycle has finished every node with a link, so the graph has no cycle.
   Main statements: `Cycle.search_answers`, `Cycle.fromRoots_answers`, `Cycle.search_mono`. -/

namespace Gamebook.Cycle

/-- A link of the graph: `v` is among the targets of `u`. -/
def Edge (g : List (String × List String)) (u v : String) : Prop := v ∈ targets g u

/-! ### Steps of the search -/

section Steps

variable {visit : Marks → List String → String → Answer} {path : List String} {m : Marks}
  {n : String} {ns : List String}

theorem follow_new (fresh : n ∉ m.visited) :
    follow visit path m (n :: ns) =
      match visit m path n with
      | .ok (m', none) => follow visit path m' ns
      | r => r := by
  rw [follow]
  exact if_pos (by simpa using fresh)

theorem follow_open (entered : n ∈ m.visited) (opened : n ∈ m.stack) :
    follow visit path m (n :: ns) =
      match path.idxOf? n with
      | some i => .ok (m, some (path.drop i ++ [n]))
      | none => .error (.notOnPath n) := by
  rw [follow, if_neg (by simpa using entered)]
  exact if_pos (by simpa using opened)

theorem follow_done (entered : n ∈ m.visited) (closed : n ∉ m.stack) :
    follow visit path m (n :: ns) = follow visit path m ns := by
  rw [follow, if_neg (by simpa using entered), if_neg (by simpa using closed)]

variable {g : List (String × List String)} {room : Nat} {visited : List String}

theorem fromRoots_seen (seen : n ∈ visited) :
    fromRoots g room visited (n :: ns) = fromRoots g room visited ns := by
  rw [fromRoots, if_pos (by simpa using seen)]

theorem fromRoots_new (fresh : n ∉ visited) :
    fromRoots g room visited (n :: ns) =
      match search g room ⟨visited, []⟩ [] n with
      | .ok (m, none) => fromRoots g room m.visited ns
      | .ok (_, some c) => .ok (some c)
      | .error e => .error e := by
  rw [fromRoots]
  exact if_neg (by simpa using fresh)

end Steps

/-- A cycle written as its nodes: at least one step, back to the node it starts from, no node met
twice before the end, and each node related to the next. -/
structure Simple {α : Type} (r : α → α → Prop) (c : List α) : Prop where
  long : 2 ≤ c.length
  closes : c.head? = c.getLast?
  distinct : c.dropLast.Nodup
  steps : c.IsChain r

theorem Simple.transGen {α : Type} {r : α → α → Prop} {c : List α} (simple : Simple r c) :
    ∃ v, Relation.TransGen r v v := by
  obtain ⟨long, closes, -, steps⟩ := simple
  rcases c with _ | ⟨v, _ | ⟨w, rest⟩⟩
  · simp at long
  · simp at long
  rw [List.isChain_cons_cons] at steps
  have last : (w :: rest).getLast? = some v := by
    simpa [List.getLast?_cons_cons] using closes.symm
  have back : (w :: rest).getLast (List.cons_ne_nil w rest) = v := by
    rw [List.getLast?_eq_some_getLast (List.cons_ne_nil w rest)] at last
    exact Option.some.inj last
  exact ⟨v, Relation.TransGen.head' steps.1
    (List.relationReflTransGen_of_exists_isChain_cons rest steps.2 back)⟩

theorem simple_of_back {α : Type} [BEq α] [LawfulBEq α] {r : α → α → Prop} {path : List α}
    {n : α} {i : Nat} (chain : path.IsChain r) (distinct : path.Nodup)
    (back : ∀ last ∈ path.getLast?, r last n) (found : path.idxOf? n = some i) :
    Simple r (path.drop i ++ [n]) := by
  obtain ⟨below, at_i, -⟩ := List.idxOf?_eq_some_iff.1 found
  have head : (path.drop i).head? = some n := by
    rw [List.head?_drop, List.getElem?_eq_getElem below, at_i]
  have last : (path.drop i).getLast? = path.getLast? := by
    rw [List.getLast?_drop, if_neg (by omega)]
  refine ⟨by simp; omega, ?_, ?_, ?_⟩
  · rw [List.head?_append, head]
    simp
  · rw [List.dropLast_concat]
    exact distinct.sublist (List.drop_sublist i path)
  · rw [List.isChain_append]
    refine ⟨chain.drop i, by simp, ?_⟩
    intro x lastAt y first
    rw [last] at lastAt
    simp only [List.head?_cons, Option.mem_def, Option.some.injEq] at first
    exact first ▸ back x lastAt

variable {g : List (String × List String)}

theorem mem_keys_of_edge {u v : String} (edge : Edge g u v) : u ∈ g.map (·.1) := by
  unfold Edge targets at edge
  cases found : g.lookup u with
  | none =>
    rw [found] at edge
    cases edge
  | some ls =>
    obtain ⟨l₁, l₂, split, -⟩ := List.lookup_eq_some_iff.1 found
    simp [split]

/-! ### Nodes left to enter -/

section Unentered

variable {U : List String}

theorem unentered_mono {visited visited' : List String} (grows : visited ⊆ visited') :
    U.countP (!visited'.contains ·) ≤ U.countP (!visited.contains ·) :=
  List.countP_mono_left fun x _ fresh => by
    simp only [Bool.not_eq_true', List.contains_eq_mem, decide_eq_false_iff_not] at fresh ⊢
    exact fun mem => fresh (grows mem)

theorem unentered_pos {visited : List String} {start : String} (mem : start ∈ U)
    (fresh : start ∉ visited) : 0 < U.countP (!visited.contains ·) :=
  List.countP_pos_iff.2 ⟨start, mem, by simpa using fresh⟩

theorem unentered_enter {visited : List String} {start : String} (mem : start ∈ U)
    (fresh : start ∉ visited) :
    U.countP (!(start :: visited).contains ·) < U.countP (!visited.contains ·) := by
  induction U with
  | nil => cases mem
  | cons x U ih =>
    have tail : U.countP (!(start :: visited).contains ·) ≤ U.countP (!visited.contains ·) :=
      unentered_mono (List.subset_cons_self start visited)
    simp only [List.countP_cons]
    by_cases same : x = start
    · -- the node itself is counted before and not after
      subst same
      have gone : (!(x :: visited).contains x) = false := by simp
      have left : (!visited.contains x) = true := by simpa using fresh
      rw [gone, left]
      simp only [Bool.false_eq_true, if_false, if_true]
      omega
    · have later : start ∈ U := by simpa [Ne.symm same] using mem
      have alike : (!(start :: visited).contains x) = !visited.contains x := by simp [same]
      rw [alike]
      have fewer := ih later
      omega

end Unentered

/-! ### The shape of the marks -/

/-- A node finished, seen from a call below `path`: entered, and not open. -/
def Done (m : Marks) (path : List String) (b : String) : Prop := b ∈ m.visited ∧ b ∉ path

/-- The marks of a search seen from a call below the nodes of `path`: the open nodes are those of
the path, in order, all of them entered; a finished node links only to finished nodes and lies on
no cycle. -/
structure Sound (g : List (String × List String)) (m : Marks) (path : List String) : Prop where
  stack : m.stack = path
  entered : ∀ v ∈ path, v ∈ m.visited
  closed : ∀ b, Done m path b → ∀ v, Edge g b v → Done m path v
  acyclic : ∀ b, Done m path b → ¬ Relation.TransGen (Edge g) b b

theorem sound_start : Sound g ⟨[], []⟩ [] :=
  ⟨rfl, by simp, fun _ done => absurd done.1 (by simp), fun _ done => absurd done.1 (by simp)⟩

theorem Sound.reach {m : Marks} {path : List String} (sound : Sound g m path) {b v : String}
    (done : Done m path b) (leads : Relation.ReflTransGen (Edge g) b v) : Done m path v := by
  induction leads with
  | refl => exact done
  | tail _ edge ih => exact sound.closed _ ih _ edge

theorem Sound.enter {m : Marks} {path : List String} (sound : Sound g m path) {start : String}
    (fresh : start ∉ m.visited) :
    Sound g ⟨start :: m.visited, m.stack ++ [start]⟩ (path ++ [start]) := by
  -- the finished nodes stay those finished before: the new node is open
  have done_iff : ∀ b, Done ⟨start :: m.visited, m.stack ++ [start]⟩ (path ++ [start]) b ↔
      Done m path b := by
    intro b
    simp only [Done, List.mem_cons, List.mem_append, List.not_mem_nil, or_false]
    constructor
    · rintro ⟨rfl | entered, off⟩
      · exact absurd (Or.inr rfl) off
      · exact ⟨entered, fun on => off (Or.inl on)⟩
    · rintro ⟨entered, off⟩
      refine ⟨Or.inr entered, ?_⟩
      rintro (on | rfl)
      · exact off on
      · exact fresh entered
  refine ⟨by rw [sound.stack], ?_, ?_, ?_⟩
  · intro v on
    rcases List.mem_append.1 on with on | on
    · exact List.mem_cons_of_mem _ (sound.entered v on)
    · simp at on
      simp [on]
  · intro b done v edge
    exact (done_iff v).2 (sound.closed b ((done_iff b).1 done) v edge)
  · intro b done
    exact sound.acyclic b ((done_iff b).1 done)

theorem Sound.leave {m : Marks} {path : List String} {start : String}
    (sound : Sound g m (path ++ [start])) (distinct : (path ++ [start]).Nodup)
    (links : ∀ n, Edge g start n → Done m (path ++ [start]) n) :
    Sound g ⟨m.visited, m.stack.erase start⟩ path := by
  have apart : start ∉ path := fun on =>
    List.disjoint_of_nodup_append distinct on (List.mem_singleton_self start)
  -- a node finished below the longer path is finished below the shorter
  have widen : ∀ b, Done m (path ++ [start]) b → Done m path b :=
    fun b done => ⟨done.1, fun on => done.2 (List.mem_append_left _ on)⟩
  have narrow : ∀ b, Done m path b → b ≠ start → Done m (path ++ [start]) b := by
    intro b done other
    refine ⟨done.1, ?_⟩
    simpa [other] using done.2
  refine ⟨?_, ?_, ?_, ?_⟩
  · rw [sound.stack, List.erase_append_right _ apart]
    simp
  · exact fun v on => sound.entered v (List.mem_append_left _ on)
  · intro b done v edge
    by_cases same : b = start
    · exact widen v (links v (same ▸ edge))
    · exact widen v (sound.closed b (narrow b done same) v edge)
  · intro b done
    by_cases same : b = start
    · subst same
      intro cycle
      obtain ⟨v, edge, back⟩ := Relation.TransGen.head'_iff.1 cycle
      exact (sound.reach (links v edge) back).2 (by simp)
    · exact sound.acyclic b (narrow b done same)

/-! ### What a call answers -/

/-- What a call of the search may answer, entered with marks `m` below the nodes of `path`, with
`room` calls left to its caller, when every node it may enter is in `U`: marks of the same shape
that enter more and do what `after` says; a simple cycle; or running out of room, when the calls
left are no more than the nodes of `U` left to enter. -/
def Answers (g : List (String × List String)) (U path : List String) (room : Nat) (m : Marks)
    (after : Marks → Prop) : Answer → Prop
  | .ok (m', none) => Sound g m' path ∧ m.visited ⊆ m'.visited ∧ after m'
  | .ok (_, some c) => Simple (Edge g) c
  | .error e => e = .tooDeep ∧ room ≤ U.countP (!m.visited.contains ·)

theorem Answers.weaken {U path : List String} {room : Nat} {m m₀ : Marks}
    {after after' : Marks → Prop} {r : Answer} (answers : Answers g U path room m after r)
    (grows : m₀.visited ⊆ m.visited) (more : ∀ m', m.visited ⊆ m'.visited → after m' → after' m') :
    Answers g U path room m₀ after' r := by
  rcases r with e | ⟨m', _ | c⟩
  · exact ⟨answers.1, answers.2.trans (unentered_mono grows)⟩
  · exact ⟨answers.1, List.Subset.trans grows answers.2.1, more m' answers.2.1 answers.2.2⟩
  · exact answers

section Follow

variable {U path : List String} {start : String} {room : Nat}
  {visit : Marks → List String → String → Answer}

theorem follow_answers
    (visits : ∀ m n, Sound g m (path ++ [start]) → n ∉ m.visited → Edge g start n →
      Answers g U (path ++ [start]) room m (n ∈ ·.visited) (visit m (path ++ [start]) n))
    (chain : (path ++ [start]).IsChain (Edge g)) (distinct : (path ++ [start]).Nodup) :
    ∀ (ns : List String) (m : Marks), Sound g m (path ++ [start]) → (∀ n ∈ ns, Edge g start n) →
      Answers g U (path ++ [start]) room m (fun m' => ∀ n ∈ ns, Done m' (path ++ [start]) n)
        (follow visit (path ++ [start]) m ns) := by
  intro ns
  induction ns with
  | nil =>
    intro m sound _
    exact ⟨sound, List.Subset.refl _, by simp⟩
  | cons n ns ih =>
    intro m sound links
    have link : Edge g start n := links n List.mem_cons_self
    have rest : ∀ x ∈ ns, Edge g start x := fun x mem => links x (List.mem_cons_of_mem n mem)
    by_cases entered : n ∈ m.visited
    · by_cases opened : n ∈ m.stack
      · -- a link back to an open node: it is on the path, and closes a cycle there
        have onPath : n ∈ path ++ [start] := sound.stack ▸ opened
        obtain ⟨i, found⟩ := Option.isSome_iff_exists.1 (List.isSome_idxOf?.2 onPath)
        have back : ∀ last ∈ (path ++ [start]).getLast?, Edge g last n := by simpa using link
        rw [follow_open entered opened, found]
        exact simple_of_back chain distinct back found
      · -- a finished node is passed by
        rw [follow_done entered opened]
        refine (ih m sound rest).weaken (List.Subset.refl _) fun m' grows after => ?_
        refine List.forall_mem_cons.2 ⟨⟨grows entered, ?_⟩, after⟩
        rwa [← sound.stack]
    · -- a new node is entered by a call; the links after it are followed from that call's marks
      have apart : n ∉ path ++ [start] := fun on => entered (sound.entered n on)
      have called := visits m n sound entered link
      rw [follow_new entered]
      generalize visit m (path ++ [start]) n = r at called ⊢
      rcases r with e | ⟨m', _ | c⟩
      · exact called
      · obtain ⟨sound', grows, mem⟩ := called
        refine (ih m' sound' rest).weaken grows fun m'' grows' after => ?_
        exact List.forall_mem_cons.2 ⟨⟨grows' mem, apart⟩, after⟩
      · exact called

end Follow

theorem search_answers {U : List String} (covers : ∀ u v, Edge g u v → v ∈ U) :
    ∀ (room : Nat) (m : Marks) (path : List String) (start : String), Sound g m path →
      start ∉ m.visited → start ∈ U → (path ++ [start]).IsChain (Edge g) → path.Nodup →
      Answers g U path room m (start ∈ ·.visited) (search g room m path start) := by
  intro room
  induction room using Nat.strong_induction_on with
  | _ room ih =>
  intro m path start sound fresh mem chain distinct
  -- with fewer than two calls left, the call cannot even mark its node
  have short : room ≤ 1 → Answers g U path room m (start ∈ ·.visited) (.error .tooDeep) :=
    fun few => ⟨rfl, le_trans few (unentered_pos mem fresh)⟩
  rcases room with _ | _ | room
  · exact short (by omega)
  · exact short le_rfl
  have apart : start ∉ path := fun on => fresh (sound.entered start on)
  have distinct' : (path ++ [start]).Nodup := List.concat_eq_append ▸ distinct.concat apart
  have followed := follow_answers
    (fun m' n sound' fresh' edge => ih (room + 1) (by omega) m' (path ++ [start]) n sound' fresh'
      (covers start n edge) (List.isChain_append.2 ⟨chain, by simp, by simpa using edge⟩) distinct')
    chain distinct' (targets g start) _ (sound.enter fresh) fun n edge => edge
  rw [search]
  generalize follow _ _ _ _ = r at followed ⊢
  rcases r with e | ⟨m', _ | c⟩
  · exact ⟨followed.1, Nat.succ_le_of_lt (lt_of_le_of_lt followed.2 (unentered_enter mem fresh))⟩
  · obtain ⟨sound', grows, links⟩ := followed
    exact ⟨sound'.leave distinct' links, fun v on => grows (List.mem_cons_of_mem _ on),
      grows List.mem_cons_self⟩
  · exact followed

theorem fromRoots_answers {U : List String} (covers : ∀ u v, Edge g u v → v ∈ U) (room : Nat) :
    ∀ (roots visited : List String), Sound g ⟨visited, []⟩ [] → (∀ n ∈ roots, n ∈ U) →
      ∃ r, Answers g U [] room ⟨visited, []⟩ (fun m => ∀ n ∈ roots, n ∈ m.visited) r ∧
        fromRoots g room visited roots = r.map Prod.snd := by
  intro roots
  induction roots with
  | nil =>
    intro visited sound _
    exact ⟨.ok (⟨visited, []⟩, none), ⟨sound, List.Subset.refl _, by simp⟩, rfl⟩
  | cons n ns ih =>
    intro visited sound inU
    have rest : ∀ x ∈ ns, x ∈ U := fun x mem => inU x (List.mem_cons_of_mem n mem)
    by_cases seen : n ∈ visited
    · obtain ⟨r, answers, eq⟩ := ih visited sound rest
      refine ⟨r, answers.weaken (List.Subset.refl _) fun m grows after =>
        List.forall_mem_cons.2 ⟨grows seen, after⟩, ?_⟩
      rw [fromRoots_seen seen, eq]
    · have searched := search_answers covers room ⟨visited, []⟩ [] n sound seen
        (inU n List.mem_cons_self) (by simp) List.nodup_nil
      rw [fromRoots_new seen]
      generalize search g room ⟨visited, []⟩ [] n = r at searched ⊢
      rcases r with e | ⟨m', _ | c⟩
      · exact ⟨.error e, searched, rfl⟩
      · -- the search from this root closed all its calls; go on from its marks
        obtain ⟨sound', grows, mem⟩ := searched
        have reset : (⟨m'.visited, []⟩ : Marks) = m' := by
          rw [← sound'.stack]
        obtain ⟨r, answers, eq⟩ := ih m'.visited (reset ▸ sound') rest
        exact ⟨r, answers.weaken grows fun m grows' after =>
          List.forall_mem_cons.2 ⟨grows' mem, after⟩, eq⟩
      · exact ⟨.ok (m', some c), searched, rfl⟩

/-! ### More room -/

theorem follow_mono {visit visit' : Marks → List String → String → Answer}
    (agree : ∀ m p n x, visit m p n = .ok x → visit' m p n = .ok x) (path : List String) :
    ∀ (ns : List String) (m : Marks) (x : Marks × Option (List String)),
      follow visit path m ns = .ok x → follow visit' path m ns = .ok x := by
  intro ns
  induction ns with
  | nil => exact fun _ _ done => done
  | cons n ns ih =>
    intro m x followed
    by_cases entered : n ∈ m.visited
    · by_cases opened : n ∈ m.stack
      · rwa [follow_open entered opened] at followed ⊢
      · rw [follow_done entered opened] at followed ⊢
        exact ih m x followed
    · rw [follow_new entered] at followed ⊢
      cases called : visit m path n with
      | error e => rw [called] at followed; cases followed
      | ok y =>
        rw [called] at followed
        rw [agree m path n y called]
        obtain ⟨m', _ | c⟩ := y
        · exact ih m' x followed
        · exact followed

theorem search_mono (path : List String) :
    ∀ (room room' : Nat), room ≤ room' → ∀ (m : Marks) (start : String) x,
      search g room m path start = .ok x → search g room' m path start = .ok x := by
  intro room
  induction room using Nat.strong_induction_on generalizing path with
  | _ room ih =>
  intro room' more m start x searched
  rcases room with _ | _ | room
  · cases searched
  · cases searched
  obtain ⟨room', rfl⟩ : ∃ k, room' = k + 2 := ⟨room' - 2, by omega⟩
  rw [search] at searched ⊢
  -- both calls follow the same links, with calls that agree wherever the smaller ones finish
  have agree : ∀ m p n y, search g (room + 1) m p n = .ok y → search g (room' + 1) m p n = .ok y :=
    fun m p n y called => ih (room + 1) (by omega) p (room' + 1) (by omega) m n y called
  cases followed : follow (search g (room + 1)) (path ++ [start])
      ⟨start :: m.visited, m.stack ++ [start]⟩ (targets g start) with
  | error e => rw [followed] at searched; cases searched
  | ok y => rw [followed] at searched; rw [follow_mono agree _ _ _ y followed]; exact searched

theorem fromRoots_mono {room room' : Nat} (more : room ≤ room') :
    ∀ (roots visited : List String) (c : Option (List String)),
      fromRoots g room visited roots = .ok c → fromRoots g room' visited roots = .ok c := by
  intro roots
  induction roots with
  | nil => exact fun _ _ done => done
  | cons n ns ih =>
    intro visited c found
    by_cases seen : n ∈ visited
    · rw [fromRoots_seen seen] at found ⊢
      exact ih visited c found
    · rw [fromRoots_new seen] at found ⊢
      cases searched : search g room ⟨visited, []⟩ [] n with
      | error e => rw [searched] at found; cases found
      | ok y =>
        rw [searched] at found
        rw [search_mono [] room room' more _ n y searched]
        obtain ⟨m', _ | c'⟩ := y
        · exact ih m'.visited c found
        · exact found

end Gamebook.Cycle
