-- SUMMARY: The tokens of a tree are read as the graph of its nodes.
import DataShape.Proofs.Yaml.Tree

/-!
# Composing trees

Reading the tokens of a tree takes them off and adds the nodes of the tree,
whatever tokens follow. As many steps as there are tokens are enough, and as
much room as the tree has collections inside one another.
-/

namespace DataShape.Yaml.Graph

/-! ## Steps -/

/-- The state with other tokens left and more nodes. -/
def Reading.advanced (r : Reading) (tokens : List Token) (added : List Node) : Reading :=
  { r with tokens, nodes := r.nodes ++ added.toArray }

section Steps

variable {r : Reading} {t : Token} {ts : List Token}

@[simp] theorem advanced_tokens (added : List Node) : (r.advanced ts added).tokens = ts := rfl

@[simp] theorem size_advanced (added : List Node) :
    (r.advanced ts added).nodes.size = r.nodes.size + added.length := by
  simp [Reading.advanced]

@[simp] theorem advanced_advanced (us : List Token) (added more : List Node) :
    (r.advanced ts added).advanced us more = r.advanced us (added ++ more) := by
  simp [Reading.advanced]

theorem advanced_self (h : r.tokens = ts) : r.advanced ts [] = r := by
  obtain ⟨tokens, nodes, anchors, handles⟩ := r
  cases h
  simp [Reading.advanced]

/-- Whether a token can be looked at. -/
def isSound (t : Token) : Bool :=
  match t with
  | .fault _ => false
  | _ => true

theorem peek_of_tokens (h : r.tokens = t :: ts) (ht : isSound t = true) : peek r = .ok (t, r) := by
  obtain ⟨tokens, nodes, anchors, handles⟩ := r
  cases h
  cases t with
  | fault f => cases ht
  | _ => rfl

theorem advance_of_tokens (h : r.tokens = t :: ts) :
    advance r = .ok (⟨⟩, r.advanced ts []) := by
  obtain ⟨tokens, nodes, anchors, handles⟩ := r
  cases h
  change Except.ok (PUnit.unit, Reading.mk ts nodes anchors handles) = _
  simp [Reading.advanced]

theorem expect_of_tokens (h : r.tokens = t :: ts) (ht : isSound t = true) :
    expect t r = .ok (⟨⟩, r.advanced ts []) := by
  unfold expect
  rw [bind_of_ok (peek_of_tokens h ht), if_pos rfl]
  exact advance_of_tokens h

theorem accept_of_tokens (h : r.tokens = t :: ts) (ht : isSound t = true) :
    accept t r = .ok (true, r.advanced ts []) := by
  unfold accept
  rw [bind_of_ok (peek_of_tokens h ht), if_pos rfl, bind_of_ok (advance_of_tokens h)]
  rfl

theorem accept_other {u : Token} (h : r.tokens = t :: ts) (ht : isSound t = true) (hne : t ≠ u) :
    accept u r = .ok (false, r) := by
  unfold accept
  rw [bind_of_ok (peek_of_tokens h ht), if_neg hne]
  rfl

theorem accept_then {β : Type} {k k' : Reader β} (h : r.tokens = t :: ts) (ht : isSound t = true) :
    (accept t >>= fun found => if found = true then k else k') r = k (r.advanced ts []) := by
  rw [bind_of_ok (accept_of_tokens h ht)]
  rfl

theorem accept_else {β : Type} {k k' : Reader β} {u : Token} (h : r.tokens = t :: ts)
    (ht : isSound t = true) (hne : t ≠ u) :
    (accept u >>= fun found => if found = true then k else k') r = k' r := by
  rw [bind_of_ok (accept_other h ht hne)]
  rfl

theorem addNode_none (n : Node) : addNode none n r = .ok (r.nodes.size, r.advanced r.tokens [n]) := by
  obtain ⟨tokens, nodes, anchors, handles⟩ := r
  simp only [Reading.advanced]
  rw [← Array.push_eq_append]
  rfl

/-- A node that was added gets its body when the nodes of its parts are there. -/
theorem setBody_advanced (tag : Tag) (empty body : Body) (parts : List Node) :
    setBody r.nodes.size body (r.advanced ts (⟨tag, empty⟩ :: parts)) =
      .ok (r.nodes.size, r.advanced ts (⟨tag, body⟩ :: parts)) := by
  have hmodify : (r.nodes ++ (⟨tag, empty⟩ :: parts).toArray).modify r.nodes.size
      (fun n => { n with body := body }) = r.nodes ++ (⟨tag, body⟩ :: parts).toArray := by
    apply Array.toList_inj.1
    rw [Array.toList_modify, Array.toList_append, Array.toList_append, ← Array.length_toList]
    exact modify_append_cons parts ⟨tag, empty⟩ _
  unfold Reading.advanced
  rw [← hmodify]
  rfl

/-- A collection is added without parts, its parts are read in the room inside it, and it gets them.
-/
theorem collection_of_parts {α : Type} {room : Nat} {m : Nat → Reader α} {a : α}
    {rest : List Token} {parts : List Node} (tag : Tag) (empty : Body) (body : α → Body)
    (hm : m room (r.advanced ts [⟨tag, empty⟩]) =
      .ok (a, r.advanced rest (⟨tag, empty⟩ :: parts))) :
    (addNode none ⟨tag, empty⟩ >>= fun id => enter (room + 1) >>= fun inner =>
        m inner >>= fun a => setBody id (body a)) (r.advanced ts []) =
      .ok (r.nodes.size, r.advanced rest (⟨tag, body a⟩ :: parts)) := by
  have hadd : addNode none ⟨tag, empty⟩ (r.advanced ts []) =
      .ok (r.nodes.size, r.advanced ts [⟨tag, empty⟩]) := by
    rw [addNode_none]
    simp
  have henter : enter (room + 1) (r.advanced ts [⟨tag, empty⟩]) =
      .ok (room, r.advanced ts [⟨tag, empty⟩]) := rfl
  rw [bind_of_ok hadd, bind_of_ok henter, bind_of_ok hm]
  apply setBody_advanced

end Steps

/-! ## Trees -/

/-- Whether a token can be the first one of a tree. -/
def startsTree : Token → Bool
  | .scalar _ _ => true
  | .flowSequenceStart => true
  | .flowMappingStart => true
  | _ => false

theorem isSound_of_startsTree {t : Token} (h : startsTree t = true) : isSound t = true := by
  cases t <;> first | rfl | cases h

theorem exists_first (t : Tree) : ∃ x xs, t.tokens = x :: xs ∧ startsTree x = true := by
  cases t <;> exact ⟨_, _, rfl, rfl⟩

theorem readProperties_none {r : Reading} {x : Token} {xs : List Token} (h : r.tokens = x :: xs)
    (hx : startsTree x = true) : readProperties r = .ok (.none, r) := by
  unfold readProperties
  rw [bind_of_ok (peek_of_tokens h (isSound_of_startsTree hx))]
  cases x <;> first | rfl | cases hx

/-- Where a node is written it is read. -/
theorem readNodeUnless_of_tokens {r : Reading} {ends : List Token} {x : Token} {xs : List Token}
    (room fuel : Nat) (place : Place) (h : r.tokens = x :: xs) (hx : isSound x = true)
    (hends : ends.contains x = false) :
    readNodeUnless ends room (fuel + 1) place r = readNode room fuel place r := by
  rw [readNodeUnless, bind_of_ok (peek_of_tokens h hx), hends, if_neg Bool.false_ne_true]

/-- The content of a node that starts a tree has neither an anchor nor a tag before it. -/
theorem readNode_scalar (s : ReadScalar) {r : Reading} (room fuel : Nat) (place : Place)
    {rest : List Token} (h : r.tokens = .scalar s.text s.plain :: rest) :
    readNode room (fuel + 1) place r = .ok (r.nodes.size, r.advanced rest [s.node]) := by
  have hpeek := peek_of_tokens h rfl
  rw [readNode, bind_of_ok hpeek]
  dsimp only
  rw [bind_of_ok (readProperties_none h rfl), bind_of_ok hpeek]
  dsimp only
  rw [bind_of_ok (advance_of_tokens h)]
  refine (addNode_none _).trans ?_
  simp
  rfl

/-- The tokens of items or fields, with a separator before the first one unless it is the first of
all. -/
def continued (first : Bool) (tss : List (List Token)) : List Token :=
  if first then separated .flowEntry tss else following .flowEntry tss

mutual

/-- The tokens of a tree are read as its nodes. -/
theorem readNode_tree (t : Tree) {r : Reading} {room fuel : Nat} (place : Place)
    {rest : List Token} (hroom : t.depth ≤ room) (hfuel : t.tokens.length ≤ fuel)
    (hr : r.tokens = t.tokens ++ rest) :
    readNode room fuel place r = .ok (r.nodes.size, r.advanced rest (t.nodes r.nodes.size)) := by
  have hpos : 0 < t.tokens.length := by cases t <;> exact Nat.succ_pos _
  obtain ⟨fuel, rfl⟩ := Nat.exists_eq_succ_of_ne_zero (n := fuel) (by omega)
  cases t with
  | scalar s => exact readNode_scalar s room fuel place hr
  | sequence items =>
    rw [Tree.depth] at hroom
    obtain ⟨room, rfl⟩ := Nat.exists_eq_succ_of_ne_zero (n := room) (by omega)
    have hinner : Tree.depthEach items ≤ room := Nat.le_of_succ_le_succ hroom
    have hfirst : r.tokens = .flowSequenceStart ::
        (continued true (Tree.tokensEach items) ++ .flowSequenceEnd :: rest) := by
      rw [hr, Tree.tokens]
      simp [continued]
    have hshort : (continued true (Tree.tokensEach items)).length < fuel := by
      simp only [Tree.tokens, List.length_append, List.length_cons] at hfuel
      exact Nat.lt_of_lt_of_le (Nat.lt_succ_self _) (Nat.le_of_succ_le_succ hfuel)
    have hitems := readFlowItems_tree items (r := r.advanced (continued true
      (Tree.tokensEach items) ++ .flowSequenceEnd :: rest) [⟨.seq, .sequence []⟩]) true hinner
      hshort [] rfl
    rw [size_advanced, advanced_advanced] at hitems
    have hpeek := peek_of_tokens hfirst rfl
    rw [readNode, bind_of_ok hpeek]
    dsimp only
    rw [bind_of_ok (readProperties_none hfirst rfl), bind_of_ok hpeek]
    dsimp only
    rw [bind_of_ok (advance_of_tokens hfirst)]
    exact collection_of_parts (m := fun room => readFlowItems room fuel true []) .seq (.sequence [])
      .sequence hitems
  | mapping fields =>
    rw [Tree.depth] at hroom
    obtain ⟨room, rfl⟩ := Nat.exists_eq_succ_of_ne_zero (n := room) (by omega)
    have hinner : Tree.depthFields fields ≤ room := Nat.le_of_succ_le_succ hroom
    have hfirst : r.tokens = .flowMappingStart ::
        (continued true (Tree.tokensFields fields) ++ .flowMappingEnd :: rest) := by
      rw [hr, Tree.tokens]
      simp [continued]
    have hshort : (continued true (Tree.tokensFields fields)).length < fuel := by
      simp only [Tree.tokens, List.length_append, List.length_cons] at hfuel
      exact Nat.lt_of_lt_of_le (Nat.lt_succ_self _) (Nat.le_of_succ_le_succ hfuel)
    have hfields := readFlowEntries_tree fields (r := r.advanced (continued true
      (Tree.tokensFields fields) ++ .flowMappingEnd :: rest) [⟨.map, .mapping []⟩]) true hinner
      hshort [] rfl
    rw [size_advanced, advanced_advanced] at hfields
    have hpeek := peek_of_tokens hfirst rfl
    rw [readNode, bind_of_ok hpeek]
    dsimp only
    rw [bind_of_ok (readProperties_none hfirst rfl), bind_of_ok hpeek]
    dsimp only
    rw [bind_of_ok (advance_of_tokens hfirst)]
    exact collection_of_parts (m := fun room => readFlowEntries room fuel true []) .map
      (.mapping []) .mapping hfields
termination_by sizeOf t

theorem readFlowItems_tree (ts : List Tree) {r : Reading} {room fuel : Nat} (first : Bool)
    {rest : List Token} (hroom : Tree.depthEach ts ≤ room)
    (hfuel : (continued first (Tree.tokensEach ts)).length < fuel)
    (acc : List Nat)
    (hr : r.tokens = continued first (Tree.tokensEach ts) ++ .flowSequenceEnd :: rest) :
    readFlowItems room fuel first acc r = .ok (acc.reverse ++ Tree.numbers r.nodes.size ts,
      r.advanced rest (Tree.nodesEach r.nodes.size ts)) := by
  obtain ⟨fuel, rfl⟩ := Nat.exists_eq_succ_of_ne_zero (n := fuel) (by omega)
  cases ts with
  | nil =>
    have hend : r.tokens = .flowSequenceEnd :: rest := by cases first <;> exact hr
    rw [readFlowItems, accept_then hend rfl, Tree.numbers, List.append_nil]
    rfl
  | cons t ts =>
    obtain ⟨x, xs, hxs, hx⟩ := exists_first t
    let us := following .flowEntry (Tree.tokensEach ts) ++ .flowSequenceEnd :: rest
    have htokens : r.tokens = if first then t.tokens ++ us else .flowEntry :: (t.tokens ++ us) := by
      rw [hr]
      cases first <;> simp [continued, separated, Tree.tokensEach, us]
    have hpos : 0 < t.tokens.length := by rw [hxs]; exact Nat.succ_pos _
    have hshort : t.tokens.length ≤ fuel ∧
        (following .flowEntry (Tree.tokensEach ts)).length < fuel := by
      cases first <;> simp [continued, separated, Tree.tokensEach] at hfuel <;> omega
    rw [Tree.depthEach, Nat.max_le] at hroom
    have hnode : readNode room fuel .flow (r.advanced (t.tokens ++ us) []) =
        .ok (r.nodes.size, r.advanced us (t.nodes r.nodes.size)) := by
      simpa using readNode_tree t (r := r.advanced (t.tokens ++ us) []) .flow hroom.1 hshort.1 rfl
    have hrest := readFlowItems_tree ts (r := r.advanced us (t.nodes r.nodes.size)) false hroom.2
      hshort.2 (r.nodes.size :: acc) rfl
    rw [size_advanced, advanced_advanced, Tree.length_nodes] at hrest
    have hgoal : acc.reverse ++ Tree.numbers r.nodes.size (t :: ts) =
        (r.nodes.size :: acc).reverse ++ Tree.numbers (r.nodes.size + t.size) ts := by
      simp [Tree.numbers]
    have hsound := isSound_of_startsTree hx
    have hne : x ≠ .flowSequenceEnd ∧ x ≠ .key := by
      constructor <;> rintro rfl <;> cases hx
    have hitem : (r.advanced (t.tokens ++ us) []).tokens = x :: (xs ++ us) := by
      rw [advanced_tokens, hxs]
      rfl
    rw [readFlowItems, hgoal]
    cases first with
    | true =>
      have hself := advanced_self htokens
      simp only [if_true] at hself
      rw [hself] at hnode hitem
      rw [accept_else hitem hsound hne.1, Bool.not_true, if_neg Bool.false_ne_true]
      dsimp only
      rw [accept_else hitem hsound hne.1, accept_else hitem hsound hne.2, bind_of_ok hnode]
      exact hrest
    | false =>
      rw [accept_else htokens rfl (by decide), Bool.not_false, if_pos rfl,
        bind_of_ok (expect_of_tokens htokens rfl)]
      dsimp only
      rw [accept_else hitem hsound hne.1, accept_else hitem hsound hne.2, bind_of_ok hnode]
      exact hrest
termination_by sizeOf ts

theorem readFlowEntries_tree (fs : List (Text × Tree)) {r : Reading} {room fuel : Nat}
    (first : Bool) {rest : List Token} (hroom : Tree.depthFields fs ≤ room)
    (hfuel : (continued first (Tree.tokensFields fs)).length < fuel)
    (acc : List (Nat × Nat))
    (hr : r.tokens = continued first (Tree.tokensFields fs) ++ .flowMappingEnd :: rest) :
    readFlowEntries room fuel first acc r = .ok (acc.reverse ++ Tree.fieldNumbers r.nodes.size fs,
      r.advanced rest (Tree.nodesFields r.nodes.size fs)) := by
  obtain ⟨fuel, rfl⟩ := Nat.exists_eq_succ_of_ne_zero (n := fuel) (by omega)
  cases fs with
  | nil =>
    have hend : r.tokens = .flowMappingEnd :: rest := by cases first <;> exact hr
    rw [readFlowEntries, accept_then hend rfl, Tree.fieldNumbers, List.append_nil]
    rfl
  | cons f fs =>
    cases f with
    | mk name t =>
      let us := following .flowEntry (Tree.tokensFields fs) ++ .flowMappingEnd :: rest
      let entry := Token.key :: .scalar name false :: .value :: (t.tokens ++ us)
      have htokens : r.tokens = if first then entry else .flowEntry :: entry := by
        rw [hr]
        cases first <;> simp [continued, separated, Tree.tokensFields, us, entry]
      obtain ⟨fuel, rfl, hshort, hlater⟩ : ∃ f, fuel = f + 2 ∧ t.tokens.length ≤ f ∧
          (following .flowEntry (Tree.tokensFields fs)).length < f + 2 := by
        refine ⟨fuel - 2, ?_⟩
        cases first <;> simp [continued, separated, Tree.tokensFields] at hfuel <;> omega
      obtain ⟨x, xs, hxs, hx⟩ := exists_first t
      rw [Tree.depthFields, Nat.max_le] at hroom
      have hkey : readNodeUnless [.value, .flowEntry, .flowMappingEnd] room (fuel + 2) .flow
          (r.advanced (.scalar name false :: .value :: (t.tokens ++ us)) []) =
          .ok (r.nodes.size, r.advanced (.value :: (t.tokens ++ us))
            [(ReadScalar.quoted name).node]) := by
        rw [readNodeUnless_of_tokens _ _ _ rfl rfl rfl]
        simpa using readNode_scalar (ReadScalar.quoted name)
          (r := r.advanced (.scalar name false :: .value :: (t.tokens ++ us)) []) room fuel .flow
          rfl
      have hvalue : readValue [.flowEntry, .flowMappingEnd] room (fuel + 2) .flow
          (r.advanced (.value :: (t.tokens ++ us)) [(ReadScalar.quoted name).node]) =
          .ok (r.nodes.size + 1, r.advanced us
            ((ReadScalar.quoted name).node :: t.nodes (r.nodes.size + 1))) := by
        have hfirst : (r.advanced (t.tokens ++ us) [(ReadScalar.quoted name).node]).tokens =
            x :: (xs ++ us) := by
          rw [advanced_tokens, hxs]
          rfl
        have hends : [Token.flowEntry, .flowMappingEnd].contains x = false := by
          cases x <;> first | rfl | cases hx
        have hnode := readNode_tree t (r := r.advanced (t.tokens ++ us)
          [(ReadScalar.quoted name).node]) .flow hroom.1 hshort rfl
        rw [size_advanced, advanced_advanced] at hnode
        rw [readValue, accept_then rfl rfl, advanced_advanced, List.append_nil,
          readNodeUnless_of_tokens _ _ _ hfirst (isSound_of_startsTree hx) hends]
        exact hnode
      have hrest := readFlowEntries_tree fs (r := r.advanced us
        ((ReadScalar.quoted name).node :: t.nodes (r.nodes.size + 1))) false hroom.2 hlater
        ((r.nodes.size, r.nodes.size + 1) :: acc) rfl
      have hsize : r.nodes.size + ((ReadScalar.quoted name).node ::
          t.nodes (r.nodes.size + 1)).length = r.nodes.size + 1 + t.size := by
        rw [List.length_cons, Tree.length_nodes]
        omega
      rw [size_advanced, advanced_advanced, hsize] at hrest
      have hgoal : acc.reverse ++ Tree.fieldNumbers r.nodes.size ((name, t) :: fs) =
          ((r.nodes.size, r.nodes.size + 1) :: acc).reverse ++
            Tree.fieldNumbers (r.nodes.size + 1 + t.size) fs := by
        simp [Tree.fieldNumbers]
      have hentry : (r.advanced entry []).tokens = entry := rfl
      rw [readFlowEntries, hgoal]
      cases first with
      | true =>
        have hself := advanced_self htokens
        simp only [if_true] at hself
        rw [hself] at hentry
        rw [accept_else hentry rfl (by decide), Bool.not_true, if_neg Bool.false_ne_true]
        dsimp only
        rw [accept_else hentry rfl (by decide), accept_then hentry rfl, bind_of_ok hkey,
          bind_of_ok hvalue]
        exact hrest
      | false =>
        rw [accept_else htokens rfl (by decide), Bool.not_false, if_pos rfl,
          bind_of_ok (expect_of_tokens htokens rfl)]
        dsimp only
        rw [accept_else hentry rfl (by decide), accept_then hentry rfl, advanced_advanced,
          List.append_nil, bind_of_ok hkey, bind_of_ok hvalue]
        exact hrest
termination_by sizeOf fs

end

/-! ## Documents -/

theorem readEnd_of_streamEnd {r : Reading} {ts : List Token} (fuel : Nat)
    (h : r.tokens = .streamEnd :: ts) : readEnd (fuel + 1) r = .ok (⟨⟩, r) := by
  have hskip : skipDocumentEnds (fuel + 1) r = .ok (⟨⟩, r) := by
    rw [skipDocumentEnds, accept_else h rfl (by decide)]
    rfl
  unfold readEnd
  rw [bind_of_ok hskip, bind_of_ok (peek_of_tokens h rfl), if_neg (by simp)]
  rfl

theorem readRoot_tree (t : Tree) {r : Reading} {room fuel : Nat} {rest : List Token}
    (hroom : t.depth ≤ room) (hfuel : t.tokens.length ≤ fuel) (hr : r.tokens = t.tokens ++ rest) :
    readRoot room fuel r = .ok (some r.nodes.size, r.advanced rest (t.nodes r.nodes.size)) := by
  obtain ⟨x, xs, hxs, hx⟩ := exists_first t
  have hfirst : r.tokens = x :: (xs ++ rest) := by rw [hr, hxs]; rfl
  have hnode := bind_of_ok (k := fun id => pure (some id)) (readNode_tree t .block hroom hfuel hr)
  unfold readRoot
  rw [bind_of_ok (peek_of_tokens hfirst (isSound_of_startsTree hx))]
  cases x <;> first | exact hnode | cases hx

/-- The tokens of a tree are the graph of its nodes. -/
theorem ofTokens_tree (t : Tree) {room : Nat} (hroom : t.depth ≤ room) :
    ofTokens room (t.tokens ++ [.streamEnd]) = .ok (some ⟨(t.nodes 0).toArray, 0⟩) := by
  let fuel := 3 * (t.tokens ++ [Token.streamEnd]).length + 7
  let start : Reading := ⟨t.tokens ++ [.streamEnd], #[], [], commonHandles⟩
  let read : Reader (Option Nat) := do
    let root ← readRoot room (fuel + 1)
    readEnd (fuel + 1)
    return root
  have hfuel : t.tokens.length ≤ fuel + 1 := by
    simp only [fuel, List.length_append]
    omega
  have hread : read start = .ok (some 0, start.advanced [.streamEnd] (t.nodes 0)) := by
    have hroot := readRoot_tree t (r := start) hroom hfuel rfl
    have hend : readEnd (fuel + 1) (start.advanced [.streamEnd] (t.nodes 0)) =
        .ok (⟨⟩, start.advanced [.streamEnd] (t.nodes 0)) := readEnd_of_streamEnd fuel rfl
    refine (bind_of_ok hroot).trans ?_
    exact bind_of_ok hend
  change (read start >>= fun x => pure (x.1.map fun id => Graph.mk x.2.nodes id)) = _
  rw [hread]
  simp [start, Reading.advanced, bind, Except.bind, pure, Except.pure]

end DataShape.Yaml.Graph
