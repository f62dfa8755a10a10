-- SUMMARY: The graph of a tree has the value of the tree as its content.
import Mathlib.Data.List.Forall2
import DataShape.Proofs.Yaml.Content
import DataShape.Proofs.Yaml.Tree

/-!
# Content of trees

Where a tree stands in a graph, each node that is met gets the piece that the
tree has there, and its parts are met in the round after. The trees get smaller
from round to round, so no collection is left without its parts, and the value
at the root is the value of the tree if the host goes as deep as the tree.
-/

namespace DataShape.Yaml

namespace Tree

/-! ## Trees in graphs -/

mutual

/-- The nodes of a tree stand in a graph from a number on. -/
def Stands (nodes : Array Node) (n : Nat) : Tree → Prop
  | .scalar s => nodes[n]? = some s.node
  | .sequence items =>
    nodes[n]? = some ⟨.seq, .sequence (numbers (n + 1) items)⟩ ∧ StandEach nodes (n + 1) items
  | .mapping fields =>
    nodes[n]? = some ⟨.map, .mapping (fieldNumbers (n + 1) fields)⟩ ∧
      StandFields nodes (n + 1) fields
termination_by structural t => t

def StandEach (nodes : Array Node) (n : Nat) : List Tree → Prop
  | [] => True
  | t :: ts => t.Stands nodes n ∧ StandEach nodes (n + t.size) ts
termination_by structural ts => ts

def StandFields (nodes : Array Node) (n : Nat) : List (Text × Tree) → Prop
  | [] => True
  | (name, t) :: fs =>
    nodes[n]? = some (ReadScalar.quoted name).node ∧ t.Stands nodes (n + 1) ∧
      StandFields nodes (n + 1 + t.size) fs
termination_by structural fs => fs

end

section

variable {nodes : Array Node} {n : Nat}

/-- A list stands in a graph from a number on. -/
def Holds (nodes : Array Node) (n : Nat) (ns : List Node) : Prop :=
  ∀ i : Nat, ∀ x ∈ ns[i]?, nodes[n + i]? = some x

theorem Holds.head {x : Node} {ns : List Node} (h : Holds nodes n (x :: ns)) :
    nodes[n]? = some x := h 0 x rfl

theorem Holds.tail {x : Node} {ns : List Node} (h : Holds nodes n (x :: ns)) :
    Holds nodes (n + 1) ns := by
  intro i y hy
  rw [Nat.add_assoc, Nat.add_comm 1]
  exact h (i + 1) y hy

theorem Holds.left {xs ys : List Node} (h : Holds nodes n (xs ++ ys)) : Holds nodes n xs := by
  intro i x hx
  obtain ⟨hi, -⟩ := List.getElem?_eq_some_iff.1 hx
  exact h i x (by rw [List.getElem?_append_left hi]; exact hx)

theorem Holds.right {xs ys : List Node} (h : Holds nodes n (xs ++ ys)) :
    Holds nodes (n + xs.length) ys := by
  intro i y hy
  rw [Nat.add_assoc]
  apply h
  rw [List.getElem?_append_right (Nat.le_add_right _ _), Nat.add_sub_cancel_left]
  exact hy

mutual

theorem stands_of_holds (t : Tree) {n : Nat} (h : Holds nodes n (t.nodes n)) :
    t.Stands nodes n := by
  cases t with
  | scalar s => exact h.head
  | sequence items => exact ⟨h.head, standEach_of_holds items h.tail⟩
  | mapping fields => exact ⟨h.head, standFields_of_holds fields h.tail⟩
termination_by structural t

theorem standEach_of_holds (ts : List Tree) {n : Nat} (h : Holds nodes n (nodesEach n ts)) :
    StandEach nodes n ts := by
  cases ts with
  | nil => trivial
  | cons t ts =>
    have hrest := h.right
    rw [length_nodes] at hrest
    exact ⟨stands_of_holds t h.left, standEach_of_holds ts hrest⟩
termination_by structural ts

theorem standFields_of_holds (fs : List (Text × Tree)) {n : Nat}
    (h : Holds nodes n (nodesFields n fs)) : StandFields nodes n fs := by
  cases fs with
  | nil => trivial
  | cons f fs =>
    have hrest := h.tail.right
    rw [length_nodes] at hrest
    exact ⟨h.head, stands_of_holds f.2 h.tail.left, standFields_of_holds fs hrest⟩
termination_by structural fs

end

theorem stands_nodes (t : Tree) : t.Stands (t.nodes 0).toArray 0 := by
  apply stands_of_holds
  intro i x hx
  rw [Nat.zero_add, List.getElem?_toArray]
  exact hx

theorem ReadScalar.value_eq {s s' : ReadScalar} (h : s.node = s'.node) : s.value = s'.value := by
  have htag : Graph.scalarTag none s.text s.plain = Graph.scalarTag none s'.text s'.plain :=
    congrArg Node.tag h
  have htext : s.text = s'.text := Body.scalar.inj (congrArg Node.body h)
  have hread := s.reads
  rw [htag, htext, s'.reads] at hread
  exact (Except.ok.inj hread).symm

theorem body_eq {x y : Node} (hx : nodes[n]? = some x) (hy : nodes[n]? = some y) :
    x.body = y.body := congrArg Node.body (Option.some.inj (hx.symm.trans hy))

mutual

/-- The nodes of a graph tell which value stands where, how far its nodes reach, and how deep. -/
theorem value_unique (t : Tree) {n : Nat} {u : Tree} (ht : t.Stands nodes n)
    (hu : u.Stands nodes n) : t.value = u.value ∧ t.size = u.size ∧ t.depth = u.depth := by
  cases t with
  | scalar s =>
    cases u with
    | scalar s' => exact ⟨ReadScalar.value_eq (Option.some.inj (ht.symm.trans hu)), rfl, rfl⟩
    | sequence items' => exact nomatch body_eq ht hu.1
    | mapping fields' => exact nomatch body_eq ht hu.1
  | sequence items =>
    cases u with
    | scalar s' => exact nomatch body_eq ht.1 hu
    | sequence items' =>
      have hnumbers := Body.sequence.inj (body_eq ht.1 hu.1)
      obtain ⟨hvalue, hsize, hdepth⟩ := valueEach_unique items hnumbers ht.2 hu.2
      exact ⟨congrArg Value.list hvalue, congrArg (· + 1) hsize, congrArg (· + 1) hdepth⟩
    | mapping fields' => exact nomatch body_eq ht.1 hu.1
  | mapping fields =>
    cases u with
    | scalar s' => exact nomatch body_eq ht.1 hu
    | sequence items' => exact nomatch body_eq ht.1 hu.1
    | mapping fields' =>
      have hnumbers := Body.mapping.inj (body_eq ht.1 hu.1)
      obtain ⟨hvalue, hsize, hdepth⟩ := valueFields_unique fields hnumbers ht.2 hu.2
      rw [value, value, hvalue]
      exact ⟨rfl, congrArg (· + 1) hsize, congrArg (· + 1) hdepth⟩
termination_by structural t

theorem valueEach_unique (ts : List Tree) {n : Nat} {us : List Tree}
    (h : numbers n ts = numbers n us) (ht : StandEach nodes n ts) (hu : StandEach nodes n us) :
    valueEach ts = valueEach us ∧ sizeEach ts = sizeEach us ∧ depthEach ts = depthEach us := by
  cases ts with
  | nil =>
    cases us with
    | nil => exact ⟨rfl, rfl, rfl⟩
    | cons u us => cases h
  | cons t ts =>
    cases us with
    | nil => cases h
    | cons u us =>
      obtain ⟨hvalue, hsize, hdepth⟩ := value_unique t ht.1 hu.1
      have hrest := (List.cons.inj h).2
      rw [hsize] at hrest
      obtain ⟨hvalues, hsizes, hdepths⟩ := valueEach_unique ts hrest (hsize ▸ ht.2) hu.2
      simp only [valueEach, sizeEach, depthEach, hvalue, hvalues, hsize, hsizes, hdepth, hdepths,
        and_self]
termination_by structural ts

theorem valueFields_unique (fs : List (Text × Tree)) {n : Nat} {gs : List (Text × Tree)}
    (h : fieldNumbers n fs = fieldNumbers n gs) (hf : StandFields nodes n fs)
    (hg : StandFields nodes n gs) :
    valueFields fs = valueFields gs ∧ sizeFields fs = sizeFields gs ∧
      depthFields fs = depthFields gs := by
  cases fs with
  | nil =>
    cases gs with
    | nil => exact ⟨rfl, rfl, rfl⟩
    | cons g gs => cases h
  | cons f fs =>
    cases gs with
    | nil => cases h
    | cons g gs =>
      obtain ⟨name, t⟩ := f
      obtain ⟨name', u⟩ := g
      obtain rfl : name = name' := Body.scalar.inj (body_eq hf.1 hg.1)
      obtain ⟨hvalue, hsize, hdepth⟩ := value_unique t hf.2.1 hg.2.1
      have hrest := (List.cons.inj h).2
      rw [hsize] at hrest
      obtain ⟨hvalues, hsizes, hdepths⟩ := valueFields_unique fs hrest (hsize ▸ hf.2.2) hg.2.2
      simp only [valueFields, sizeFields, depthFields, hvalue, hvalues, hsize, hsizes, hdepth,
        hdepths, and_self]
termination_by structural fs

end

end

end Tree

/-! ## Steps that succeed -/

/-- A step succeeds, with a result and a state of some kind. -/
def Succeeds {σ α : Type} (o : Except Fault (α × σ)) (Q : α → σ → Prop) : Prop :=
  ∃ a s, o = .ok (a, s) ∧ Q a s

section Succeeds

variable {σ α β : Type} {m : StateT σ (Except Fault) α} {k : α → StateT σ (Except Fault) β}
  {Q Q' : α → σ → Prop} {R : β → σ → Prop} {s : σ}

theorem Succeeds.mono (h : Succeeds (m s) Q) (hQ : ∀ a s', Q a s' → Q' a s') :
    Succeeds (m s) Q' := by
  obtain ⟨a, s', hm, ha⟩ := h
  exact ⟨a, s', hm, hQ a s' ha⟩

theorem Succeeds.bind (h : Succeeds (m s) Q) (hk : ∀ a s', Q a s' → Succeeds (k a s') R) :
    Succeeds ((m >>= k) s) R := by
  obtain ⟨a, s', hm, ha⟩ := h
  rw [bind_of_ok hm]
  exact hk a s' ha

theorem succeeds_pure {a : α} (h : Q a s) :
    Succeeds ((pure a : StateT σ (Except Fault) α) s) Q := ⟨a, s, rfl, h⟩

end Succeeds

namespace Content

open DataShape.Yaml.Tree

/-! ## Pieces of trees -/

/-- Whether a tree with a value stands somewhere. -/
def ValueAt (graph : Array Node) (i : Nat) (v : Value) : Prop :=
  ∃ t : Tree, t.Stands graph i ∧ t.value = v

theorem ValueAt.unique {graph : Array Node} {i : Nat} {v w : Value} (h : ValueAt graph i v)
    (h' : ValueAt graph i w) : v = w := by
  obtain ⟨t, ht, rfl⟩ := h
  obtain ⟨u, hu, rfl⟩ := h'
  exact (value_unique t ht hu).1

open Classical in
/-- How deep the tree is that stands somewhere. -/
noncomputable def depthAt (graph : Array Node) (i : Nat) : Nat :=
  if h : ∃ t : Tree, t.Stands graph i then h.choose.depth else 0

theorem depthAt_eq {graph : Array Node} {i : Nat} {t : Tree} (h : t.Stands graph i) :
    depthAt graph i = t.depth := by
  have hexists : ∃ t : Tree, t.Stands graph i := ⟨t, h⟩
  rw [depthAt, dif_pos hexists]
  exact (value_unique _ hexists.choose_spec h).2.2

/-- An entry of a record, whose value stands in the graph. -/
def EntryAt (graph : Array Node) (e : Value × Nat) (f : Value × Value) : Prop :=
  e.1 = f.1 ∧ ValueAt graph e.2 f.2

/-- The value that a piece gives when its parts have the values that stand in the graph. -/
inductive Piece.Gives (graph : Array Node) : Piece → Value → Prop
  | scalar (v : Value) : Gives graph (.scalar v) v
  | list {items : List Nat} {vs : List Value} (h : List.Forall₂ (ValueAt graph) items vs) :
    Gives graph (.list items) (.list vs)
  | record {entries : List (Value × Nat)} {fields : List (Value × Value)}
    (h : List.Forall₂ (EntryAt graph) entries fields) :
    Gives graph (.record entries) (.object .plain fields)

theorem map_eq_of_forall₂ {α β : Type} {f : α → β} {R : α → β → Prop} {xs : List α} {ys : List β}
    (h : List.Forall₂ R xs ys) (hf : ∀ x ∈ xs, ∀ y, R x y → f x = y) : xs.map f = ys := by
  induction h with
  | nil => rfl
  | cons hxy _ ih =>
    obtain ⟨hx, hf⟩ := List.forall_mem_cons.1 hf
    rw [List.map_cons, hx _ hxy, ih hf]

theorem Piece.Gives.value_eq {graph : Array Node} {p : Piece} {v : Value} (h : p.Gives graph v)
    {known : Nat → Value} (hknown : ∀ part ∈ p.parts, ∀ w, ValueAt graph part w → known part = w) :
    p.value known = v := by
  cases h with
  | scalar v => rfl
  | list h => exact congrArg Value.list (map_eq_of_forall₂ h hknown)
  | record h =>
    refine congrArg (Value.object .plain) (map_eq_of_forall₂ h fun e he f hef => ?_)
    exact Prod.ext hef.1 (hknown e.2 (List.mem_map.2 ⟨e, he, rfl⟩) f.2 hef.2)

/-- A piece that gives the value that stands at its number, and whose parts are there and not so
deep. -/
structure Piece.Finished (graph : Array Node) (pieces : Array (Option Piece)) (i : Nat)
    (p : Piece) : Prop where
  gives : ∃ v, ValueAt graph i v ∧ p.Gives graph v
  parts : ∀ part ∈ p.parts, depthAt graph part < depthAt graph i ∧ Present pieces part

/-- Whether a collection of at most so many nodes stands somewhere. -/
def CollectionAt (graph : Array Node) (bound i : Nat) : Prop :=
  ∃ t : Tree, t.Stands graph i ∧ t.size ≤ bound ∧ ∀ s, graph[i]? ≠ some (ReadScalar.node s)

/-- The nodes are those of trees and do not change. Each piece is finished, or is one of those that
wait for their parts. -/
structure Building.Follows (graph : Array Node) (waiting : List Nat) (bound : Nat) (b : Building) :
    Prop where
  nodes : b.nodes = graph
  size : b.pieces.size = graph.size
  finished : ∀ {i : Nat} {p : Piece}, b.pieces[i]? = some (some p) →
    p.Finished graph b.pieces i ∨ i ∈ waiting ∨ i ∈ b.pending
  leaf : ∀ {i : Nat} {p : Piece} {s : ReadScalar}, b.pieces[i]? = some (some p) →
    graph[i]? = some (ReadScalar.node s) → p = .scalar s.value
  pending : ∀ i ∈ b.pending, CollectionAt graph bound i

/-- A state that follows another one, in which all pieces are still there. -/
structure Building.Advances (graph : Array Node) (waiting : List Nat) (bound : Nat)
    (b b' : Building) : Prop extends b'.Follows graph waiting bound where
  kept : ∀ {i}, Present b.pieces i → Present b'.pieces i

theorem Building.Advances.trans {graph : Array Node} {waiting : List Nat} {bound : Nat}
    {b b' b'' : Building} {waiting' : List Nat} {bound' : Nat}
    (h : b.Advances graph waiting bound b') (h' : b'.Advances graph waiting' bound' b'') :
    b.Advances graph waiting' bound' b'' :=
  ⟨h'.toFollows, fun hi => h'.kept (h.kept hi)⟩

section

variable {graph : Array Node} {waiting : List Nat} {bound id : Nat} {b : Building}

theorem Piece.Finished.mono {pieces pieces' : Array (Option Piece)} {i : Nat} {p : Piece}
    (h : p.Finished graph pieces i) (hkept : ∀ {i}, Present pieces i → Present pieces' i) :
    p.Finished graph pieces' i :=
  ⟨h.gives, fun part hpart => ⟨(h.parts part hpart).1, hkept (h.parts part hpart).2⟩⟩

/-- A node gets a piece, which is finished or waits for its parts from now on. -/
theorem Building.Follows.set (h : b.Follows graph waiting bound) (hid : id < graph.size)
    {p : Piece} {waiting' pending' : List Nat}
    (hp : p.Finished graph b.pieces id ∨ id ∈ waiting' ∨ id ∈ pending')
    (hleaf : ∀ {s}, graph[id]? = some (ReadScalar.node s) → p = .scalar s.value)
    (hwaiting : ∀ i, i ∈ waiting ∨ i ∈ b.pending → i = id ∨ i ∈ waiting' ∨ i ∈ pending')
    (hpending : ∀ i ∈ pending', CollectionAt graph bound i) :
    b.Advances graph waiting' bound
      { b with pieces := b.pieces.setIfInBounds id (some p), pending := pending' } := by
  have hkept : ∀ {i}, Present b.pieces i → Present (b.pieces.setIfInBounds id (some p)) i :=
    present_setIfInBounds id p
  have hcases : ∀ {i q}, (b.pieces.setIfInBounds id (some p))[i]? = some (some q) →
      (i = id ∧ q = p) ∨ (i ≠ id ∧ b.pieces[i]? = some (some q)) := by
    intro i q hq
    rw [Array.getElem?_setIfInBounds] at hq
    split at hq
    · rename_i heq
      rw [if_pos (h.size ▸ hid)] at hq
      cases hq
      exact .inl ⟨heq.symm, rfl⟩
    · rename_i hne
      exact .inr ⟨fun heq => hne heq.symm, hq⟩
  refine ⟨⟨h.nodes, by rw [Array.size_setIfInBounds, h.size], ?_, ?_, hpending⟩, hkept⟩
  · intro i q hq
    rcases hcases hq with ⟨rfl, rfl⟩ | ⟨hne, hq⟩
    · exact hp.imp_left (·.mono hkept)
    · rcases h.finished hq with hfinished | hwaits
      · exact .inl (hfinished.mono hkept)
      · exact .inr ((hwaiting i hwaits).resolve_left hne)
  · intro i q s hq hs
    rcases hcases hq with ⟨rfl, rfl⟩ | ⟨-, hq⟩
    · exact hleaf hs
    · exact h.leaf hq hs

/-! ## Steps on trees -/

theorem node_eq {n : Node} (h : b.nodes[id]? = some n) : node id b = .ok (n, b) := by
  rw [node, get_bind, h]
  rfl

theorem madeFrom_of_not_isNaN {v : Value} (h : v.isNaN = false) : madeFrom id v = v := by
  cases v with
  | float x =>
    cases x with
    | nan which => cases h
    | _ => rfl
  | _ => rfl

theorem leaf_eq {s : ReadScalar} (h : b.nodes[id]? = some s.node) (room : Nat) :
    leaf room id b = .ok (s.value, b) := by
  have htext : scalarText room id b = .ok (s.text, b) := by
    rw [scalarText.eq_def, bind_of_ok (node_eq h)]
    rfl
  have hreads := s.reads
  unfold leaf
  rw [bind_of_ok (node_eq h)]
  unfold ReadScalar.node
  generalize Graph.scalarTag none s.text s.plain = tag at hreads
  have hread : (do return madeFrom id (← Scalar.read tag s.text) : Builder Value) b =
      .ok (s.value, b) := by
    rw [hreads]
    exact congrArg (fun v => Except.ok (v, b)) (madeFrom_of_not_isNaN s.isNumber)
  have hsome : (do
      let text ← scalarText room id
      return madeFrom id (← Scalar.read tag text) : Builder Value) b = .ok (s.value, b) := by
    rw [bind_of_ok htext]
    exact hread
  cases tag <;> first | exact hsome | cases hreads

theorem emptyPiece?_scalar {s : ReadScalar} : emptyPiece? s.node.tag = none := by
  have hreads := s.reads
  unfold ReadScalar.node
  dsimp only
  generalize Graph.scalarTag none s.text s.plain = tag at hreads ⊢
  cases tag <;> first | rfl | cases hreads

theorem stands_lt {t : Tree} (h : t.Stands graph id) : id < graph.size := by
  have hsome : ∃ n, graph[id]? = some n := by
    cases t with
    | scalar s => exact ⟨_, h⟩
    | sequence items => exact ⟨_, h.1⟩
    | mapping fields => exact ⟨_, h.1⟩
  obtain ⟨n, hn⟩ := hsome
  exact (Array.getElem?_eq_some_iff.1 hn).1

/-- A node is given a piece. -/
theorem getElem?_set (h : b.Follows graph waiting bound) (hid : id < graph.size) (p : Piece) :
    (b.pieces.setIfInBounds id (some p))[id]? = some (some p) := by
  rw [Array.getElem?_setIfInBounds, if_pos rfl, if_pos (h.size ▸ hid)]

/-- A collection has no parts at first, and waits for them. -/
theorem emptyPiece_succeeds (h : b.Follows graph waiting bound) {t : Tree} {n : Node} {p : Piece}
    (ht : t.Stands graph id) (hsize : t.size ≤ bound) (hn : graph[id]? = some n)
    (hscalar : ∀ s, n ≠ ReadScalar.node s) :
    Succeeds ((do
      setPiece id p
      modify fun b => { b with pending := id :: b.pending }
      return p : Builder Piece) b) fun p b' =>
    b.Advances graph waiting bound b' ∧ b'.pieces[id]? = some (some p) := by
  have hid := stands_lt ht
  have hscalar : ∀ s, graph[id]? ≠ some (ReadScalar.node s) :=
    fun s hs => hscalar s (Option.some.inj (hn.symm.trans hs))
  refine ⟨p, { b with pieces := b.pieces.setIfInBounds id (some p), pending := id :: b.pending },
    rfl, h.set hid ?_ (fun {s} hs => absurd hs (hscalar s)) ?_ ?_, getElem?_set h hid p⟩
  · exact .inr (.inr List.mem_cons_self)
  · exact fun i hi => .inr (hi.imp_right (List.mem_cons_of_mem _))
  · exact List.forall_mem_cons.2 ⟨⟨t, ht, hsize, hscalar⟩, h.pending⟩

/-- A piece that is not there yet is made: a scalar with its value, a collection without parts. -/
theorem piece_succeeds (room : Nat) (h : b.Follows graph waiting bound) {t : Tree}
    (ht : t.Stands graph id) (hsize : t.size ≤ bound) :
    Succeeds (piece room id b) fun p b' =>
      b.Advances graph waiting bound b' ∧ b'.pieces[id]? = some (some p) := by
  have hget : ∀ {k : Building → Builder Piece}, (get >>= k) b = k b b := rfl
  have hnode : ∀ {n : Node}, graph[id]? = some n → node id b = .ok (n, b) :=
    fun hn => node_eq (h.nodes ▸ hn)
  unfold piece
  rw [hget]
  generalize hpiece : b.pieces[id]? = found
  split
  · exact succeeds_pure ⟨⟨h, fun hi => hi⟩, hpiece⟩
  cases t with
  | scalar s =>
    rw [bind_of_ok (hnode ht), emptyPiece?_scalar]
    dsimp only
    rw [bind_of_ok (leaf_eq (h.nodes ▸ ht) room)]
    have hid := stands_lt (t := .scalar s) ht
    have hleaf : ∀ {s'}, graph[id]? = some (ReadScalar.node s') →
        Piece.scalar s.value = .scalar (s'.value) :=
      fun hs => congrArg Piece.scalar (ReadScalar.value_eq (Option.some.inj (ht.symm.trans hs)))
    refine ⟨.scalar s.value,
      { b with pieces := b.pieces.setIfInBounds id (some (.scalar s.value)) }, rfl,
      h.set hid (.inl ?_) hleaf (fun i hi => .inr hi) h.pending, getElem?_set h hid _⟩
    exact ⟨⟨s.value, ⟨.scalar s, ht, rfl⟩, .scalar s.value⟩, nofun⟩
  | sequence items =>
    rw [bind_of_ok (hnode ht.1)]
    exact emptyPiece_succeeds h ht hsize ht.1 fun s hs => nomatch congrArg Node.body hs
  | mapping fields =>
    rw [bind_of_ok (hnode ht.1)]
    exact emptyPiece_succeeds h ht hsize ht.1 fun s hs => nomatch congrArg Node.body hs

/-! ### Mappings -/

/-- The keys of a mapping are texts. -/
theorem forall_mem_fieldNumbers {n : Nat} {fields : List (Text × Tree)}
    (h : StandFields graph n fields) :
    ∀ e ∈ fieldNumbers n fields, ∃ name, graph[e.1]? = some (ReadScalar.quoted name).node := by
  induction fields generalizing n with
  | nil => nofun
  | cons f fields ih => exact List.forall_mem_cons.2 ⟨⟨f.1, h.1⟩, ih h.2.2⟩

theorem entryTagged?_texts {entries : List (Nat × Nat)}
    (h : ∀ e ∈ entries, ∃ name, b.nodes[e.1]? = some (ReadScalar.quoted name).node) :
    entryTagged? .merge entries b = .ok (none, b) := by
  induction entries with
  | nil => rfl
  | cons e entries ih =>
    obtain ⟨⟨name, hname⟩, hentries⟩ := List.forall_mem_cons.1 h
    have htag : ¬ (ReadScalar.quoted name).node.tag = .merge := nofun
    rw [entryTagged?, bind_of_ok (node_eq hname), if_neg htag, bind_of_ok (ih hentries)]
    rfl

theorem plainKeys_texts {entries : List (Nat × Nat)}
    (h : ∀ e ∈ entries, ∃ name, b.nodes[e.1]? = some (ReadScalar.quoted name).node) :
    (entries.forM fun e => do
      if (← node e.1).tag = .value then setTag e.1 .str : Builder Unit) b = .ok (⟨⟩, b) := by
  induction entries with
  | nil => rfl
  | cons e entries ih =>
    obtain ⟨⟨name, hname⟩, hentries⟩ := List.forall_mem_cons.1 h
    have hone : (do if (← node e.1).tag = .value then setTag e.1 .str : Builder Unit) b =
        .ok (⟨⟩, b) := by
      rw [bind_of_ok (node_eq hname)]
      rfl
    exact (bind_of_ok hone).trans (ih hentries)

theorem entriesOf_eq {tag : Tag} {entries : List (Nat × Nat)}
    (h : b.nodes[id]? = some ⟨tag, .mapping entries⟩) : entriesOf id b = .ok (entries, b) := by
  unfold entriesOf
  rw [bind_of_ok (node_eq h)]
  rfl

theorem setEntries_eq {tag : Tag} {entries : List (Nat × Nat)}
    (h : b.nodes[id]? = some ⟨tag, .mapping entries⟩) : setEntries id entries b = .ok (⟨⟩, b) := by
  have hsame : b.nodes.modify id (fun n => { n with body := .mapping entries }) = b.nodes := by
    apply Array.ext_getElem?
    intro i
    rw [Array.getElem?_modify]
    split
    · rename_i heq
      rw [← heq, h]
      rfl
    · rfl
  unfold setEntries
  change Except.ok ((⟨⟩ : PUnit),
    { b with nodes := b.nodes.modify id fun n => { n with body := .mapping entries } }) = _
  rw [hsame]

/-- No key merges other mappings into a mapping whose keys are texts. -/
theorem flattened_eq {room : Nat} {entries : List (Nat × Nat)}
    (hnode : b.nodes[id]? = some ⟨.map, .mapping entries⟩)
    (hentries : ∀ e ∈ entries, ∃ name, b.nodes[e.1]? = some (ReadScalar.quoted name).node) :
    flattened room id b = .ok (entries, b) := by
  have hget : ∀ {k : Building → Builder (List (Nat × Nat))}, (get >>= k) b = k b b := rfl
  have hflatten : flatten room (entryCount b.nodes + 1) id [] b = .ok (⟨⟩, b) := by
    rw [flatten, bind_of_ok (entriesOf_eq hnode), bind_of_ok (entryTagged?_texts hentries)]
    dsimp only
    rw [bind_of_ok (plainKeys_texts hentries)]
    exact setEntries_eq hnode
  unfold flattened
  rw [hget, bind_of_ok hflatten]
  exact entriesOf_eq hnode

theorem forall₂_put (key : Value) {v : Value} {value : Nat} {acc : List (Value × Nat)}
    {fields : List (Value × Value)} (h : ValueAt graph value v)
    (hacc : List.Forall₂ (EntryAt graph) acc fields) :
    List.Forall₂ (EntryAt graph) (Value.put key value acc) (Value.put key v fields) := by
  induction hacc with
  | nil => exact .cons ⟨rfl, h⟩ .nil
  | @cons e f acc fields he hrest ih =>
    obtain ⟨old, id⟩ := e
    obtain ⟨old', v'⟩ := f
    obtain ⟨rfl, hv'⟩ := he
    rw [Value.put, Value.put]
    split
    · exact .cons ⟨rfl, h⟩ hrest
    · exact .cons ⟨rfl, hv'⟩ ih

/-- The keys and values of a mapping, each key with the last value given for it. -/
theorem keys_succeed (room : Nat) {depth : Nat}
    {f : List (Value × Nat) → Nat × Nat → Builder (List (Value × Nat))}
    (hf : ∀ {acc key value k p b b₁ b₂}, piece room key b = .ok (.scalar k, b₁) →
      piece room value b₁ = .ok (p, b₂) → f acc (key, value) b = .ok (Value.put k value acc, b₂))
    {fields : List (Text × Tree)} {n : Nat} {acc : List (Value × Nat)}
    {before : List (Value × Value)} (h : b.Follows graph waiting bound)
    (hfields : StandFields graph n fields) (hsize : sizeFields fields ≤ bound)
    (hdepth : depthFields fields ≤ depth) (hacc : List.Forall₂ (EntryAt graph) acc before)
    (hthere : ∀ e ∈ acc, depthAt graph e.2 ≤ depth ∧ Present b.pieces e.2) :
    Succeeds ((fieldNumbers n fields).foldlM f acc b) fun acc' b' =>
      b.Advances graph waiting bound b' ∧
      List.Forall₂ (EntryAt graph) acc'
        ((valueFields fields).foldl (fun acc e => Value.put e.1 e.2 acc) before) ∧
      ∀ e ∈ acc', depthAt graph e.2 ≤ depth ∧ Present b'.pieces e.2 := by
  induction fields generalizing n acc before b with
  | nil => exact succeeds_pure ⟨⟨h, fun hi => hi⟩, hacc, hthere⟩
  | cons field fields ih =>
    obtain ⟨name, t⟩ := field
    obtain ⟨hname, ht, hrest⟩ := hfields
    rw [sizeFields] at hsize
    rw [depthFields, Nat.max_le] at hdepth
    have hkey : (Tree.scalar (.quoted name)).Stands graph n := hname
    have hone : (Tree.scalar (.quoted name)).size ≤ bound := by rw [size]; omega
    obtain ⟨p, b₁, hpiece, h₁, hp⟩ := piece_succeeds room h hkey hone
    obtain rfl := h₁.leaf hp hname
    obtain ⟨q, b₂, hpiece', h₂, hq⟩ := piece_succeeds room h₁.toFollows ht (by omega)
    rw [fieldNumbers, List.foldlM_cons, bind_of_ok (hf hpiece hpiece')]
    have hadvances := h₁.trans h₂
    have hthere' : ∀ e ∈ Value.put (.str name) (n + 1) acc,
        depthAt graph e.2 ≤ depth ∧ Present b₂.pieces e.2 := by
      intro e he
      refine (forall_mem_put (P := fun _ => True)
        (Q := fun i => depthAt graph i ≤ depth ∧ Present b₂.pieces i) trivial
        ⟨Nat.le_trans (Nat.le_of_eq (depthAt_eq ht)) hdepth.1, q, hq⟩ ?_ e he).2
      exact fun e he => ⟨trivial, (hthere e he).1, hadvances.kept (hthere e he).2⟩
    have hvalue : ValueAt graph (n + 1) t.value := ⟨t, ht, rfl⟩
    have hacc' := forall₂_put (.str name) hvalue hacc
    refine (ih h₂.toFollows hrest (by omega) hdepth.2 hacc' hthere').mono fun acc' b₃ h₃ => ?_
    exact ⟨hadvances.trans h₃.1, h₃.2⟩

theorem record_succeeds {room : Nat} (h : b.Follows graph waiting bound)
    {fields : List (Text × Tree)}
    (hnode : graph[id]? = some ⟨.map, .mapping (fieldNumbers (id + 1) fields)⟩)
    (hfields : StandFields graph (id + 1) fields) (hsize : sizeFields fields ≤ bound) :
    Succeeds (record room id b) fun entries b' =>
      b.Advances graph waiting bound b' ∧
      List.Forall₂ (EntryAt graph) entries (Value.ofEntries (valueFields fields)) ∧
      ∀ e ∈ entries, depthAt graph e.2 ≤ depthFields fields ∧ Present b'.pieces e.2 := by
  have hkeys := forall_mem_fieldNumbers hfields
  unfold record
  rw [← h.nodes] at hnode hkeys
  rw [bind_of_ok (flattened_eq hnode hkeys)]
  refine keys_succeed room ?_ h hfields hsize (Nat.le_refl _) .nil nofun
  intro acc key value k p b b₁ b₂ hkey hvalue
  dsimp only
  rw [bind_of_ok hkey]
  dsimp only
  rw [bind_of_ok hvalue]
  rfl

/-! ### Collections -/

theorem items_succeed {room depth : Nat} {items : List Tree} {n : Nat}
    (h : b.Follows graph waiting bound) (hitems : StandEach graph n items)
    (hsize : sizeEach items ≤ bound) (hdepth : depthEach items ≤ depth) :
    Succeeds ((numbers n items).forM (fun item => discard (piece room item)) b) fun _ b' =>
      b.Advances graph waiting bound b' ∧
      ∀ item ∈ numbers n items, depthAt graph item ≤ depth ∧ Present b'.pieces item := by
  induction items generalizing n b with
  | nil => exact succeeds_pure ⟨⟨h, fun hi => hi⟩, nofun⟩
  | cons t items ih =>
    rw [sizeEach] at hsize
    rw [depthEach, Nat.max_le] at hdepth
    change Succeeds ((discard (piece room n) >>= fun _ => (numbers (n + t.size) items).forM _) b) _
    have hfirst : Succeeds (discard (piece room n) b) fun _ b₁ =>
        b.Advances graph waiting bound b₁ ∧ Present b₁.pieces n := by
      obtain ⟨p, b₁, hpiece, h₁, hp⟩ := piece_succeeds room h hitems.1 (by omega)
      have hdiscard : discard (piece room n) b = .ok (⟨⟩, b₁) := by
        change (piece room n >>= fun _ => pure PUnit.unit) b = _
        rw [bind_of_ok hpiece]
        rfl
      exact ⟨⟨⟩, b₁, hdiscard, h₁, p, hp⟩
    refine hfirst.bind fun _ b₁ h₁ => ?_
    obtain ⟨h₁, hpresent⟩ := h₁
    refine (ih h₁.toFollows hitems.2 (by omega) hdepth.2).mono fun _ b₂ h₂ => ?_
    have hfirst := Nat.le_trans (Nat.le_of_eq (depthAt_eq hitems.1)) hdepth.1
    exact ⟨h₁.trans h₂.1, List.forall_mem_cons.2 ⟨⟨hfirst, h₂.1.kept hpresent⟩, h₂.2⟩⟩

theorem valuesAt_items {items : List Tree} {n : Nat} (h : StandEach graph n items) :
    List.Forall₂ (ValueAt graph) (numbers n items) (valueEach items) := by
  induction items generalizing n with
  | nil => exact .nil
  | cons t items ih => exact .cons ⟨t, h.1, rfl⟩ (ih h.2)

/-- A collection is given its parts, and no longer waits for them. -/
theorem complete_succeeds {room bound : Nat} (h : b.Follows graph (id :: waiting) bound)
    (hid : CollectionAt graph (bound + 1) id) :
    Succeeds (complete room id b) fun _ b' => b.Advances graph waiting bound b' := by
  obtain ⟨t, ht, hsize, hscalar⟩ := hid
  have hfinish : ∀ {b' : Building} {p : Piece}, b.Advances graph (id :: waiting) bound b' →
      p.Gives graph t.value →
      (∀ part ∈ p.parts, depthAt graph part + 1 ≤ t.depth ∧ Present b'.pieces part) →
      Succeeds (setPiece id p b') fun _ b'' => b.Advances graph waiting bound b'' := by
    intro b' p hb' hgives hparts
    rw [← depthAt_eq ht] at hparts
    have hset : b'.Advances graph waiting bound
        { b' with pieces := b'.pieces.setIfInBounds id (some p) } := hb'.set (stands_lt ht)
      (.inl ⟨⟨t.value, ⟨t, ht, rfl⟩, hgives⟩, hparts⟩) (fun {s} hs => absurd hs (hscalar s))
      (fun i hi => ?_) hb'.pending
    · exact ⟨⟨⟩, _, rfl, hb'.trans hset⟩
    · rcases hi with hi | hi
      · exact (List.mem_cons.1 hi).imp_right .inl
      · exact .inr (.inr hi)
  unfold complete
  cases t with
  | scalar s => exact absurd ht (hscalar s)
  | sequence items =>
    have hnode := ht.1
    rw [← h.nodes] at hnode
    rw [size] at hsize
    rw [bind_of_ok (node_eq hnode)]
    dsimp only
    have hitems : itemsOf id b = .ok (numbers (id + 1) items, b) := by
      unfold itemsOf
      rw [bind_of_ok (node_eq hnode)]
      rfl
    rw [bind_of_ok hitems]
    refine (items_succeed h ht.2 (by omega) (Nat.le_refl _)).bind fun _ b' h' => ?_
    refine hfinish h'.1 (.list (valuesAt_items ht.2)) fun part hpart => ?_
    exact ⟨Nat.succ_le_succ (h'.2 part hpart).1, (h'.2 part hpart).2⟩
  | mapping fields =>
    have hnode := ht.1
    rw [← h.nodes] at hnode
    rw [size] at hsize
    rw [bind_of_ok (node_eq hnode)]
    dsimp only
    refine (record_succeeds h ht.1 ht.2 (by omega)).bind fun entries b' h' => ?_
    obtain ⟨hadvances, hentries, hthere⟩ := h'
    refine hfinish hadvances (.record hentries) fun part hpart => ?_
    obtain ⟨e, he, rfl⟩ := List.mem_map.1 hpart
    exact ⟨Nat.succ_le_succ (hthere e he).1, (hthere e he).2⟩

theorem batch_succeeds {room : Nat} {ids : List Nat} (h : b.Follows graph ids bound)
    (hids : ∀ i ∈ ids, CollectionAt graph (bound + 1) i) :
    Succeeds (ids.forM (complete room) b) fun _ b' => b.Advances graph [] bound b' := by
  induction ids generalizing b with
  | nil => exact succeeds_pure ⟨h, fun hi => hi⟩
  | cons id ids ih =>
    obtain ⟨hid, hids⟩ := List.forall_mem_cons.1 hids
    change Succeeds ((complete room id >>= fun _ => ids.forM (complete room)) b) _
    refine (complete_succeeds h hid).bind fun _ b₁ h₁ => ?_
    exact (ih h₁.toFollows hids).mono fun _ b₂ h₂ => h₁.trans h₂

theorem size_pos (t : Tree) : 0 < t.size := by
  cases t <;> exact Nat.succ_pos _

/-- No collection of no nodes waits for its parts. -/
theorem Building.Follows.pending_nil (h : b.Follows graph waiting 0) : b.pending = [] := by
  apply List.eq_nil_iff_forall_not_mem.2
  intro i hi
  obtain ⟨t, -, hsize, -⟩ := h.pending i hi
  exact absurd (size_pos t) (by omega)

/-- The collections that wait get smaller from round to round, until none is left. -/
theorem completeAll_succeeds {room fuel : Nat} (h : b.Follows graph [] fuel) :
    Succeeds (completeAll room fuel b) fun _ b' => b.Advances graph [] 0 b' := by
  induction fuel generalizing b with
  | zero => exact succeeds_pure ⟨h, fun hi => hi⟩
  | succ fuel ih =>
    rw [completeAll, get_bind]
    split
    · have hstart : Building.Follows graph b.pending.reverse fuel { b with pending := [] } := by
        refine ⟨h.nodes, h.size, fun hp => (h.finished hp).imp_right fun hi => ?_, h.leaf,
          List.forall_mem_nil _⟩
        exact .inl (List.mem_reverse.2 (hi.resolve_left List.not_mem_nil))
      have hmodify : (modify fun b => { b with pending := [] } : Builder PUnit) b =
          .ok (⟨⟩, { b with pending := [] }) := rfl
      rw [bind_of_ok hmodify]
      refine (batch_succeeds hstart fun i hi => h.pending i (List.mem_reverse.1 hi)).bind
        fun _ b₁ h₁ => ?_
      refine (ih h₁.toFollows).mono fun _ b₂ h₂ => ?_
      exact ⟨h₂.toFollows, fun hi => h₂.kept (h₁.kept hi)⟩
    · rename_i hempty
      have hempty : b.pending = [] := by simpa using hempty
      refine succeeds_pure ⟨⟨h.nodes, h.size, h.finished, h.leaf, ?_⟩, fun hi => hi⟩
      rw [hempty]
      exact List.forall_mem_nil _

end

/-- The content of the graph of a tree is the value of the tree, if the host goes that deep. -/
theorem ofGraph_tree (t : Tree) {host : Host} (hdepth : t.depth ≤ host.building) :
    ofGraph host ⟨(t.nodes 0).toArray, 0⟩ = .ok t.value := by
  let graph := (t.nodes 0).toArray
  let start : Building := ⟨graph, Array.replicate graph.size none, []⟩
  let build : Builder Unit := do
    let _ ← piece host.following 0
    completeAll host.following (graph.size + 1)
  have ht : t.Stands graph 0 := stands_nodes t
  have hnone : ∀ {i : Nat} {p : Piece}, start.pieces[i]? ≠ some (some p) := by
    intro i p
    rw [Array.getElem?_replicate]
    split <;> simp
  have hstart : start.Follows graph [] (graph.size + 1) :=
    ⟨rfl, Array.size_replicate, fun hp => absurd hp hnone, fun hp => absurd hp hnone, nofun⟩
  have hsize : t.size ≤ graph.size + 1 := by
    rw [List.size_toArray, length_nodes]
    exact Nat.le_succ _
  have hbuild : Succeeds (build start) fun _ b =>
      b.Follows graph [] 0 ∧ Present b.pieces 0 := by
    refine (piece_succeeds _ hstart ht hsize).bind fun p b₁ h₁ => ?_
    refine (completeAll_succeeds h₁.1.toFollows).mono fun _ b₂ h₂ => ?_
    exact ⟨h₂.toFollows, h₂.kept ⟨p, h₁.2⟩⟩
  obtain ⟨⟨⟩, b, hrun, h, hroot⟩ := hbuild
  have hof : ofGraph host ⟨graph, 0⟩ = (build start >>= fun x =>
      pure (valueAt (unroll x.2.pieces (host.building + 1)) 0)) := rfl
  have hfinished : ∀ {i : Nat} {p : Piece}, b.pieces[i]? = some (some p) →
      p.Finished graph b.pieces i := by
    intro i p hp
    refine (h.finished hp).resolve_right fun hwaits => ?_
    rw [h.pending_nil] at hwaits
    exact hwaits.elim nofun nofun
  have hranked : RankedPieces (depthAt graph) (fun i v => ∀ w, ValueAt graph i w → v = w)
      b.pieces := by
    constructor
    · intro i p hp
      exact (hfinished hp).parts
    · intro i p hp known hknown w hw
      obtain ⟨u, hu, hgives⟩ := (hfinished hp).gives
      rw [← hu.unique hw]
      exact hgives.value_eq hknown
  have hrank : depthAt graph 0 < host.building + 1 := by
    rw [depthAt_eq ht]
    exact Nat.lt_succ_of_le hdepth
  rw [hof, hrun]
  exact congrArg Except.ok (valueAt_unroll_ranked hranked hroot hrank _ ⟨t, ht, rfl⟩)

end Content

end DataShape.Yaml
