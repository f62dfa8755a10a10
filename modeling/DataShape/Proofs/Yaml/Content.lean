-- SUMMARY: The content of an ordinary graph is a value that can be reported, or the document is malformed.
import DataShape.Proofs.Value.Plain
import DataShape.Proofs.Yaml.Unrolling
import DataShape.Yaml.Document

/-!
# Content of ordinary graphs

A graph is ordinary if no node contains itself, the host goes as deep as the
graph does, each scalar can be read under its tag, and no mapping stands for a
scalar. Merging mappings keeps it so, and the pieces made from its nodes are no
deeper. Then only the form of the document can be at fault.
-/

namespace DataShape.Yaml

/-! ## Outcomes of steps -/

/-- A step ends in a result and a state with a property, or finds the document malformed. -/
def Yields {σ α : Type} (o : Except Fault (α × σ)) (Q : α → σ → Prop) : Prop :=
  match o with
  | .ok (a, s) => Q a s
  | .error f => f = .malformed

section Yields

variable {σ α β : Type} {m : StateT σ (Except Fault) α} {k : α → StateT σ (Except Fault) β}
  {Q Q' : α → σ → Prop} {R : β → σ → Prop} {s : σ}

theorem Yields.mono (h : Yields (m s) Q) (hQ : ∀ a s', Q a s' → Q' a s') : Yields (m s) Q' := by
  unfold Yields at h ⊢
  split
  · rename_i a s' heq
    rw [heq] at h
    exact hQ a s' h
  · rename_i f heq
    rw [heq] at h
    exact h

theorem Yields.bind (h : Yields (m s) Q) (hk : ∀ a s', Q a s' → Yields (k a s') R) :
    Yields ((m >>= k) s) R := by
  change Yields (m s >>= fun x => k x.1 x.2) R
  unfold Yields at h
  split at h
  · rename_i a s' heq
    rw [heq]
    exact hk a s' h
  · rename_i f heq
    rw [heq]
    exact h

theorem yields_pure {a : α} (h : Q a s) : Yields ((pure a : StateT σ (Except Fault) α) s) Q := h

theorem Yields.get_bind {k : σ → StateT σ (Except Fault) β} (h : Yields (k s s) R) :
    Yields ((get >>= k) s) R := h

theorem yields_modify {Q : PUnit → σ → Prop} {f : σ → σ} (h : Q ⟨⟩ (f s)) :
    Yields ((modify f : StateT σ (Except Fault) PUnit) s) Q := h

theorem yields_malformed : Yields ((throw .malformed : StateT σ (Except Fault) α) s) Q := rfl

end Yields

/-! ## Ordinary graphs -/

/-- Whether a scalar has a value that can be shown, or at worst is malformed. -/
def isReadable (host : Host) (tag : Tag) (t : Text) : Bool :=
  match Scalar.read tag t with
  | .ok v => v.isShowable host
  | .error f => f = .malformed

/-- The numbers of the nodes that a node refers to. -/
def Body.parts : Body → List Nat
  | .scalar _ => []
  | .sequence items => items
  | .mapping entries => entries.flatMap fun e => [e.1, e.2]

/-- Whether a mapping with the tag never stands for the scalar under an `=` sign. -/
def Tag.keepsEntries (tag : Tag) : Bool := !tag.readsText && tag ≠ .value

/-- A scalar that its tag can read, or a collection that does not stand for a scalar. -/
def Node.isOrdinary (host : Host) (n : Node) : Bool :=
  match n.body with
  | .scalar t => isReadable host n.tag t
  | .sequence _ => true
  | .mapping _ => n.tag.keepsEntries

/-- All nodes are ordinary, each refers only to nodes of lower rank, and no rank is beyond what the
host follows. -/
structure OrdinaryNodes (host : Host) (rank : Nat → Nat) (nodes : Array Node) : Prop where
  ordinary : ∀ {i : Nat} {n : Node}, nodes[i]? = some n → n.isOrdinary host = true
  falls : ∀ {i : Nat} {n : Node}, nodes[i]? = some n → ∀ part ∈ n.body.parts, rank part < rank i
  shallow : ∀ {i : Nat} {n : Node}, nodes[i]? = some n →
    rank i ≤ host.following ∧ rank i ≤ host.building

/-- No node contains itself, none is too deep for the host, and all are ordinary. -/
def Graph.IsOrdinary (host : Host) (g : Graph) : Prop := ∃ rank, OrdinaryNodes host rank g.nodes

variable {host : Host}

/-- A node may change if it stays ordinary and keeps to nodes of lower rank. -/
theorem OrdinaryNodes.modify {rank : Nat → Nat} {nodes : Array Node} {f : Node → Node} {i : Nat}
    (h : OrdinaryNodes host rank nodes)
    (hf : ∀ n, nodes[i]? = some n → (f n).isOrdinary host = true ∧
      ∀ part ∈ (f n).body.parts, rank part < rank i) :
    OrdinaryNodes host rank (nodes.modify i f) := by
  have hcases : ∀ {j m}, (nodes.modify i f)[j]? = some m →
      (i = j ∧ ∃ n, nodes[j]? = some n ∧ f n = m) ∨ nodes[j]? = some m := by
    intro j m hm
    rw [Array.getElem?_modify] at hm
    split at hm
    · rename_i hij
      exact .inl ⟨hij, Option.map_eq_some_iff.1 hm⟩
    · exact .inr hm
  constructor
  · intro j m hm
    rcases hcases hm with ⟨rfl, n, hn, rfl⟩ | hm
    · exact (hf n hn).1
    · exact h.ordinary hm
  · intro j m hm
    rcases hcases hm with ⟨rfl, n, hn, rfl⟩ | hm
    · exact (hf n hn).2
    · exact h.falls hm
  · intro j m hm
    rcases hcases hm with ⟨rfl, n, hn, rfl⟩ | hm
    · exact h.shallow hn
    · exact h.shallow hm

namespace Content

/-! ## States of the builder -/

structure Building.Ordinary (host : Host) (rank : Nat → Nat) (b : Building) : Prop where
  nodes : OrdinaryNodes host rank b.nodes
  pieces : OrdinaryPieces host rank b.pieces
  size : b.pieces.size = b.nodes.size

/-- Whether a node is there under a tag with which a mapping keeps its entries. -/
def KeepsEntries (nodes : Array Node) (i : Nat) : Prop :=
  ∃ n, nodes[i]? = some n ∧ n.tag.keepsEntries = true

/-- An ordinary state with as many nodes, where mappings still keep their entries and no piece is
lost. -/
structure Building.Extends (host : Host) (rank : Nat → Nat) (b b' : Building) : Prop where
  ordinary : b'.Ordinary host rank
  size : b'.nodes.size = b.nodes.size
  keeps : ∀ {i : Nat}, KeepsEntries b.nodes i → KeepsEntries b'.nodes i
  present : ∀ {i : Nat}, Present b.pieces i → Present b'.pieces i

namespace Building.Extends

variable {rank : Nat → Nat} {b b' b'' : Building}

theorem refl (h : b.Ordinary host rank) : b.Extends host rank b := ⟨h, rfl, id, id⟩

theorem trans (h : b.Extends host rank b') (h' : b'.Extends host rank b'') :
    b.Extends host rank b'' where
  ordinary := h'.ordinary
  size := h'.size.trans h.size
  keeps hi := h'.keeps (h.keeps hi)
  present hi := h'.present (h.present hi)

end Building.Extends

/-- Whether all numbers are of lower rank than a node. -/
def Below (rank : Nat → Nat) (id : Nat) (parts : List Nat) : Prop :=
  ∀ part ∈ parts, rank part < rank id

theorem Below.trans {rank : Nat → Nat} {id id' : Nat} {parts : List Nat}
    (h : Below rank id' parts) (hlt : rank id' < rank id) : Below rank id parts :=
  fun part hpart => Nat.lt_trans (h part hpart) hlt

theorem Below.append {rank : Nat → Nat} {id : Nat} {xs ys : List (Nat × Nat)}
    (h : Below rank id (Body.mapping xs).parts) (h' : Below rank id (Body.mapping ys).parts) :
    Below rank id (Body.mapping (xs ++ ys)).parts := by
  intro part hpart
  rw [Body.parts, List.flatMap_append] at hpart
  exact (List.mem_append.1 hpart).elim (h part) (h' part)

/-! ## Loops -/

/-- A loop keeps what each of its steps keeps, and what a step achieves for its element stays. -/
theorem forM_yields {α : Type} {f : α → Builder Unit} {P : α → Building → Prop} {xs : List α}
    {rank : Nat → Nat} {b : Building} (hb : b.Ordinary host rank)
    (hmono : ∀ {x b b'}, P x b → Building.Extends host rank b b' → P x b')
    (hf : ∀ x ∈ xs, ∀ {b}, Building.Ordinary host rank b →
      Yields (f x b) fun _ b' => b.Extends host rank b' ∧ P x b') :
    Yields (xs.forM f b) fun _ b' => b.Extends host rank b' ∧ ∀ x ∈ xs, P x b' := by
  induction xs generalizing b with
  | nil => exact ⟨.refl hb, nofun⟩
  | cons x xs ih =>
    change Yields ((f x >>= fun _ => xs.forM f) b) _
    refine Yields.bind (hf x List.mem_cons_self hb) fun _ b₁ h₁ => ?_
    refine (ih h₁.1.ordinary fun x hx => hf x (List.mem_cons_of_mem _ hx)).mono fun _ b₂ h₂ => ?_
    exact ⟨h₁.1.trans h₂.1, List.forall_mem_cons.2 ⟨hmono h₁.2 h₂.1, h₂.2⟩⟩

theorem foldlM_yields {α β : Type} {f : β → α → Builder β} {I : β → Building → Prop} {xs : List α}
    {init : β} {rank : Nat → Nat} {b : Building} (hb : b.Ordinary host rank) (hinit : I init b)
    (hf : ∀ x ∈ xs, ∀ {acc b'}, b.Extends host rank b' → I acc b' →
      Yields (f acc x b') fun acc b'' => b'.Extends host rank b'' ∧ I acc b'') :
    Yields (xs.foldlM f init b) fun acc b' => b.Extends host rank b' ∧ I acc b' := by
  induction xs generalizing b init with
  | nil => exact ⟨.refl hb, hinit⟩
  | cons x xs ih =>
    rw [List.foldlM_cons]
    refine Yields.bind (hf x List.mem_cons_self (.refl hb) hinit) fun acc b₁ h₁ => ?_
    refine (ih h₁.1.ordinary h₁.2 fun x hx {acc b'} hb' hacc => ?_).mono fun acc b₂ h₂ => ?_
    · exact hf x (List.mem_cons_of_mem _ hx) (h₁.1.trans hb') hacc
    · exact ⟨h₁.1.trans h₂.1, h₂.2⟩

theorem mapM_yields {α β : Type} {f : α → Builder β} {P : β → Building → Prop} {xs : List α}
    {rank : Nat → Nat} {b : Building} (hb : b.Ordinary host rank)
    (hmono : ∀ {y b b'}, P y b → Building.Extends host rank b b' → P y b')
    (hf : ∀ x ∈ xs, ∀ {b}, Building.Ordinary host rank b →
      Yields (f x b) fun y b' => b.Extends host rank b' ∧ P y b') :
    Yields (xs.mapM f b) fun ys b' => b.Extends host rank b' ∧ ∀ y ∈ ys, P y b' := by
  induction xs generalizing b with
  | nil => exact ⟨.refl hb, nofun⟩
  | cons x xs ih =>
    rw [List.mapM_cons]
    refine Yields.bind (hf x List.mem_cons_self hb) fun y b₁ h₁ => ?_
    refine Yields.bind (ih h₁.1.ordinary fun x hx => hf x (List.mem_cons_of_mem _ hx))
      fun ys b₂ h₂ => yields_pure ?_
    exact ⟨h₁.1.trans h₂.1, List.forall_mem_cons.2 ⟨hmono h₁.2 h₂.1, h₂.2⟩⟩

/-! ## Looking at nodes -/

section Nodes

variable {rank : Nat → Nat} {b : Building}

theorem node_yields (b : Building) (id : Nat) :
    Yields (node id b) fun n b' => b = b' ∧ b.nodes[id]? = some n := by
  unfold node
  refine .get_bind ?_
  cases hn : b.nodes[id]? with
  | none => exact yields_malformed
  | some n => exact yields_pure ⟨rfl, rfl⟩

theorem itemsOf_yields (hb : b.Ordinary host rank) (id : Nat) :
    Yields (itemsOf id b) fun items b' => b = b' ∧ Below rank id items := by
  unfold itemsOf
  refine Yields.bind (node_yields b id) fun n b' hn => ?_
  obtain ⟨rfl, hn⟩ := hn
  obtain ⟨tag, body⟩ := n
  cases body with
  | sequence items => exact yields_pure ⟨rfl, hb.nodes.falls hn⟩
  | _ => exact yields_malformed

theorem entriesOf_yields (hb : b.Ordinary host rank) (id : Nat) :
    Yields (entriesOf id b) fun entries b' =>
      b = b' ∧ KeepsEntries b.nodes id ∧ Below rank id (Body.mapping entries).parts := by
  unfold entriesOf
  refine Yields.bind (node_yields b id) fun n b' hn => ?_
  obtain ⟨rfl, hn⟩ := hn
  obtain ⟨tag, body⟩ := n
  cases body with
  | mapping entries =>
    exact yields_pure ⟨rfl, ⟨_, hn, hb.nodes.ordinary hn⟩, hb.nodes.falls hn⟩
  | _ => exact yields_malformed

theorem entryTagged?_yields (b : Building) (tag : Tag) (entries : List (Nat × Nat)) :
    Yields (entryTagged? tag entries b) fun found? b' => b = b' ∧
      ∀ found ∈ found?, found.1 ∈ (Body.mapping entries).parts ∧
        ∀ part ∈ (Body.mapping found.2).parts, part ∈ (Body.mapping entries).parts := by
  induction entries with
  | nil => exact yields_pure ⟨rfl, nofun⟩
  | cons e rest ih =>
    obtain ⟨key, value⟩ := e
    have hrest : ∀ part ∈ (Body.mapping rest).parts,
        part ∈ (Body.mapping ((key, value) :: rest)).parts :=
      fun part hpart => List.mem_append_right [key, value] hpart
    rw [entryTagged?]
    refine Yields.bind (node_yields b key) fun n b' hn => ?_
    obtain ⟨rfl, -⟩ := hn
    split
    · refine yields_pure ⟨rfl, fun found hfound => ?_⟩
      obtain rfl := Option.some.inj hfound
      exact ⟨by simp [Body.parts], hrest⟩
    · refine Yields.bind ih fun found? b' hfound => ?_
      obtain ⟨rfl, hfound⟩ := hfound
      refine yields_pure ⟨rfl, fun found hmap => ?_⟩
      obtain ⟨found', hfound', rfl⟩ := Option.map_eq_some_iff.1 hmap
      obtain ⟨hvalue, hothers⟩ := hfound found' hfound'
      refine ⟨hrest _ hvalue, fun part hpart => ?_⟩
      rcases List.mem_append.1 (show part ∈ [key, value] ++ _ from hpart) with hpart | hpart
      · exact List.mem_append_left _ hpart
      · exact hrest _ (hothers part hpart)

end Nodes

/-! ## Merging -/

section Merging

variable {rank : Nat → Nat} {b : Building}

/-- A node may change if it stays ordinary, keeps to nodes of lower rank, and keeps its entries. -/
theorem extends_modify {f : Node → Node} {id : Nat} (hb : b.Ordinary host rank)
    (hf : ∀ n, b.nodes[id]? = some n → (f n).isOrdinary host = true ∧
      Below rank id (f n).body.parts ∧ (n.tag.keepsEntries = true → (f n).tag.keepsEntries = true)) :
    b.Extends host rank { b with nodes := b.nodes.modify id f } where
  ordinary :=
    { nodes := hb.nodes.modify fun n hn => ⟨(hf n hn).1, (hf n hn).2.1⟩
      pieces := hb.pieces
      size := by rw [Array.size_modify, hb.size] }
  size := Array.size_modify
  keeps {i} hi := by
    obtain ⟨n, hn, htag⟩ := hi
    unfold KeepsEntries
    rw [Array.getElem?_modify]
    split
    · rename_i heq
      subst heq
      exact ⟨f n, by rw [hn]; rfl, (hf n hn).2.2 htag⟩
    · exact ⟨n, hn, htag⟩
  present hi := hi

theorem setEntries_yields {id : Nat} {entries : List (Nat × Nat)} (hb : b.Ordinary host rank)
    (hid : KeepsEntries b.nodes id) (hentries : Below rank id (Body.mapping entries).parts) :
    Yields (setEntries id entries b) fun _ b' => b.Extends host rank b' := by
  refine yields_modify (extends_modify hb fun n hn => ?_)
  obtain ⟨m, hm, htag⟩ := hid
  obtain rfl : m = n := Option.some.inj (hm.symm.trans hn)
  exact ⟨htag, hentries, fun h => h⟩

/-- A key with the tag of an `=` sign becomes an ordinary one. -/
theorem setTag_yields {id : Nat} {n : Node} (hb : b.Ordinary host rank) (hn : b.nodes[id]? = some n)
    (htag : n.tag = .value) : Yields (setTag id .str b) fun _ b' => b.Extends host rank b' := by
  refine yields_modify (extends_modify hb fun m hm => ?_)
  obtain rfl : n = m := Option.some.inj (hn.symm.trans hm)
  have hordinary := hb.nodes.ordinary hn
  have hfalls := hb.nodes.falls hn
  obtain ⟨tag, body⟩ := n
  obtain rfl : tag = .value := htag
  cases body with
  | mapping entries => cases hordinary
  | _ => exact ⟨rfl, hfalls, nofun⟩

theorem plainKeys_yields (hb : b.Ordinary host rank) (entries : List (Nat × Nat)) :
    Yields ((entries.forM fun e => do
      if (← node e.1).tag = .value then setTag e.1 .str : Builder Unit) b) fun _ b' =>
      b.Extends host rank b' := by
  refine (forM_yields (P := fun _ _ => True) hb (fun _ _ => trivial) fun e _ b hb => ?_).mono
    fun _ _ h => h.1
  refine Yields.bind (node_yields b e.1) fun n b' hn => ?_
  obtain ⟨rfl, hn⟩ := hn
  split
  · rename_i htag
    exact (setTag_yields hb hn htag).mono fun _ _ h => ⟨h, trivial⟩
  · exact yields_pure ⟨.refl hb, trivial⟩

theorem follow_yields {room : Nat} (h : 0 < room) :
    Yields (follow room b) fun inner b' => b = b' ∧ inner + 1 = room := by
  cases room with
  | zero => cases h
  | succ inner => exact yields_pure ⟨rfl, rfl⟩

/-- Merging keeps states ordinary, with so much fuel, and room for the rank of the mapping. -/
def Flattens (host : Host) (rank : Nat → Nat) (fuel : Nat) : Prop :=
  ∀ {b : Building} {room : Nat} (id : Nat) {merged : List (Nat × Nat)}, b.Ordinary host rank →
    rank id ≤ room → Below rank id (Body.mapping merged).parts →
    Yields (flatten room fuel id merged b) fun _ b' => b.Extends host rank b'

/-- The entries of the mappings in a sequence. -/
theorem sources_yields {room fuel id : Nat} (hfuel : Flattens host rank fuel)
    (hb : b.Ordinary host rank) (hroom : rank id ≤ room) {items : List Nat}
    (hitems : Below rank id items) :
    Yields ((items.foldlM (fun acc item => do
        let _ ← entriesOf item
        let inner ← follow room
        flatten inner fuel item []
        return (← entriesOf item) ++ acc) [] : Builder (List (Nat × Nat))) b)
      fun more b' => b.Extends host rank b' ∧ Below rank id (Body.mapping more).parts := by
  refine foldlM_yields hb nofun fun item hitem acc b₁ h₁ hacc => ?_
  have hid := hitems item hitem
  refine Yields.bind (entriesOf_yields h₁.ordinary item) fun _ b' h => ?_
  obtain ⟨rfl, -⟩ := h
  refine Yields.bind (follow_yields (by omega)) fun inner b' h => ?_
  obtain ⟨rfl, hinner⟩ := h
  refine Yields.bind (hfuel item h₁.ordinary (by omega) nofun) fun _ b₂ h₂ => ?_
  refine Yields.bind (entriesOf_yields h₂.ordinary item) fun more b' h => ?_
  obtain ⟨rfl, -, hmore⟩ := h
  exact yields_pure ⟨h₂, (hmore.trans hid).append hacc⟩

theorem Flattens.succ {fuel : Nat} (hfuel : Flattens host rank fuel) :
    Flattens host rank (fuel + 1) := by
  intro b room id merged hb hroom hmerged
  rw [flatten]
  refine Yields.bind (entriesOf_yields hb id) fun entries b' h => ?_
  obtain ⟨rfl, hid, hentries⟩ := h
  refine Yields.bind (entryTagged?_yields b .merge entries) fun found? b' h => ?_
  obtain ⟨rfl, hfound⟩ := h
  split
  · refine Yields.bind (plainKeys_yields hb entries) fun _ b₁ h₁ => ?_
    have hall := hmerged.append hentries
    exact (setEntries_yields h₁.ordinary (h₁.keeps hid) hall).mono fun _ _ h => h₁.trans h
  · rename_i source others
    obtain ⟨hsource, hothers⟩ := hfound _ rfl
    have hsource := hentries source hsource
    have hothers : Below rank id (Body.mapping others).parts :=
      fun part hpart => hentries part (hothers part hpart)
    refine Yields.bind (setEntries_yields hb hid hothers) fun _ b₁ h₁ => ?_
    refine Yields.bind (node_yields b₁ source) fun n b' hn => ?_
    obtain ⟨rfl, hn⟩ := hn
    -- Merging goes on with entries that come after the mapping.
    have hrest : ∀ {b₂ more}, b₁.Extends host rank b₂ →
        Below rank source (Body.mapping more).parts →
        Yields (flatten room fuel id (merged ++ more) b₂) fun _ b' => b.Extends host rank b' := by
      intro b₂ more h₂ hmore
      have h₂ := h₁.trans h₂
      have hall := hmerged.append (hmore.trans hsource)
      exact (hfuel id h₂.ordinary hroom hall).mono fun _ _ h => h₂.trans h
    have hfalls := h₁.ordinary.nodes.falls hn
    obtain ⟨tag, body⟩ := n
    cases body with
    | scalar t => exact yields_malformed
    | mapping more =>
      refine Yields.bind (follow_yields (by omega)) fun inner b' h => ?_
      obtain ⟨rfl, hinner⟩ := h
      refine Yields.bind (hfuel source h₁.ordinary (by omega) nofun) fun _ b₂ h₂ => ?_
      refine Yields.bind (entriesOf_yields h₂.ordinary source) fun more b' h => ?_
      obtain ⟨rfl, -, hmore⟩ := h
      exact hrest h₂ hmore
    | sequence items =>
      have hsources := sources_yields hfuel h₁.ordinary (by omega : rank source ≤ room) hfalls
      exact Yields.bind hsources fun more b₂ h => hrest h.1 h.2

theorem flatten_yields (fuel : Nat) : Flattens host rank fuel := by
  induction fuel with
  | zero =>
    intro b room id merged _ _ _
    rw [flatten]
    exact yields_malformed
  | succ fuel ih => exact ih.succ

end Merging

/-! ## Making pieces -/

section Making

variable {rank : Nat → Nat} {b : Building}

theorem flattened_yields {room id : Nat} (hb : b.Ordinary host rank) (hroom : rank id ≤ room) :
    Yields (flattened room id b) fun entries b' =>
      b.Extends host rank b' ∧ Below rank id (Body.mapping entries).parts := by
  unfold flattened
  refine .get_bind (.bind (flatten_yields _ id hb hroom nofun) fun _ b₁ h₁ => ?_)
  refine (entriesOf_yields h₁.ordinary id).mono fun entries b' h => ?_
  obtain ⟨rfl, -, hentries⟩ := h
  exact ⟨h₁, hentries⟩

theorem ordinaryPieces_set {pieces : Array (Option Piece)} {id : Nat} {p : Piece}
    (h : OrdinaryPieces host rank pieces) (hp : p.isReportable host = true)
    (hparts : ∀ part ∈ p.parts, rank part < rank id ∧ Present pieces part) :
    OrdinaryPieces host rank (pieces.setIfInBounds id (some p)) := by
  have hcases : ∀ {i q}, (pieces.setIfInBounds id (some p))[i]? = some (some q) →
      id = i ∧ p = q ∨ pieces[i]? = some (some q) := by
    intro i q hq
    rw [Array.getElem?_setIfInBounds] at hq
    split at hq
    · rename_i heq
      split at hq
      · cases hq
        exact .inl ⟨heq, rfl⟩
      · cases hq
    · exact .inr hq
  constructor
  · intro i q hq
    rcases hcases hq with ⟨rfl, rfl⟩ | hold
    · exact hp
    · exact h.reportable hold
  · intro i q hq part hpart
    rcases hcases hq with ⟨rfl, rfl⟩ | hold
    · exact ⟨(hparts part hpart).1, present_setIfInBounds _ _ (hparts part hpart).2⟩
    · have hlater := h.falls hold part hpart
      exact ⟨hlater.1, present_setIfInBounds _ _ hlater.2⟩

theorem setPiece_yields {id : Nat} {p : Piece} (hb : b.Ordinary host rank) (hid : id < b.nodes.size)
    (hp : p.isReportable host = true)
    (hparts : ∀ part ∈ p.parts, rank part < rank id ∧ Present b.pieces part) :
    Yields (setPiece id p b) fun _ b' => b.Extends host rank b' ∧ Present b'.pieces id := by
  have hid : id < b.pieces.size := by rw [hb.size]; exact hid
  refine yields_modify ⟨?_, p, ?_⟩
  · have hsize : (b.pieces.setIfInBounds id (some p)).size = b.nodes.size := by
      rw [Array.size_setIfInBounds, hb.size]
    have hpieces := ordinaryPieces_set hb.pieces hp hparts
    exact ⟨⟨hb.nodes, hpieces, hsize⟩, rfl, fun h => h, present_setIfInBounds id p⟩
  · rw [Array.getElem?_setIfInBounds, if_pos rfl, if_pos hid]

theorem isReportable_of_read {tag : Tag} {t : Text} {v : Value} (h : Scalar.read tag t = .ok v) :
    v.isReportable host = true := by
  have hmap : ∀ {α : Type} {o : Except Fault α} {f : α → Value},
      (∀ a, (f a).isReportable host = true) → o.map f = .ok v → v.isReportable host = true := by
    intro α o f hf ho
    obtain ⟨a, -, rfl⟩ := Except.map_eq_ok.1 ho
    exact hf a
  cases tag with
  | null => cases h; rfl
  | bool => exact hmap (fun _ => rfl) h
  | int => exact hmap (fun _ => rfl) h
  | float => exact hmap (fun _ => rfl) h
  | str => cases h; rfl
  | binary =>
    rw [Scalar.read] at h
    split at h
    · cases h; rfl
    · cases h
  | timestamp =>
    rw [Scalar.read, Scalar.timestamp] at h
    split at h
    · unfold Scalar.ofTimestamp at h
      dsimp only at h
      split at h
      · exact hmap (fun _ => rfl) h
      · obtain ⟨offset, -, h⟩ := Except.bind_eq_ok.1 h
        obtain ⟨moment, -, h⟩ := Except.bind_eq_ok.1 h
        cases h; rfl
    · cases h
  | _ => cases h

theorem isReportable_madeFrom (id : Nat) (v : Value) :
    (Piece.scalar (madeFrom id v)).isReportable host = (Piece.scalar v).isReportable host := by
  cases v <;> rfl

theorem readScalar_yields {id : Nat} {tag : Tag} {t : Text} (h : isReadable host tag t = true) :
    Yields ((do return madeFrom id (← Scalar.read tag t) : Builder Value) b)
      fun v b' => b = b' ∧ (Piece.scalar v).isReportable host = true := by
  unfold isReadable at h
  split at h
  · rename_i v hv
    rw [hv]
    refine yields_pure ⟨rfl, ?_⟩
    rw [isReportable_madeFrom]
    exact Bool.and_eq_true_iff.2 ⟨isReportable_of_read hv, h⟩
  · rename_i f hf
    rw [hf, of_decide_eq_true h]
    rfl

/-- An ordinary scalar is read, or malformed. -/
theorem leaf_yields (hb : b.Ordinary host rank) (room id : Nat) :
    Yields (leaf room id b) fun v b' => b = b' ∧ (Piece.scalar v).isReportable host = true := by
  unfold leaf
  refine Yields.bind (node_yields b id) fun n b' hn => ?_
  obtain ⟨rfl, hn⟩ := hn
  split
  · exact yields_malformed
  rename_i hreads
  have hordinary := hb.nodes.ordinary hn
  obtain ⟨tag, body⟩ := n
  cases body with
  | scalar t =>
    have htext : Yields (scalarText room id b) fun text b' => b = b' ∧ text = t := by
      rw [scalarText.eq_def]
      refine Yields.bind (node_yields b id) fun n b' hn' => ?_
      obtain ⟨rfl, hn'⟩ := hn'
      obtain rfl := Option.some.inj (hn.symm.trans hn')
      exact yields_pure ⟨rfl, rfl⟩
    refine Yields.bind htext fun text b' h => ?_
    obtain ⟨rfl, rfl⟩ := h
    cases tag <;> exact readScalar_yields hordinary
  | sequence items =>
    have htext : Yields (scalarText room id b) fun _ _ => False := by
      rw [scalarText.eq_def]
      refine Yields.bind (node_yields b id) fun n b' hn' => ?_
      obtain ⟨rfl, hn'⟩ := hn'
      obtain rfl := Option.some.inj (hn.symm.trans hn')
      exact yields_malformed
    exact Yields.bind htext fun _ _ h => h.elim
  | mapping entries =>
    have hkeeps : (!tag.readsText) = true := (Bool.and_eq_true_iff.1 hordinary).1
    exact absurd hkeeps hreads

theorem isReportable_of_emptyPiece? {tag : Tag} {p : Piece} (h : emptyPiece? tag = some p) :
    p.isReportable host = true ∧ p.parts = [] := by
  cases tag <;> cases h <;> exact ⟨rfl, rfl⟩

theorem piece_yields (hb : b.Ordinary host rank) (room id : Nat) :
    Yields (piece room id b) fun p b' =>
      b.Extends host rank b' ∧ Present b'.pieces id ∧ p.isReportable host = true := by
  unfold piece
  refine .get_bind ?_
  generalize hpiece : b.pieces[id]? = found
  split
  · rename_i p
    exact yields_pure ⟨.refl hb, ⟨p, hpiece⟩, hb.pieces.reportable hpiece⟩
  · refine Yields.bind (node_yields b id) fun n b' hn => ?_
    obtain ⟨rfl, hn⟩ := hn
    have hid := (Array.getElem?_eq_some_iff.1 hn).1
    generalize htag : emptyPiece? n.tag = empty
    split
    · rename_i p
      obtain ⟨hempty, hparts⟩ := isReportable_of_emptyPiece? htag
      refine Yields.bind (setPiece_yields hb hid hempty (by simp [hparts])) fun _ b₁ h₁ => ?_
      obtain ⟨h₁, hpresent⟩ := h₁
      refine Yields.bind
        (yields_modify (Q := fun _ b' => b.Extends host rank b' ∧ Present b'.pieces id) ?_)
        fun _ b₂ h₂ => yields_pure ⟨h₂.1, h₂.2, hempty⟩
      obtain ⟨hnodes, hpieces, hsize⟩ := h₁.ordinary
      exact ⟨⟨⟨hnodes, hpieces, hsize⟩, h₁.size, h₁.keeps, h₁.present⟩, hpresent⟩
    · refine Yields.bind (leaf_yields hb room id) fun l b' h => ?_
      obtain ⟨rfl, hl⟩ := h
      refine Yields.bind (setPiece_yields hb hid hl nofun) fun _ b₁ h₁ => ?_
      exact yields_pure ⟨h₁.1, h₁.2, hl⟩

theorem forall_mem_put {P : Value → Prop} {Q : Nat → Prop} {key : Value} {id : Nat}
    {entries : List (Value × Nat)} (hkey : P key) (hid : Q id)
    (h : ∀ e ∈ entries, P e.1 ∧ Q e.2) : ∀ e ∈ Value.put key id entries, P e.1 ∧ Q e.2 := by
  induction entries with
  | nil => exact List.forall_mem_singleton.2 ⟨hkey, hid⟩
  | cons e entries ih =>
    obtain ⟨k, old⟩ := e
    obtain ⟨hold, hrest⟩ := List.forall_mem_cons.1 h
    rw [Value.put]
    split
    · exact List.forall_mem_cons.2 ⟨⟨hold.1, hid⟩, hrest⟩
    · exact List.forall_mem_cons.2 ⟨hold, ih hrest⟩

theorem record_yields {room id : Nat} (hb : b.Ordinary host rank) (hroom : rank id ≤ room) :
    Yields (record room id b) fun entries b' => b.Extends host rank b' ∧
      ∀ e ∈ entries, e.1.isShowable host = true ∧ rank e.2 < rank id ∧ Present b'.pieces e.2 := by
  unfold record
  refine Yields.bind (flattened_yields hb hroom) fun entries b₁ h => ?_
  obtain ⟨h₁, hentries⟩ := h
  refine (foldlM_yields (I := fun acc b' => ∀ e ∈ acc,
    e.1.isShowable host = true ∧ rank e.2 < rank id ∧ Present b'.pieces e.2)
    h₁.ordinary nofun ?_).mono fun acc b₂ h => ⟨h₁.trans h.1, h.2⟩
  intro e he acc b₂ h₂ hacc
  obtain ⟨key, value⟩ := e
  refine Yields.bind (piece_yields h₂.ordinary room key) fun p b₃ h => ?_
  obtain ⟨h₃, -, hp⟩ := h
  split
  · refine Yields.bind (piece_yields h₃.ordinary room value) fun _ b₄ h => ?_
    obtain ⟨h₄, hvalue, -⟩ := h
    have hfalls := hentries value (List.mem_flatMap.2 ⟨_, he, by simp⟩)
    have hlater : ∀ e ∈ acc, e.1.isShowable host = true ∧
        rank e.2 < rank id ∧ Present b₄.pieces e.2 := by
      intro e he
      obtain ⟨hshow, hfalls, hpresent⟩ := hacc e he
      exact ⟨hshow, hfalls, h₄.present (h₃.present hpresent)⟩
    exact yields_pure ⟨h₃.trans h₄, forall_mem_put (P := fun v => v.isShowable host = true)
      (Q := fun part => rank part < rank id ∧ Present b₄.pieces part)
      (Bool.and_eq_true_iff.1 hp).2 ⟨hfalls, hvalue⟩ hlater⟩
  · exact yields_malformed

theorem pairs_yields (hb : b.Ordinary host rank) (room id : Nat) :
    Yields (pairs room id b) fun items b' => b.Extends host rank b' ∧
      ∀ e ∈ items, ∀ part ∈ [e.1, e.2], rank part < rank id ∧ Present b'.pieces part := by
  unfold pairs
  refine Yields.bind (itemsOf_yields hb id) fun items b' h => ?_
  obtain ⟨rfl, hitems⟩ := h
  refine mapM_yields hb (fun h hextends part hpart => ?_) fun item hitem b₁ hb₁ => ?_
  · exact ⟨(h part hpart).1, hextends.present (h part hpart).2⟩
  refine Yields.bind (entriesOf_yields hb₁ item) fun entries b' h => ?_
  obtain ⟨rfl, -, hentries⟩ := h
  split
  · rename_i key value
    refine Yields.bind (piece_yields hb₁ room key) fun _ b₂ h₂ => ?_
    refine Yields.bind (piece_yields h₂.1.ordinary room value) fun _ b₃ h₃ => ?_
    refine yields_pure ⟨h₂.1.trans h₃.1, fun part hpart => ?_⟩
    have hfalls := (hentries.trans (hitems item hitem)) part hpart
    rcases List.mem_cons.1 hpart with rfl | hpart
    · exact ⟨hfalls, h₃.1.present h₂.2.1⟩
    · obtain rfl := List.mem_singleton.1 hpart
      exact ⟨hfalls, h₃.2.1⟩
  · exact yields_malformed

/-- A collection is given its parts. -/
theorem completePiece_yields {α : Type} {m : Builder α} {body : α → Piece} {id : Nat}
    (hid : id < b.nodes.size)
    (hm : Yields (m b) fun a b' => b.Extends host rank b' ∧ (body a).isReportable host = true ∧
      ∀ part ∈ (body a).parts, rank part < rank id ∧ Present b'.pieces part) :
    Yields ((m >>= fun a => setPiece id (body a)) b) fun _ b' => b.Extends host rank b' := by
  refine Yields.bind hm fun a b₁ h₁ => ?_
  obtain ⟨h₁, hreport, hparts⟩ := h₁
  have hid : id < b₁.nodes.size := by rw [h₁.size]; exact hid
  exact (setPiece_yields h₁.ordinary hid hreport hparts).mono fun _ _ h => h₁.trans h.1

theorem complete_yields (hb : b.Ordinary host rank) (id : Nat) :
    Yields (complete host.following id b) fun _ b' => b.Extends host rank b' := by
  unfold complete
  refine Yields.bind (node_yields b id) fun n b' hn => ?_
  obtain ⟨rfl, hn⟩ := hn
  have hid := (Array.getElem?_eq_some_iff.1 hn).1
  have hroom := (hb.nodes.shallow hn).1
  have hpairs : Yields ((do setPiece id (.pairs (← pairs host.following id)) : Builder Unit) b)
      fun _ b' => b.Extends host rank b' := by
    refine completePiece_yields hid ((pairs_yields hb _ id).mono fun items b₁ h => ⟨h.1, rfl, ?_⟩)
    intro part hpart
    obtain ⟨e, he, hpart⟩ := List.mem_flatMap.1 hpart
    exact h.2 e he part hpart
  obtain ⟨tag, body⟩ := n
  dsimp only
  split
  · refine Yields.bind (itemsOf_yields hb id) fun items b' h => ?_
    obtain ⟨rfl, hitems⟩ := h
    have hlist : ∀ {m : Builder PUnit}, Yields (m b) (fun _ b' => b.Extends host rank b' ∧
        ∀ item ∈ items, Present b'.pieces item) →
        Yields ((m >>= fun _ => setPiece id (.list items)) b)
          fun _ b' => b.Extends host rank b' := by
      intro m hm
      refine completePiece_yields hid (hm.mono fun _ b₁ h => ⟨h.1, rfl, fun item hitem => ?_⟩)
      exact ⟨hitems item hitem, h.2 item hitem⟩
    refine hlist (m := items.forM fun item => discard (piece host.following item)) ?_
    refine forM_yields (P := fun item b' => Present b'.pieces item) hb
      (fun hpresent hextends => hextends.present hpresent) fun item _ b hb => ?_
    change Yields ((piece host.following item >>= fun _ => pure ()) b) _
    exact Yields.bind (piece_yields hb _ item) fun _ b₁ h => yields_pure ⟨h.1, h.2.1⟩
  · refine completePiece_yields hid
      ((record_yields hb hroom).mono fun entries b₁ h => ⟨h.1, ?_, ?_⟩)
    · exact List.all_eq_true.2 fun e he => (h.2 e he).1
    · intro part hpart
      obtain ⟨e, he, rfl⟩ := List.mem_map.1 hpart
      exact (h.2 e he).2
  · exact completePiece_yields hid
      ((record_yields hb hroom).mono fun entries b₁ h => ⟨h.1, rfl, nofun⟩)
  · exact hpairs
  · exact hpairs
  · exact yields_pure (.refl hb)

theorem completeAll_yields (hb : b.Ordinary host rank) (fuel : Nat) :
    Yields (completeAll host.following fuel b) fun _ b' => b.Extends host rank b' := by
  induction fuel generalizing b with
  | zero => exact yields_pure (.refl hb)
  | succ fuel ih =>
    rw [completeAll]
    refine .get_bind ?_
    generalize b.pending.reverse = batch
    split
    · refine Yields.bind (yields_modify (Q := fun _ b' => b.Extends host rank b') ?_)
        fun _ b₁ h₁ => ?_
      · exact ⟨⟨hb.nodes, hb.pieces, hb.size⟩, rfl, fun h => h, fun h => h⟩
      refine Yields.bind (forM_yields (P := fun _ _ => True) h₁.ordinary (fun _ _ => trivial)
        fun id _ b hb => (complete_yields hb id).mono fun _ _ h => ⟨h, trivial⟩) fun _ b₂ h₂ => ?_
      exact (ih h₂.1.ordinary).mono fun _ _ h => (h₁.trans h₂.1).trans h
    · exact yields_pure (.refl hb)

end Making

/-- An ordinary graph is malformed or gives a value that can be reported. -/
theorem ofGraph_cases {g : Graph} (h : g.IsOrdinary host) :
    ofGraph host g = .error .malformed ∨
      ∃ v, ofGraph host g = .ok v ∧ v.isReportable host = true := by
  obtain ⟨rank, h⟩ := h
  let start : Building := ⟨g.nodes, Array.replicate g.nodes.size none, []⟩
  let build : Builder Unit := do
    let _ ← piece host.following g.root
    completeAll host.following (g.nodes.size + 1)
  have hnone : ∀ {i : Nat} {p : Piece}, start.pieces[i]? ≠ some (some p) := by
    intro i p
    rw [Array.getElem?_replicate]
    split <;> simp
  have hstart : start.Ordinary host rank :=
    ⟨h, ⟨fun hp => absurd hp hnone, fun hp => absurd hp hnone⟩, Array.size_replicate⟩
  have hbuild : Yields (build start) fun _ b => OrdinaryPieces host rank b.pieces ∧
      Present b.pieces g.root ∧ b.pieces.size = g.nodes.size := by
    refine Yields.bind (piece_yields hstart _ g.root) fun _ b₁ h₁ => ?_
    refine (completeAll_yields h₁.1.ordinary _).mono fun _ b₂ h₂ => ?_
    refine ⟨h₂.ordinary.pieces, h₂.present h₁.2.1, ?_⟩
    rw [h₂.ordinary.size, h₂.size, h₁.1.size]
  have heq : ofGraph host g = (build start).map fun x =>
      valueAt (unroll x.2.pieces (host.building + 1)) g.root := by
    change (build start >>= fun x => pure _) = _
    cases build start <;> rfl
  rw [heq]
  unfold Yields at hbuild
  split at hbuild
  · rename_i x b hrun
    obtain ⟨hpieces, hpresent, hsize⟩ := hbuild
    have hroot : g.root < g.nodes.size := hsize ▸ hpresent.lt
    have hrank := (h.shallow (Array.getElem?_eq_getElem hroot)).2
    rw [hrun]
    exact .inr ⟨_, rfl, isReportable_valueAt_unroll hpieces hpresent (Nat.lt_succ_of_le hrank)⟩
  · rename_i f hrun
    rw [hrun, hbuild]
    exact .inl rfl

end Content

/-! ## Ordinary texts -/

/-- The graph of a text, if it holds a document. -/
def compose (host : Host) (t : Text) : Except Fault (Option Graph) :=
  match characters? t with
  | none => malformed
  | some cs => Graph.ofTokens host.composing (tokens cs)

/-- The graph of a text is ordinary, or the text is malformed. -/
structure IsOrdinary (host : Host) (t : Text) : Prop where
  graph : ∀ {g : Graph}, compose host t = .ok (some g) → g.IsOrdinary host
  fault : ∀ {f : Fault}, compose host t = .error f → f = .malformed

/-- Whether ranks show that the graph of a text is ordinary. -/
def isOrdinaryBy (host : Host) (rank : Nat → Nat) (t : Text) : Bool :=
  match compose host t with
  | .ok none => true
  | .ok (some g) => g.nodes.toList.zipIdx.all fun x =>
      x.1.isOrdinary host && (x.1.body.parts.all fun part => rank part < rank x.2)
        && (rank x.2 ≤ host.following && rank x.2 ≤ host.building)
  | .error f => f = .malformed

theorem isOrdinary_of_isOrdinaryBy {rank : Nat → Nat} {t : Text}
    (h : isOrdinaryBy host rank t = true) : IsOrdinary host t := by
  unfold isOrdinaryBy at h
  constructor
  · intro g hcompose
    rw [hcompose] at h
    have hnode : ∀ {i n}, g.nodes[i]? = some n → (n.isOrdinary host = true ∧
        ∀ part ∈ n.body.parts, rank part < rank i) ∧
          rank i ≤ host.following ∧ rank i ≤ host.building := by
      intro i n hn
      rw [← Array.getElem?_toList] at hn
      have hall := List.all_eq_true.1 h (n, i) (List.mem_zipIdx_iff_getElem?.2 hn)
      simpa using hall
    exact ⟨rank, fun hn => (hnode hn).1.1, fun hn => (hnode hn).1.2, fun hn => (hnode hn).2⟩
  · intro f hcompose
    rw [hcompose] at h
    exact of_decide_eq_true h

theorem read_eq (t : Text) : read host t = compose host t >>= fun g? =>
    match g? with
    | none => .ok .null
    | some g => Content.ofGraph host g := by
  unfold read compose
  cases characters? t <;> rfl

/-- What is read from an ordinary text can be reported. -/
theorem read_cases {t : Text} (h : IsOrdinary host t) :
    read host t = .error .malformed ∨
      ∃ v, read host t = .ok v ∧ v.isReportable host = true := by
  rw [read_eq]
  cases hcompose : compose host t with
  | ok g? =>
    cases g? with
    | none => exact .inr ⟨.null, rfl, rfl⟩
    | some g => exact Content.ofGraph_cases (h.graph hcompose)
  | error f =>
    rw [h.fault hcompose]
    exact .inl rfl

end DataShape.Yaml
