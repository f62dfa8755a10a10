-- SUMMARY: Documents of flow collections as trees: their tokens, and the nodes that are read off them.
import DataShape.Proofs.Lists
import DataShape.Yaml.Content

/-!
# Trees

A document without block collections, anchors and tags is a tree. Its nodes are
numbered in the order in which their tokens come, so the tree tells where each
of them stands in the graph.
-/

namespace DataShape.Yaml

/-- A step that succeeds hands on its result and its state. -/
theorem bind_of_ok {σ α β : Type} {m : StateT σ (Except Fault) α} {k : α → StateT σ (Except Fault) β}
    {a : α} {s s' : σ} (h : m s = .ok (a, s')) : (m >>= k) s = k a s' := by
  change (m s >>= fun x => k x.1 x.2) = _
  rw [h]
  rfl

theorem get_bind {σ β : Type} {k : σ → StateT σ (Except Fault) β} (s : σ) :
    (get >>= k) s = k s s := rfl

/-- A scalar with the value that it reads as, wherever it stands. -/
structure ReadScalar where
  text : Text
  plain : Bool
  value : Value
  reads : Scalar.read (Graph.scalarTag none text plain) text = .ok value
  isNumber : value.isNaN = false

def ReadScalar.node (s : ReadScalar) : Node :=
  ⟨Graph.scalarTag none s.text s.plain, .scalar s.text⟩

/-- A quoted scalar is a text. -/
def ReadScalar.quoted (text : Text) : ReadScalar := ⟨text, false, .str text, rfl, rfl⟩

/-- A document of flow collections; keys are quoted. -/
inductive Tree where
  | scalar (s : ReadScalar)
  | sequence (items : List Tree)
  | mapping (fields : List (Text × Tree))

namespace Tree

mutual

/-- The tokens of a tree. -/
def tokens : Tree → List Token
  | .scalar s => [.scalar s.text s.plain]
  | .sequence items =>
    .flowSequenceStart :: separated .flowEntry (tokensEach items) ++ [.flowSequenceEnd]
  | .mapping fields =>
    .flowMappingStart :: separated .flowEntry (tokensFields fields) ++ [.flowMappingEnd]
termination_by structural t => t

def tokensEach : List Tree → List (List Token)
  | [] => []
  | t :: ts => t.tokens :: tokensEach ts
termination_by structural ts => ts

def tokensFields : List (Text × Tree) → List (List Token)
  | [] => []
  | (name, t) :: fs => (.key :: .scalar name false :: .value :: t.tokens) :: tokensFields fs
termination_by structural fs => fs

end

mutual

/-- The number of nodes of a tree. -/
def size : Tree → Nat
  | .scalar _ => 1
  | .sequence items => sizeEach items + 1
  | .mapping fields => sizeFields fields + 1
termination_by structural t => t

def sizeEach : List Tree → Nat
  | [] => 0
  | t :: ts => t.size + sizeEach ts
termination_by structural ts => ts

def sizeFields : List (Text × Tree) → Nat
  | [] => 0
  | (_, t) :: fs => 1 + t.size + sizeFields fs
termination_by structural fs => fs

end

mutual

/-- How many collections stand inside one another. -/
def depth : Tree → Nat
  | .scalar _ => 0
  | .sequence items => depthEach items + 1
  | .mapping fields => depthFields fields + 1
termination_by structural t => t

def depthEach : List Tree → Nat
  | [] => 0
  | t :: ts => max t.depth (depthEach ts)
termination_by structural ts => ts

def depthFields : List (Text × Tree) → Nat
  | [] => 0
  | (_, t) :: fs => max t.depth (depthFields fs)
termination_by structural fs => fs

end

/-- The numbers of items that follow each other from `n` on. -/
def numbers (n : Nat) : List Tree → List Nat
  | [] => []
  | t :: ts => n :: numbers (n + t.size) ts

/-- The numbers of keys and values that follow each other from `n` on. -/
def fieldNumbers (n : Nat) : List (Text × Tree) → List (Nat × Nat)
  | [] => []
  | (_, t) :: fs => (n, n + 1) :: fieldNumbers (n + 1 + t.size) fs

mutual

/-- The nodes of a tree, of which the first one has the number `n`. -/
def nodes (n : Nat) : Tree → List Node
  | .scalar s => [s.node]
  | .sequence items => ⟨.seq, .sequence (numbers (n + 1) items)⟩ :: nodesEach (n + 1) items
  | .mapping fields => ⟨.map, .mapping (fieldNumbers (n + 1) fields)⟩ :: nodesFields (n + 1) fields
termination_by structural t => t

def nodesEach (n : Nat) : List Tree → List Node
  | [] => []
  | t :: ts => t.nodes n ++ nodesEach (n + t.size) ts
termination_by structural ts => ts

def nodesFields (n : Nat) : List (Text × Tree) → List Node
  | [] => []
  | (name, t) :: fs =>
    (ReadScalar.quoted name).node :: t.nodes (n + 1) ++ nodesFields (n + 1 + t.size) fs
termination_by structural fs => fs

end

mutual

@[simp] theorem length_nodes (t : Tree) (n : Nat) : (t.nodes n).length = t.size := by
  cases t with
  | scalar s => rfl
  | sequence items =>
    rw [nodes, List.length_cons, length_nodesEach items, size]
  | mapping fields =>
    rw [nodes, List.length_cons, length_nodesFields fields, size]
termination_by structural t

@[simp] theorem length_nodesEach (ts : List Tree) (n : Nat) :
    (nodesEach n ts).length = sizeEach ts := by
  cases ts with
  | nil => rfl
  | cons t ts => rw [nodesEach, List.length_append, length_nodes t, length_nodesEach ts, sizeEach]
termination_by structural ts

@[simp] theorem length_nodesFields (fs : List (Text × Tree)) (n : Nat) :
    (nodesFields n fs).length = sizeFields fs := by
  cases fs with
  | nil => rfl
  | cons f fs =>
    rw [nodesFields, List.length_append, List.length_cons, length_nodes f.2,
      length_nodesFields fs, sizeFields, Nat.add_comm 1]
termination_by structural fs

end

mutual

/-- What a document says. -/
def value : Tree → Value
  | .scalar s => s.value
  | .sequence items => .list (valueEach items)
  | .mapping fields => .object .plain (Value.ofEntries (valueFields fields))
termination_by structural t => t

def valueEach : List Tree → List Value
  | [] => []
  | t :: ts => t.value :: valueEach ts
termination_by structural ts => ts

def valueFields : List (Text × Tree) → List (Value × Value)
  | [] => []
  | (name, t) :: fs => (.str name, t.value) :: valueFields fs
termination_by structural fs => fs

end

end Tree

end DataShape.Yaml
