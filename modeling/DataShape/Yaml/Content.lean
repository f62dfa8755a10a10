-- SUMMARY: The content of a node graph as a value: scalars by their tags, merged mappings, keys, and what refers to itself.
import DataShape.Host
import DataShape.Value.Equal
import DataShape.Yaml.Graph
import DataShape.Yaml.Scalar

/-!
# Content of graphs

The content of a node is made once, when it is first met; collections get
their parts later, level by level, so a fault near the root wins over a deeper
one. Only scalars can be keys. Where a node stands for another one, or takes
its entries, the steps from node to node need room. A collection that contains
itself has no finite value; like all others it is followed to some depth and
cut off there.
-/

namespace DataShape.Yaml.Content

/-- The content of one node, with the numbers of its parts. -/
inductive Piece where
  | scalar (value : Value)
  | list (items : List Nat)
  | pairs (items : List (Nat × Nat))
  | record (entries : List (Value × Nat))
  | set (elements : List Value)

structure Building where
  nodes : Array Node
  pieces : Array (Option Piece)
  /-- The collections that do not have their parts yet, the last one first. -/
  pending : List Nat

abbrev Builder := StateT Building (Except Fault)

def refuse {α : Type} : Builder α := throw .malformed

def node (id : Nat) : Builder Node := do
  match (← get).nodes[id]? with
  | some n => return n
  | none => refuse

def itemsOf (id : Nat) : Builder (List Nat) := do
  match (← node id).body with
  | .sequence items => return items
  | _ => refuse

def entriesOf (id : Nat) : Builder (List (Nat × Nat)) := do
  match (← node id).body with
  | .mapping entries => return entries
  | _ => refuse

def setEntries (id : Nat) (entries : List (Nat × Nat)) : Builder Unit :=
  modify fun b => { b with nodes := b.nodes.modify id fun n => { n with body := .mapping entries } }

def setTag (id : Nat) (tag : Tag) : Builder Unit :=
  modify fun b => { b with nodes := b.nodes.modify id fun n => { n with tag := tag } }

def setPiece (id : Nat) (piece : Piece) : Builder Unit :=
  modify fun b => { b with pieces := b.pieces.setIfInBounds id (some piece) }

/-- The first entry whose key has a tag, and the entries without it. -/
def entryTagged? (tag : Tag) : List (Nat × Nat) → Builder (Option (Nat × List (Nat × Nat)))
  | [] => return none
  | (key, value) :: rest => do
    if (← node key).tag = tag then return some (value, rest)
    else return (← entryTagged? tag rest).map fun (found, others) => (found, (key, value) :: others)

-- ---------------------------------------------------------------------------
-- Scalars
-- ---------------------------------------------------------------------------

/-- The text of a scalar. A mapping with an `=` entry stands for the scalar there. -/
def scalarText (room id : Nat) : Builder Text := do
  match (← node id).body with
  | .scalar text => return text
  | .sequence _ => refuse
  | .mapping entries =>
    match ← entryTagged? .value entries with
    | none => refuse
    | some (value, _) =>
      match room with
      | 0 => throw .tooDeep
      | inner + 1 => scalarText inner value

/-- A value that was made from the text of a node. What is not a number is known by that node then.
-/
def madeFrom (id : Nat) : Value → Value
  | .float x => .float (x.identified id)
  | v => v

def leaf (room id : Nat) : Builder Value := do
  let n ← node id
  if !n.tag.readsText then refuse
  else
    let text ← scalarText room id
    match n.tag, n.body with
    | .timestamp, .mapping _ => throw (.scalar .momentOfMapping)
    | tag, _ => return madeFrom id (← Scalar.read tag text)

-- ---------------------------------------------------------------------------
-- Merging
-- ---------------------------------------------------------------------------

/-- What is left of the room after a step to another node. -/
def follow (room : Nat) : Builder Nat :=
  match room with
  | 0 => throw .tooDeep
  | inner + 1 => return inner

/-- Replaces the `<<` entries of a mapping by the entries of the mappings they name, in front of its
own; of a sequence of mappings the last one comes first. Each step removes such an entry, so their
number is fuel enough. An `=` key is an ordinary one from here on. -/
def flatten (room fuel id : Nat) (merged : List (Nat × Nat)) : Builder Unit :=
  match fuel with
  | 0 => refuse
  | fuel + 1 => do
    let entries ← entriesOf id
    match ← entryTagged? .merge entries with
    | none =>
      entries.forM fun e => do
        if (← node e.1).tag = .value then setTag e.1 .str
      setEntries id (merged ++ entries)
    | some (source, others) =>
      setEntries id others
      match (← node source).body with
      | .mapping _ =>
        let inner ← follow room
        flatten inner fuel source []
        flatten room fuel id (merged ++ (← entriesOf source))
      | .sequence items =>
        let more ← items.foldlM (fun acc item => do
          let _ ← entriesOf item
          let inner ← follow room
          flatten inner fuel item []
          return (← entriesOf item) ++ acc) []
        flatten room fuel id (merged ++ more)
      | .scalar _ => refuse

def entryCount (nodes : Array Node) : Nat :=
  nodes.foldl (fun n node => match node.body with
    | .mapping entries => n + entries.length
    | _ => n) 0

def flattened (room id : Nat) : Builder (List (Nat × Nat)) := do
  flatten room (entryCount (← get).nodes + 1) id []
  entriesOf id

-- ---------------------------------------------------------------------------
-- Pieces
-- ---------------------------------------------------------------------------

/-- A collection without its parts, for the tags of collections. -/
def emptyPiece? : Tag → Option Piece
  | .seq => some (.list [])
  | .map => some (.record [])
  | .set => some (.set [])
  | .omap => some (.pairs [])
  | .pairs => some (.pairs [])
  | _ => none

/-- The piece of a node, made if it is not there yet. -/
def piece (room id : Nat) : Builder Piece := do
  match (← get).pieces[id]? with
  | some (some p) => return p
  | _ =>
    match emptyPiece? (← node id).tag with
    | some p =>
      setPiece id p
      modify fun b => { b with pending := id :: b.pending }
      return p
    | none =>
      let p := Piece.scalar (← leaf room id)
      setPiece id p
      return p

def record (room id : Nat) : Builder (List (Value × Nat)) := do
  (← flattened room id).foldlM (fun acc (key, value) => do
    match ← piece room key with
    | .scalar k =>
      let _ ← piece room value
      return Value.put k value acc
    | _ => refuse) []

/-- The pairs of a sequence of mappings with one entry each. -/
def pairs (room id : Nat) : Builder (List (Nat × Nat)) := do
  (← itemsOf id).mapM fun item => do
    match ← entriesOf item with
    | [(key, value)] =>
      let _ ← piece room key
      let _ ← piece room value
      return (key, value)
    | _ => refuse

/-- Gives a collection its parts. -/
def complete (room id : Nat) : Builder Unit := do
  match (← node id).tag with
  | .seq =>
    let items ← itemsOf id
    items.forM fun item => discard (piece room item)
    setPiece id (.list items)
  | .map => setPiece id (.record (← record room id))
  | .set => setPiece id (.set ((← record room id).map (·.1)))
  | .omap => setPiece id (.pairs (← pairs room id))
  | .pairs => setPiece id (.pairs (← pairs room id))
  | _ => return

/-- Completes the pending collections, and those that turn up meanwhile in a next round. Each round
has a new one, so the number of nodes is fuel enough. -/
def completeAll (room fuel : Nat) : Builder Unit :=
  match fuel with
  | 0 => return
  | fuel + 1 => do
    let batch := (← get).pending.reverse
    if !batch.isEmpty then
      modify fun b => { b with pending := [] }
      batch.forM (complete room)
      completeAll room fuel

-- ---------------------------------------------------------------------------
-- Values
-- ---------------------------------------------------------------------------

/-- What stands where parts are not followed further. -/
def cut : Value := .reference 0

/-- The value of a piece, given those of its parts. -/
def Piece.value (known : Nat → Value) : Piece → Value
  | .scalar v => v
  | .list items => .list (items.map known)
  | .pairs items => .list (items.map fun e => .array .tuple [known e.1, known e.2])
  | .record entries => .object .plain (entries.map fun e => (e.1, known e.2))
  | .set elements => .set elements

/-- The value of one piece among those of all. -/
def valueAt (values : Array Value) (id : Nat) : Value := (values[id]?).getD cut

/-- The values of all pieces, with parts inside one another down to a depth. -/
def unroll (pieces : Array (Option Piece)) : Nat → Array Value
  | 0 => #[]
  | depth + 1 =>
    let below := unroll pieces depth
    pieces.map fun p => p.elim cut (Piece.value (valueAt below))

/-- The value that a graph describes. -/
def ofGraph (host : Host) (g : Graph) : Except Fault Value := do
  let build : Builder Unit := do
    let _ ← piece host.following g.root
    completeAll host.following (g.nodes.size + 1)
  let (_, built) ← build.run ⟨g.nodes, Array.replicate g.nodes.size none, []⟩
  return valueAt (unroll built.pieces (host.building + 1)) g.root

end DataShape.Yaml.Content
