-- SUMMARY: The nodes of a document as a graph, read off its tokens.
import DataShape.Yaml.Tag
import DataShape.Yaml.Token

/-!
# Node graphs

A document is a graph of tagged nodes: an alias refers to a node that is
there already, so nodes are known by number and may even contain themselves.
A node gets its number before its parts get theirs.
-/

namespace DataShape.Yaml

inductive Body where
  | scalar (text : Text)
  | sequence (items : List Nat)
  | mapping (entries : List (Nat × Nat))

structure Node where
  tag : Tag
  body : Body

structure Graph where
  nodes : Array Node
  root : Nat

-- ---------------------------------------------------------------------------
-- Reading tokens
-- ---------------------------------------------------------------------------

namespace Graph

structure Reading where
  tokens : List Token
  nodes : Array Node
  anchors : List (Text × Nat)
  handles : List (Text × Text)

abbrev Reader := StateT Reading (Except Fault)

def refuse {α : Type} : Reader α := throw .malformed

/-- The next token. A fault among the tokens shows when it is looked at. -/
def peek : Reader Token := do
  match (← get).tokens with
  | [] => refuse
  | .fault f :: _ => throw f
  | t :: _ => return t

def advance : Reader Unit := modify fun r => { r with tokens := r.tokens.drop 1 }

/-- Past the next token, which has to be this one. -/
def expect (t : Token) : Reader Unit := do
  if (← peek) = t then advance else refuse

/-- Past the next token if it is this one. -/
def accept (t : Token) : Reader Bool := do
  if (← peek) = t then
    advance
    return true
  else return false

-- ---------------------------------------------------------------------------
-- Directives
-- ---------------------------------------------------------------------------

/-- The handles that need no directive. -/
def commonHandles : List (Text × Text) := [("!", "!"), ("!!", Tag.leading)]

/-- Directives up to the next token of another kind: at most one version, which has to be of the
first generation, and each handle once. -/
def readDirectives (fuel : Nat) (versioned : Bool) (handles : List (Text × Text)) : Reader Unit :=
  match fuel with
  | 0 => refuse
  | fuel + 1 => do
    match ← peek with
    | .directive (.version major _) =>
      advance
      if versioned || major ≠ 1 then refuse
      else readDirectives fuel true handles
    | .directive (.tag handle leading) =>
      advance
      if (handles.lookup handle).isSome then refuse
      else readDirectives fuel versioned ((handle, leading) :: handles)
    | .directive .reserved =>
      advance
      readDirectives fuel versioned handles
    | _ => modify fun r => { r with handles := handles ++ commonHandles }

-- ---------------------------------------------------------------------------
-- Nodes
-- ---------------------------------------------------------------------------

/-- What may stand before the content of a node. -/
structure Properties where
  anchor : Option Text
  tag : Option Text

def Properties.none : Properties := ⟨.none, .none⟩

/-- The text of a tag, its handle spelled out. -/
def resolveTag (tag : Option (Option Text × Text)) : Reader (Option Text) := do
  match tag with
  | none => return none
  | some (none, t) => return some t
  | some (some handle, rest) =>
    match (← get).handles.lookup handle with
    | some leading => return some (leading ++ rest)
    | none => refuse

/-- Anchor and tag in either order. -/
def readProperties : Reader Properties := do
  match ← peek with
  | .anchor name =>
    advance
    match ← peek with
    | .tag handle rest =>
      advance
      return ⟨some name, ← resolveTag (some (handle, rest))⟩
    | _ => return ⟨some name, none⟩
  | .tag handle rest =>
    advance
    match ← peek with
    | .anchor name =>
      advance
      return ⟨some name, ← resolveTag (some (handle, rest))⟩
    | _ => return ⟨none, ← resolveTag (some (handle, rest))⟩
  | _ => return .none

/-- A new node, known by its anchor from now on. An anchor may not be used twice. -/
def addNode (anchor : Option Text) (node : Node) : Reader Nat := do
  let r ← get
  let id := r.nodes.size
  let anchors ← match anchor with
    | none => pure r.anchors
    | some name => if (r.anchors.lookup name).isSome then refuse else pure ((name, id) :: r.anchors)
  set { r with nodes := r.nodes.push node, anchors := anchors }
  return id

/-- A missing tag, and the tag `!`, leave it to the text if that is plain. -/
def scalarTag (tag : Option Text) (text : Text) (plain : Bool) : Tag :=
  match tag with
  | none => if plain then .ofPlain text else .str
  | some t => if t = "!" then .ofPlain text else .ofText t

def collectionTag (tag : Option Text) (default : Tag) : Tag :=
  match tag with
  | none => default
  | some t => if t = "!" then default else .ofText t

def addScalar (p : Properties) (text : Text) (plain : Bool) : Reader Nat :=
  addNode p.anchor ⟨scalarTag p.tag text plain, .scalar text⟩

/-- A node where none is written. -/
def addEmpty (p : Properties) : Reader Nat := addScalar p [] true

/-- A collection that does not have its parts yet. -/
def addSequence (p : Properties) : Reader Nat :=
  addNode p.anchor ⟨collectionTag p.tag .seq, .sequence []⟩

def addMapping (p : Properties) : Reader Nat :=
  addNode p.anchor ⟨collectionTag p.tag .map, .mapping []⟩

def setBody (id : Nat) (body : Body) : Reader Nat := do
  modify fun r => { r with nodes := r.nodes.modify id fun n => { n with body := body } }
  return id

/-- Where a node stands. As a key or value of a block mapping a sequence needs no indentation. -/
inductive Place where
  | flow
  | block
  | blockEntry
  deriving DecidableEq

/-- What is left inside a collection of the room for collections inside one another. -/
def enter (room : Nat) : Reader Nat :=
  match room with
  | 0 => throw .tooDeep
  | inner + 1 => return inner

mutual

/-- A node, with so much room for collections. -/
def readNode (room fuel : Nat) (place : Place) : Reader Nat :=
  match fuel with
  | 0 => refuse
  | fuel + 1 => do
    match ← peek with
    | .alias name =>
      advance
      match (← get).anchors.lookup name with
      | some id => return id
      | none => refuse
    | _ =>
      let p ← readProperties
      let t ← peek
      match t with
      | .scalar text plain =>
        advance
        addScalar p text plain
      | .flowSequenceStart =>
        advance
        let id ← addSequence p
        let inner ← enter room
        setBody id (.sequence (← readFlowItems inner fuel true []))
      | .flowMappingStart =>
        advance
        let id ← addMapping p
        let inner ← enter room
        setBody id (.mapping (← readFlowEntries inner fuel true []))
      | _ =>
        if place = .blockEntry && t = .blockEntry then
          let id ← addSequence p
          let inner ← enter room
          setBody id (.sequence (← readLooseItems inner fuel []))
        else if place ≠ .flow && t = .blockSequenceStart then
          advance
          let id ← addSequence p
          let inner ← enter room
          setBody id (.sequence (← readBlockItems inner fuel []))
        else if place ≠ .flow && t = .blockMappingStart then
          advance
          let id ← addMapping p
          let inner ← enter room
          setBody id (.mapping (← readBlockEntries inner fuel []))
        else if p.anchor.isSome || p.tag.isSome then addEmpty p
        else refuse
termination_by structural fuel

/-- A node, or an empty one where a token shows that none is written. -/
def readNodeUnless (ends : List Token) (room fuel : Nat) (place : Place) : Reader Nat :=
  match fuel with
  | 0 => refuse
  | fuel + 1 => do
    if ends.contains (← peek) then addEmpty .none else readNode room fuel place
termination_by structural fuel

def readBlockItems (room fuel : Nat) (acc : List Nat) : Reader (List Nat) :=
  match fuel with
  | 0 => refuse
  | fuel + 1 => do
    if ← accept .blockEntry then
      let id ← readNodeUnless [.blockEntry, .blockEnd] room fuel .block
      readBlockItems room fuel (id :: acc)
    else
      expect .blockEnd
      return acc.reverse
termination_by structural fuel

/-- The items of a sequence that is not indented; anything but another item ends it. -/
def readLooseItems (room fuel : Nat) (acc : List Nat) : Reader (List Nat) :=
  match fuel with
  | 0 => refuse
  | fuel + 1 => do
    if ← accept .blockEntry then
      let id ← readNodeUnless [.blockEntry, .key, .value, .blockEnd] room fuel .block
      readLooseItems room fuel (id :: acc)
    else return acc.reverse
termination_by structural fuel

def readBlockEntries (room fuel : Nat) (acc : List (Nat × Nat)) : Reader (List (Nat × Nat)) :=
  match fuel with
  | 0 => refuse
  | fuel + 1 => do
    if ← accept .key then
      let key ← readNodeUnless [.key, .value, .blockEnd] room fuel .blockEntry
      let value ← readValue [.key, .value, .blockEnd] room fuel .blockEntry
      readBlockEntries room fuel ((key, value) :: acc)
    else
      expect .blockEnd
      return acc.reverse
termination_by structural fuel

/-- The value of an entry, an empty one where none is written. -/
def readValue (ends : List Token) (room fuel : Nat) (place : Place) : Reader Nat :=
  match fuel with
  | 0 => refuse
  | fuel + 1 => do
    if ← accept .value then readNodeUnless ends room fuel place else addEmpty .none
termination_by structural fuel

def readFlowItems (room fuel : Nat) (first : Bool) (acc : List Nat) : Reader (List Nat) :=
  match fuel with
  | 0 => refuse
  | fuel + 1 => do
    if ← accept .flowSequenceEnd then return acc.reverse
    else
      if !first then expect .flowEntry
      if ← accept .flowSequenceEnd then return acc.reverse
      else if ← accept .key then
        let id ← addMapping .none
        let inner ← enter room
        let key ← readNodeUnless [.value, .flowEntry, .flowSequenceEnd] inner fuel .flow
        let value ← readValue [.flowEntry, .flowSequenceEnd] inner fuel .flow
        let id ← setBody id (.mapping [(key, value)])
        readFlowItems room fuel false (id :: acc)
      else
        let id ← readNode room fuel .flow
        readFlowItems room fuel false (id :: acc)
termination_by structural fuel

def readFlowEntries (room fuel : Nat) (first : Bool) (acc : List (Nat × Nat)) :
    Reader (List (Nat × Nat)) :=
  match fuel with
  | 0 => refuse
  | fuel + 1 => do
    if ← accept .flowMappingEnd then return acc.reverse
    else
      if !first then expect .flowEntry
      if ← accept .flowMappingEnd then return acc.reverse
      else if ← accept .key then
        let key ← readNodeUnless [.value, .flowEntry, .flowMappingEnd] room fuel .flow
        let value ← readValue [.flowEntry, .flowMappingEnd] room fuel .flow
        readFlowEntries room fuel false ((key, value) :: acc)
      else
        let key ← readNode room fuel .flow
        let value ← addEmpty .none
        readFlowEntries room fuel false ((key, value) :: acc)
termination_by structural fuel

end

-- ---------------------------------------------------------------------------
-- Documents
-- ---------------------------------------------------------------------------

def skipDocumentEnds (fuel : Nat) : Reader Unit :=
  match fuel with
  | 0 => refuse
  | fuel + 1 => do
    if ← accept .documentEnd then skipDocumentEnds fuel

/-- The content after a mark of the document's start; nothing written is an empty node. -/
def readContent (room fuel : Nat) : Reader Nat := do
  match ← peek with
  | .directive _ => addEmpty .none
  | .documentStart => addEmpty .none
  | .documentEnd => addEmpty .none
  | .streamEnd => addEmpty .none
  | _ => readNode room fuel .block

def readDirectedDocument (room fuel : Nat) : Reader Nat := do
  readDirectives fuel false []
  expect .documentStart
  readContent room fuel

def readRoot (room fuel : Nat) : Reader (Option Nat) := do
  match ← peek with
  | .streamEnd => return none
  | .directive _ => return some (← readDirectedDocument room fuel)
  | .documentStart => return some (← readDirectedDocument room fuel)
  | _ => return some (← readNode room fuel .block)

/-- After the document nothing but ends of documents may follow. -/
def readEnd (fuel : Nat) : Reader Unit := do
  skipDocumentEnds fuel
  if (← peek) ≠ .streamEnd then
    readDirectives fuel false []
    refuse

/-- The graph of a document, with so much room for collections inside one another; none if there is
no document at all. Between two tokens that are taken at most three steps go by, so three times
their number is fuel enough. -/
def ofTokens (room : Nat) (tokens : List Token) : Except Fault (Option Graph) := do
  let fuel := 3 * tokens.length + 8
  let read : Reader (Option Nat) := do
    let root ← readRoot room fuel
    readEnd fuel
    return root
  let (root, reading) ← read.run ⟨tokens, #[], [], commonHandles⟩
  return root.map fun id => ⟨reading.nodes, id⟩

end Graph

end DataShape.Yaml
