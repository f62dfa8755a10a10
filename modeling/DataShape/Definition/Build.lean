-- SUMMARY: Building a shape from a definition document, strictly and within a depth limit.
import DataShape.Value.Plain

/-!
# Building from definitions

A definition is null or one of four words for a primitive shape, or a mapping
whose only key is a tag. Every problem is located by a pointer into the
document. Depth counts definitions, from one at the root; the payload of a
literal is data and has no depth.
-/

namespace DataShape.Definition

mutual

def build (limit : Int) (document : Value) (path : Pointer) (depth : Nat) : Except SchemaFault Shape :=
  if limit < depth then .error ⟨.tooDeep limit, some path⟩
  else match document with
  | .null => .ok .null
  | .str name =>
    match Primitive.ofName? name with
    | some p => .ok p.shape
    | none => .error ⟨.unknownName name, some path⟩
  | .object _ [(key, payload)] =>
    let here := path.child key.display
    match Tag.ofKey? key with
    | some .literal => (payload.toPlain here).map .literal
    | some .optional => (build limit payload here (depth + 1)).map .optional
    | some .array => (build limit payload here (depth + 1)).map .array
    | some .tuple =>
      match payload with
      | .array _ [] => .error ⟨.emptyTuple, some here⟩
      | .array _ items => (buildList limit items here 0 (depth + 1)).map .tuple
      | v => .error ⟨.notAList .tuple v, some here⟩
    | some .union =>
      match payload with
      | .array _ [] => .error ⟨.smallUnion, some here⟩
      | .array _ [_] => .error ⟨.smallUnion, some here⟩
      | .array _ items => (buildList limit items here 0 (depth + 1)).map .union
      | v => .error ⟨.notAList .union v, some here⟩
    | some .object =>
      match payload with
      | .null => .ok (.object [])
      | .object _ fields => (buildFields limit fields here (depth + 1)).map .object
      | v => .error ⟨.fieldsNotMapping v, some here⟩
    | none => .error ⟨.unknownTag key, some path⟩
  | .object _ _ => .error ⟨.notOneKey, some path⟩
  | v => .error ⟨.notADefinition v, some path⟩
termination_by structural document

/-- The definitions from index `i` on. -/
def buildList (limit : Int) (documents : List Value) (path : Pointer) (i depth : Nat) :
    Except SchemaFault (List Shape) :=
  match documents with
  | [] => .ok []
  | document :: rest => do
    let shape ← build limit document (path.index i) depth
    let shapes ← buildList limit rest path (i + 1) depth
    return shape :: shapes
termination_by structural documents

def buildFields (limit : Int) (fields : List (Value × Value)) (path : Pointer) (depth : Nat) :
    Except SchemaFault (List (Value × Shape)) :=
  match fields with
  | [] => .ok []
  | (.str key, document) :: rest => do
    let shape ← build limit document (path.child key) depth
    let shapes ← buildFields limit rest path depth
    return (.str key, shape) :: shapes
  | (key, _) :: _ => .error ⟨.fieldNameNotText key, some path⟩
termination_by structural fields

end

/-- The sealed shape that a definition document describes. -/
def toShape (host : Host) (limit : Int) (document : Value) : Except Raised Shape :=
  raising host ((build limit document .root 1).map .sealed)

end DataShape.Definition
