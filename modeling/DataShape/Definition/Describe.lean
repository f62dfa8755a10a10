-- SUMMARY: Describing a shape as a definition document.
import DataShape.Shape.Conforms
import DataShape.Value.Plain

/-!
# Describing shapes

The document of a shape is written as the shape is, also where a strict reader
would refuse it: empty tuples, unions of one member, keys that are no texts.
-/

namespace DataShape.Definition

/-- A mapping with one entry, under a tag. -/
def tagged (tag : Tag) (payload : Value) : Value :=
  .object .plain [(.str tag.name, payload)]

mutual

def describe (host : Host) : Shape → Pointer → Except SchemaFault Value
  | .null, _ => .ok (.str Primitive.null.name)
  | .boolean, _ => .ok (.str Primitive.boolean.name)
  | .number, _ => .ok (.str Primitive.number.name)
  | .string, _ => .ok (.str Primitive.string.name)
  | .literal v, path => (v.toPlain (path.child Tag.literal.name)).map (tagged .literal)
  | .optional s, path => (describe host s (path.child Tag.optional.name)).map (tagged .optional)
  | .array s, path => (describe host s (path.child Tag.array.name)).map (tagged .array)
  | .tuple ss, path =>
    (describeList host ss (path.child Tag.tuple.name) 0).map fun vs => tagged .tuple (.list vs)
  | .union ss, path =>
    (describeList host ss (path.child Tag.union.name) 0).map fun vs => tagged .union (.list vs)
  | .object fs, path =>
    (describeFields host fs (path.child Tag.object.name)).map fun es =>
      tagged .object (.object .plain es)
  | .foreign v, path => .error ⟨.unknownNode (.foreign v), some path⟩
  | .sealed s, path => .error ⟨.unknownNode (.sealed s), some path⟩
termination_by structural s => s

/-- The elements from index `i` on. -/
def describeList (host : Host) : List Shape → Pointer → Nat → Except SchemaFault (List Value)
  | [], _, _ => .ok []
  | s :: ss, path, i => do
    let v ← describe host s (path.index i)
    let vs ← describeList host ss path (i + 1)
    return v :: vs
termination_by structural ss => ss

def describeFields (host : Host) :
    List (Value × Shape) → Pointer → Except SchemaFault (List (Value × Value))
  | [], _ => .ok []
  | (key, s) :: fs, path => do
    let v ← describe host s (← path.entry host key)
    let es ← describeFields host fs path
    return (key, v) :: es
termination_by structural fs => fs

end

/-- The definition document of a shape. -/
def ofShape (host : Host) (s : Shape) : Except Raised Value :=
  raising host do describe host (← s.top) .root

end DataShape.Definition
