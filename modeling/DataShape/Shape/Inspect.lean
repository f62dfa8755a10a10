-- SUMMARY: Shapes as messages show them.
import DataShape.Shape.Basic
import DataShape.Value.Inspect

/-!
# Shapes in messages
-/

namespace DataShape.Shape

/-- The name of a form with its one named part. -/
def inspectNode (name part : String) (shown : Text) : Text :=
  name ++ "(" ++ part ++ "=" ++ shown ++ ")"

mutual

def inspect : Shape → Text
  | .null => "NullType()"
  | .boolean => "BooleanType()"
  | .number => "NumberType()"
  | .string => "StringType()"
  | .literal v => inspectNode "LiteralType" "value" v.inspect
  | .optional s => inspectNode "OptionalType" "element" (inspect s)
  | .array s => inspectNode "ArrayType" "element" (inspect s)
  | .tuple ss => inspectNode "TupleType" "elements" (Value.bracketed .tuple (inspectList ss))
  | .union ss => inspectNode "UnionType" "elements" (Value.bracketed .tuple (inspectList ss))
  | .object fs => inspectNode "ObjectType" "key_values" (Value.braced .readOnly (inspectFields fs))
  | .foreign v => v.inspect
  | .sealed s => inspectNode "Schema" "runtime_type" (inspect s)
termination_by structural s => s

def inspectList : List Shape → List Text
  | [] => []
  | s :: ss => inspect s :: inspectList ss
termination_by structural ss => ss

def inspectFields : List (Value × Shape) → List Text
  | [] => []
  | (k, s) :: rest => (k.inspect ++ ": " ++ inspect s) :: inspectFields rest
termination_by structural fs => fs

end

-- ---------------------------------------------------------------------------
-- What cannot be shown
-- ---------------------------------------------------------------------------

mutual

/-- What keeps a shape from being shown within `room` calls inside one another, the first thing met.
A node takes three calls, a tuple of parts one more, and a mapping of fields two more. -/
def showFault? : Shape → Nat → Option Value.ShowFault
  | .foreign v, room => v.showFault? room
  | .literal v, room + 3 => v.showFault? room
  | .optional s, room + 3 => showFault? s room
  | .array s, room + 3 => showFault? s room
  | .tuple ss, room + 4 => showFaultOfParts? ss room
  | .union ss, room + 4 => showFaultOfParts? ss room
  | .object fs, room + 5 => showFaultOfFields? fs room
  | .sealed s, room + 3 => showFault? s room
  | .null, _ + 3 => none
  | .boolean, _ + 3 => none
  | .number, _ + 3 => none
  | .string, _ + 3 => none
  | _, _ => some .tooDeep
termination_by structural s => s

def showFaultOfParts? : List Shape → Nat → Option Value.ShowFault
  | [], _ => none
  | s :: ss, room => (showFault? s room).or (showFaultOfParts? ss room)
termination_by structural ss => ss

def showFaultOfFields? : List (Value × Shape) → Nat → Option Value.ShowFault
  | [], _ => none
  | (k, s) :: fs, room =>
    ((k.showFault? room).or (showFault? s room)).or (showFaultOfFields? fs room)
termination_by structural fs => fs

end

end DataShape.Shape
