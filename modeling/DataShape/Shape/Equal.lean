-- SUMMARY: Equality of shapes: the same form with equal parts, which are compared as the parts of values are.
import DataShape.Shape.Basic

/-!
# Equality of shapes

The order of fields does not count, that of members and elements does. A
sealed shape equals no other form. The value of a literal is a part of it, so
an object that is not a number makes equal literals wherever it stands.
-/

namespace DataShape.Shape

mutual

/-- Equality of the parts of shapes. -/
def same : Shape → Shape → Bool
  | .null, .null => true
  | .boolean, .boolean => true
  | .number, .number => true
  | .string, .string => true
  | .literal v, .literal w => v.looseEq w
  | .optional s, .optional t => same s t
  | .array s, .array t => same s t
  | .tuple ss, .tuple ts => sameList ss ts
  | .union ss, .union ts => sameList ss ts
  | .object fs, .object gs => fs.length = gs.length && sameFields fs gs
  | .foreign v, .foreign w => v.looseEq w
  | .sealed s, .sealed t => same s t
  | _, _ => false
termination_by structural s => s

def sameList : List Shape → List Shape → Bool
  | [], [] => true
  | s :: ss, t :: ts => same s t && sameList ss ts
  | _, _ => false
termination_by structural ss => ss

/-- Whether each field has an equal one under the same key on the right. -/
def sameFields : List (Value × Shape) → List (Value × Shape) → Bool
  | [], _ => true
  | (k, s) :: rest, gs =>
    (match Value.lookup k gs with
      | some t => same s t
      | none => false)
    && sameFields rest gs
termination_by structural fs => fs

end

/-- Equality of two shapes. Only a foreign value is not part of anything here. -/
def eq : Shape → Shape → Bool
  | .foreign v, .foreign w => v.eq w
  | s, t => same s t

end DataShape.Shape
