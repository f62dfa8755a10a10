-- SUMMARY: Which values and shapes can be hashed, and what stands in the way first.
import DataShape.Shape.Basic

/-!
# Hashability

Containers that can change cannot be hashed, and neither can literals and
objects among the shapes. A tuple, or a shape with parts, can be hashed if all
its parts can; they are tried in order.
-/

namespace DataShape

mutual

/-- The type of the first part of a value that cannot be hashed. -/
def Value.unhashable? : Value → Option String
  | .array .list items => some (Value.array .list items).typeName
  | .array .tuple items => Value.unhashableList? items
  | .object form entries => some (Value.object form entries).typeName
  | .set elements => some (Value.set elements).typeName
  | .bytes .growable data => some (Value.bytes .growable data).typeName
  | _ => none
termination_by structural v => v

def Value.unhashableList? : List Value → Option String
  | [] => none
  | v :: vs => (Value.unhashable? v).or (Value.unhashableList? vs)
termination_by structural vs => vs

end

mutual

/-- The type of the first part of a shape that cannot be hashed. -/
def Shape.unhashable? : Shape → Option String
  | .literal _ => some "LiteralType"
  | .object _ => some "ObjectType"
  | .optional s => Shape.unhashable? s
  | .array s => Shape.unhashable? s
  | .tuple ss => Shape.unhashableList? ss
  | .union ss => Shape.unhashableList? ss
  | .foreign v => v.unhashable?
  | .sealed s => Shape.unhashable? s
  | _ => none
termination_by structural s => s

def Shape.unhashableList? : List Shape → Option String
  | [] => none
  | s :: ss => (Shape.unhashable? s).or (Shape.unhashableList? ss)
termination_by structural ss => ss

end

def unhashableMessage (typeName : String) : Text :=
  "unhashable type: '" ++ typeName ++ "'"

end DataShape
