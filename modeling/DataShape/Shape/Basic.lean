-- SUMMARY: Shapes: the schema of a value as a tree, acceptance of absence, height.
import DataShape.Value.Equal

/-!
# Shapes

A shape describes a set of values. Besides the ten forms of a shape proper, a
tree can hold a `foreign` value where a shape belongs, or a `sealed` shape: the
result of a builder, which stands for the shape inside it only at the top.
Nothing is checked when a shape is built.
-/

namespace DataShape

inductive Shape where
  | null
  | boolean
  | number
  | string
  /-- Exactly the values equal to this one. -/
  | literal (value : Value)
  /-- An absent field, or a value of the element. -/
  | optional (element : Shape)
  | array (element : Shape)
  | tuple (elements : List Shape)
  | union (members : List Shape)
  /-- A record whose declared fields have these shapes. -/
  | object (fields : List (Value × Shape))
  | foreign (value : Value)
  | sealed (content : Shape)

instance : Inhabited Shape := ⟨.null⟩

namespace Shape

/-- Whether this is one of the ten forms of a shape proper. -/
def isNode : Shape → Bool
  | .foreign _ => false
  | .sealed _ => false
  | _ => true

-- ---------------------------------------------------------------------------
-- Acceptance of absence
-- ---------------------------------------------------------------------------

mutual

/-- Whether an absent field satisfies the shape, read off its form. -/
def acceptsAbsent : Shape → Bool
  | .optional _ => true
  | .union members => anyAcceptsAbsent members
  | _ => false
termination_by structural s => s

def anyAcceptsAbsent : List Shape → Bool
  | [] => false
  | s :: rest => acceptsAbsent s || anyAcceptsAbsent rest
termination_by structural ss => ss

end

-- ---------------------------------------------------------------------------
-- Height
-- ---------------------------------------------------------------------------

mutual

/-- One for a shape without parts, and one more than the highest part otherwise. -/
def height : Shape → Nat
  | .optional e => height e + 1
  | .array e => height e + 1
  | .tuple es => heightList es + 1
  | .union es => heightList es + 1
  | .object fs => heightFields fs + 1
  | .sealed s => height s + 1
  | _ => 1
termination_by structural s => s

def heightList : List Shape → Nat
  | [] => 0
  | s :: rest => max (height s) (heightList rest)
termination_by structural ss => ss

def heightFields : List (Value × Shape) → Nat
  | [] => 0
  | (_, s) :: rest => max (height s) (heightFields rest)
termination_by structural fs => fs

end

end Shape

end DataShape
