-- SUMMARY: Builders of sealed shapes out of sealed shapes.
import DataShape.Shape.Basic

/-!
# Builders

A builder takes sealed shapes and returns one. Arities are not checked, and a
literal may hold any value. What is handed in as a part has to be sealed.
-/

namespace DataShape.Shape.Builder

/-- A part that was handed in is no sealed shape. -/
inductive Fault where
  | notSealed
  deriving DecidableEq, Repr

def part : Shape → Except Fault Shape
  | .sealed s => .ok s
  | _ => .error .notSealed

def null : Shape := .sealed .null

def boolean : Shape := .sealed .boolean

def number : Shape := .sealed .number

def string : Shape := .sealed .string

def literal (value : Value) : Shape := .sealed (.literal value)

def optional (element : Shape) : Except Fault Shape :=
  (part element).map fun s => .sealed (.optional s)

def array (element : Shape) : Except Fault Shape :=
  (part element).map fun s => .sealed (.array s)

def tuple (elements : List Shape) : Except Fault Shape :=
  (elements.mapM part).map fun ss => .sealed (.tuple ss)

def union (members : List Shape) : Except Fault Shape :=
  (members.mapM part).map fun ss => .sealed (.union ss)

/-- Fields from a mapping and fields by name; a name wins over the same key of the mapping, in its
place. -/
def object (fields : List (Value × Shape)) (named : List (Text × Shape)) : Except Fault Shape :=
  let merged := Value.ofEntries (fields ++ named.map fun f => (.str f.1, f.2))
  (merged.mapM fun f => (part f.2).map fun s => (f.1, s)).map fun fs => .sealed (.object fs)

end DataShape.Shape.Builder
