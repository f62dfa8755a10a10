-- SUMMARY: Whether a value conforms to a shape, walking both, with a foreign node as the only way to fail.
import DataShape.SchemaFault

/-!
# Conformance

The walk looks at items, elements, members and fields in order and stops at
the first that decides. A node that is no shape stops it with that node, but
only when the walk reaches it.
-/

namespace DataShape

/-- Whether all items pass a test that can fail; the first that does not pass, or fails, decides. -/
def allOrFail {ε α : Type} (test : α → Except ε Bool) : List α → Except ε Bool
  | [] => .ok true
  | a :: rest =>
    match test a with
    | .ok true => allOrFail test rest
    | .ok false => .ok false
    | .error e => .error e

namespace Shape

mutual

/-- Fails with the node that is no shape. -/
def conforms : Shape → Value → Except Shape Bool
  | .null, v => .ok (v.kind? = some .null)
  | .boolean, v => .ok (v.kind? = some .boolean)
  | .number, v => .ok v.isNumber
  | .string, v => .ok (v.kind? = some .string)
  | .literal x, v => .ok (v.jsonEq x)
  | .optional s, v =>
    match v with
    | .absent => .ok true
    | v => conforms s v
  | .array s, v =>
    match v with
    | .array _ items => allOrFail (conforms s) items
    | _ => .ok false
  | .tuple ss, v =>
    match v with
    | .array _ items => if items.length = ss.length then conformsEach ss items else .ok false
    | _ => .ok false
  | .union ss, v => conformsSome ss v
  | .object fs, v =>
    match v with
    | .object _ entries => conformsFields fs entries
    | _ => .ok false
  | .foreign x, _ => .error (.foreign x)
  | .sealed s, _ => .error (.sealed s)
termination_by structural s => s

/-- Position by position, as far as both lists go. -/
def conformsEach : List Shape → List Value → Except Shape Bool
  | s :: ss, v :: vs =>
    match conforms s v with
    | .ok true => conformsEach ss vs
    | .ok false => .ok false
    | .error e => .error e
  | _, _ => .ok true
termination_by structural ss => ss

def conformsSome : List Shape → Value → Except Shape Bool
  | [], _ => .ok false
  | s :: ss, v =>
    match conforms s v with
    | .ok false => conformsSome ss v
    | .ok true => .ok true
    | .error e => .error e
termination_by structural ss => ss

/-- Each declared field against the entry under its key, or against absence. -/
def conformsFields : List (Value × Shape) → List (Value × Value) → Except Shape Bool
  | [], _ => .ok true
  | (key, s) :: fs, entries =>
    match conforms s ((Value.lookup key entries).getD .absent) with
    | .ok true => conformsFields fs entries
    | .ok false => .ok false
    | .error e => .error e
termination_by structural fs => fs

end

/-- The shape to work on: the content of a sealed one, or a node as it is. -/
def top : Shape → Except SchemaFault Shape
  | .sealed s => .ok s
  | .foreign v => .error ⟨.notASchema v, none⟩
  | s => .ok s

/-- Whether a value conforms to a shape or a sealed one, with the fault that was found. -/
def check (s : Shape) (v : Value) : Except SchemaFault Bool := do
  let node ← s.top
  match node.conforms v with
  | .ok b => return b
  | .error bad => throw ⟨.unknownNode bad, none⟩

def isValid (host : Host) (s : Shape) (v : Value) : Except Raised Bool := raising host (s.check v)

/-- The value itself if it conforms, absence if not. -/
def validate (host : Host) (s : Shape) (v : Value) : Except Raised Value :=
  (s.isValid host v).map fun ok => if ok then v else .absent

end Shape

end DataShape
