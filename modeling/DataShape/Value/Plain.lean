-- SUMMARY: The plain form of a value: lists for sequences, plain objects with text keys for mappings.
import DataShape.SchemaFault

/-!
# Plain values

A plain value is what JSON can write: scalars of a JSON kind, lists, and plain
objects whose keys are texts. The conversion keeps lengths, keys and order, and
fails at the first place without a plain form.
-/

namespace DataShape.Value

mutual

def toPlain : Value → Pointer → Except SchemaFault Value
  | .array _ items, path => (toPlainList items path 0).map (.array .list)
  | .object _ entries, path => (toPlainEntries entries path).map (.object .plain)
  | v, path => if v.kind?.isSome then .ok v else .error ⟨.noJsonForm v, some path⟩
termination_by structural v => v

/-- The items from index `i` on. -/
def toPlainList : List Value → Pointer → Nat → Except SchemaFault (List Value)
  | [], _, _ => .ok []
  | v :: vs, path, i => do
    let w ← toPlain v (path.index i)
    let ws ← toPlainList vs path (i + 1)
    return w :: ws
termination_by structural vs => vs

def toPlainEntries : List (Value × Value) → Pointer → Except SchemaFault (List (Value × Value))
  | [], _ => .ok []
  | (.str key, v) :: rest, path => do
    let w ← toPlain v (path.child key)
    let ws ← toPlainEntries rest path
    return (.str key, w) :: ws
  | (key, _) :: _, path => .error ⟨.keyNotText key, some path⟩
termination_by structural es => es

end

/-- The plain form of a value, with its fault as it is raised. -/
def toJson (host : Host) (v : Value) (path : Pointer) : Except Raised Value :=
  raising host (v.toPlain path)

end DataShape.Value
