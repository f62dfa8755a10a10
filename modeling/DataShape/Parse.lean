-- SUMMARY: Decoding JSON text and checking the value against a shape in one step.
import DataShape.Json.Read
import DataShape.Shape.Conforms

/-!
# Validating parse

Text that is no JSON is a fault, whatever the shape; a value that does not
conform is none, and gives absence.
-/

namespace DataShape

inductive ParseFault where
  /-- Neither a text nor bytes were handed in. -/
  | notText (fault : Json.NotText)
  | json (fault : Json.Fault)
  | raised (outcome : Raised)

namespace Json

/-- The value that a text or bytes decode to, with both ways to fail in one. -/
def decoded (host : Host) (source : Value) : Except ParseFault Value :=
  match decode host.decoding source with
  | .error f => .error (.notText f)
  | .ok (.error f) => .error (.json f)
  | .ok (.ok v) => .ok v

end Json

/-- The decoded value if it conforms to the shape, absence if not. -/
def Shape.parse (host : Host) (s : Shape) (source : Value) : Except ParseFault Value := do
  let v ← Json.decoded host source
  (s.validate host v).mapError .raised

end DataShape
