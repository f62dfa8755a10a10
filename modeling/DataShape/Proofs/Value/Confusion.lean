-- SUMMARY: Loosely equal values are equal as JSON where no boolean stands against a number and none is not a number.
import DataShape.Proofs.Value.Reflexivity

/-!
# Booleans taken for numbers

Loose equality counts a boolean as a number, and JSON equality never does. What
is not a number is loosely equal to itself, and equals nothing as JSON. This is
all that loosely equal values can differ in as JSON: keys, and values that JSON
cannot write, are compared loosely by both.
-/

namespace DataShape.Value

mutual

/-- Whether a boolean stands somewhere in one value where the other has a number. -/
def confuses : Value → Value → Bool
  | .array _ vs, .array _ ws => confusesItems vs ws
  | .object _ es, .object _ fs => confusesEntries es fs
  | v, w => (v.kind? = some .boolean && w.isNumber) || (v.isNumber && w.kind? = some .boolean)
termination_by structural v => v

/-- Position by position, as far as both lists go. -/
def confusesItems : List Value → List Value → Bool
  | v :: vs, w :: ws => confuses v w || confusesItems vs ws
  | _, _ => false
termination_by structural vs => vs

/-- Each entry against what stands under its key on the right. -/
def confusesEntries : List (Value × Value) → List (Value × Value) → Bool
  | [], _ => false
  | (k, v) :: es, fs =>
    (match lookup k fs with
      | some w => confuses v w
      | none => false)
    || confusesEntries es fs
termination_by structural es => es

end

end DataShape.Value
