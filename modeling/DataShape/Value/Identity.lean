-- SUMMARY: Whether two values are one is decidable.
import DataShape.Value.Basic

/-!
# Identity of values

Both equalities of values pass over differences, so neither decides whether two
values are one. This check goes through both trees in step; with it, what a
document reads as can be computed and compared.
-/

namespace DataShape.Value

mutual

def isIdentical : Value → Value → Bool
  | .null, .null => true
  | .bool b, .bool c => b = c
  | .int m, .int n => m = n
  | .float x, .float y => x = y
  | .str s, .str t => s = t
  | .array form vs, .array form' ws => form = form' && areIdentical vs ws
  | .object form es, .object form' fs => form = form' && areIdenticalEntries es fs
  | .absent, .absent => true
  | .bytes form a, .bytes form' b => form = form' && a = b
  | .date d, .date e => d = e
  | .moment m, .moment n => m = n
  | .set vs, .set ws => areIdentical vs ws
  | .reference i, .reference j => i = j
  | _, _ => false
termination_by structural v => v

def areIdentical : List Value → List Value → Bool
  | [], [] => true
  | v :: vs, w :: ws => isIdentical v w && areIdentical vs ws
  | _, _ => false
termination_by structural vs => vs

def areIdenticalEntries : List (Value × Value) → List (Value × Value) → Bool
  | [], [] => true
  | (k, v) :: es, (l, w) :: fs => isIdentical k l && isIdentical v w && areIdenticalEntries es fs
  | _, _ => false
termination_by structural es => es

end

mutual

theorem isIdentical_iff (v w : Value) : isIdentical v w = true ↔ v = w := by
  cases v with
  | array form vs => cases w <;> simp [isIdentical, areIdentical_iff vs]
  | object form es => cases w <;> simp [isIdentical, areIdenticalEntries_iff es]
  | set vs => cases w <;> simp [isIdentical, areIdentical_iff vs]
  | _ => cases w <;> simp [isIdentical]
termination_by structural v

theorem areIdentical_iff (vs ws : List Value) : areIdentical vs ws = true ↔ vs = ws := by
  cases vs with
  | nil => cases ws <;> simp [areIdentical]
  | cons v vs => cases ws <;> simp [areIdentical, isIdentical_iff v, areIdentical_iff vs]
termination_by structural vs

theorem areIdenticalEntries_iff (es fs : List (Value × Value)) :
    areIdenticalEntries es fs = true ↔ es = fs := by
  cases es with
  | nil => cases fs <;> simp [areIdenticalEntries]
  | cons e es =>
    cases fs with
    | nil => simp [areIdenticalEntries]
    | cons f fs =>
      simp [areIdenticalEntries, isIdentical_iff e.1, isIdentical_iff e.2,
        areIdenticalEntries_iff es, Prod.ext_iff]
termination_by structural es

end

instance : DecidableEq Value := fun v w => decidable_of_iff _ (isIdentical_iff v w)

end DataShape.Value
