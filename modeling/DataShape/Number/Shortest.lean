-- SUMMARY: The fewest decimal digits that identify a binary64 number.
import DataShape.Number.Binary64

/-!
# Shortest decimals

The reals that round to a finite number form an interval around it. Among the
decimals in the interval, the ones with the fewest digits are sought, and of
these the nearest to the number, the even one of two. The search goes through
the decimal grids from coarse to fine and tests on each the two neighbours of
the number, in exact arithmetic.
-/

namespace DataShape

/-- The number `digits * 10 ^ exponent`. -/
structure Decimal where
  digits : Nat
  exponent : Int
  deriving DecidableEq, Repr

namespace Decimal

/-- Drops trailing zeros into the exponent, `fuel` of them at most. -/
def trim (fuel : Nat) (d : Decimal) : Decimal :=
  match fuel with
  | 0 => d
  | fuel + 1 =>
    if d.digits ≠ 0 ∧ d.digits % 10 = 0 then trim fuel ⟨d.digits / 10, d.exponent + 1⟩ else d

end Decimal

namespace Binary64

/-- A positive finite number `m * 2 ^ q`, with a mark for a lower neighbour at half the usual
distance. -/
structure Positive where
  m : Nat
  q : Int
  narrowBelow : Bool

namespace Positive

def ofFields (exponent : Fin 2047) (fraction : Fin fractionCount) : Positive where
  m := significand exponent fraction
  q := scale exponent
  narrowBelow := fraction.val = 0 && 1 < exponent.val

/-- Compares `a * 10 ^ i` with `n * 2 ^ j`. -/
def compareScaled (a : Nat) (i : Int) (n : Nat) (j : Int) : Ordering :=
  compare (a * Nat.pow 10 i.toNat * Nat.pow 2 (-j).toNat)
    (n * Nat.pow 2 j.toNat * Nat.pow 10 (-i).toNat)

/-- Whether a decimal lies among the reals that round to `x`; the ends do when the significand is
even. -/
def readsBack (x : Positive) (d : Decimal) : Bool :=
  let low := if x.narrowBelow then 4 * x.m - 1 else 4 * x.m - 2
  let high := 4 * x.m + 2
  let closed := x.m % 2 == 0
  let toLow := compareScaled d.digits d.exponent low (x.q - 2)
  let toHigh := compareScaled d.digits d.exponent high (x.q - 2)
  (toLow == .gt || (closed && toLow == .eq)) && (toHigh == .lt || (closed && toHigh == .eq))

/-- The value as a count of units `10 ^ exponent`, rounded down. -/
def floorOn (x : Positive) (exponent : Int) : Nat :=
  x.m * Nat.pow 2 x.q.toNat * Nat.pow 10 (-exponent).toNat
    / (Nat.pow 2 (-x.q).toNat * Nat.pow 10 exponent.toNat)

/-- The least `k` with `x < 10 ^ k`, stepping up from an estimate below it. -/
def magnitudeFrom (x : Positive) (fuel : Nat) (k : Int) : Int :=
  match fuel with
  | 0 => k
  | fuel + 1 => if compareScaled 1 k x.m x.q == .gt then k else magnitudeFrom x fuel (k + 1)

def decimalMagnitude (x : Positive) : Int :=
  let bits : Int := x.m.log2 + x.q
  magnitudeFrom x 8 (bits * 30103 / 100000 - 2)

/-- Of the two neighbours on a grid, the one to take, if one of them reads back. -/
def onGrid? (x : Positive) (exponent : Int) : Option Decimal :=
  let n := x.floorOn exponent
  let below : Decimal := ⟨n, exponent⟩
  let above : Decimal := ⟨n + 1, exponent⟩
  match x.readsBack below && n != 0, x.readsBack above with
  | false, false => none
  | true, false => some below
  | false, true => some above
  | true, true =>
    match compareScaled (2 * n + 1) exponent (2 * x.m) x.q with
    | .gt => some below
    | .lt => some above
    | .eq => some (if n % 2 = 0 then below else above)

/-- The exact value as a decimal. -/
def exactDecimal (x : Positive) : Decimal :=
  ⟨x.m * Nat.pow 2 x.q.toNat * Nat.pow 5 (-x.q).toNat, min x.q 0⟩

def shortest (x : Positive) : Decimal :=
  let k := x.decimalMagnitude
  let found := (List.range 17).findSome? fun i => x.onGrid? (k - (i + 1 : Nat))
  (found.getD x.exactDecimal).trim 800

end Positive

end Binary64

end DataShape
