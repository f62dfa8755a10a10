-- SUMMARY: Binary64 numbers by their fields: exact value, rounding of a quotient to nearest, sums and products.

/-!
# Binary64 numbers

A number is given by the fields of the interchange format, so each number has
one representation and equality of representations is decidable. Arithmetic is
exact on the dyadic values and rounds once, to nearest with ties to even.

What is not a number has no value to tell two of its kind apart, but containers
hold such things as objects: the same one is met again, or another. So it comes
with its identity.
-/

namespace DataShape

/-- The number of fractions, two to the power of 52. -/
abbrev fractionCount : Nat := 4503599627370496

/-- Which object something is that is not a number. -/
inductive NotANumber where
  /-- The one that the word for it stands for wherever a YAML text is read. -/
  | word
  /-- One that was made on its own. -/
  | made (id : Nat)
  deriving DecidableEq, Repr

inductive Binary64 where
  | nan (which : NotANumber)
  | infinity (negative : Bool)
  | finite (negative : Bool) (exponent : Fin 2047) (fraction : Fin fractionCount)
  deriving DecidableEq, Repr

/-- The point of the extended number line that a number denotes, or what it is instead. -/
inductive Magnitude where
  | undefined (which : NotANumber)
  | infinity (negative : Bool)
  | exact (value : Dyadic)
  deriving DecidableEq

namespace Magnitude

def ofInt (n : Int) : Magnitude := .exact (Dyadic.ofInt n)

end Magnitude

namespace Binary64

-- ---------------------------------------------------------------------------
-- Decoding
-- ---------------------------------------------------------------------------

/-- The integer significand of the fields of a finite number. -/
def significand (exponent : Fin 2047) (fraction : Fin fractionCount) : Nat :=
  if exponent.val = 0 then fraction.val else fractionCount + fraction.val

/-- The power of two that scales the significand. -/
def scale (exponent : Fin 2047) : Int := max exponent.val 1 - 1075

def signed (negative : Bool) (n : Nat) : Int := if negative then -n else n

def magnitude : Binary64 → Magnitude
  | .nan which => .undefined which
  | .infinity s => .infinity s
  | .finite s e f => .exact (Dyadic.ofIntWithPrec (signed s (significand e f)) (-scale e))

def isNegative : Binary64 → Bool
  | .nan _ => false
  | .infinity s => s
  | .finite s _ _ => s

def isNaN : Binary64 → Bool
  | .nan _ => true
  | _ => false

/-- A result that is not a number, before it is known as an object of its own. -/
def newNaN : Binary64 := .nan (.made 0)

/-- The number itself; what is not a number and was made here becomes the object with this identity.
-/
def identified (id : Nat) : Binary64 → Binary64
  | .nan (.made _) => .nan (.made id)
  | x => x

-- ---------------------------------------------------------------------------
-- Rounding
-- ---------------------------------------------------------------------------

def zero (negative : Bool) : Binary64 := .finite negative 0 0

/-- The number with significand `m ≤ 2 ^ 53` and scale `q ≥ -1074`; past the largest one it is
infinite. -/
def ofSignificand (negative : Bool) (m : Nat) (q : Int) : Binary64 :=
  let (m, q) := if m = 2 * fractionCount then (fractionCount, q + 1) else (m, q)
  let e := if m < fractionCount then 0 else (q + 1075).toNat
  if h : e < 2047 then .finite negative ⟨e, h⟩ (Fin.ofNat fractionCount m) else .infinity negative

/-- The integer nearest to a quotient, the even one of two. -/
def divideToEven (num den : Nat) : Nat :=
  let q := num / den
  let r := num % den
  if 2 * r < den then q
  else if den < 2 * r then q + 1
  else if q % 2 = 0 then q else q + 1

/-- The number nearest to `num / den`, the one with an even significand of two. -/
def ofQuotient (negative : Bool) (num den : Nat) : Binary64 :=
  if num = 0 then zero negative
  else
    let q₀ : Int := (num.log2 : Int) - den.log2 - 53
    let isTooFine : Bool :=
      den * (2 * fractionCount) * Nat.pow 2 q₀.toNat ≤ num * Nat.pow 2 (-q₀).toNat
    let q₁ := if isTooFine then q₀ + 1 else q₀
    let q := max q₁ (-1074)
    ofSignificand negative (divideToEven (num * Nat.pow 2 (-q).toNat) (den * Nat.pow 2 q.toNat)) q

def ofDyadic (negativeZero : Bool) : Dyadic → Binary64
  | .zero => zero negativeZero
  | .ofOdd n k _ => ofQuotient (n < 0) (n.natAbs * Nat.pow 2 (-k).toNat) (Nat.pow 2 k.toNat)

/-- The number of decimal digits of `n`, counted up to `fuel`. -/
def digitCount (fuel n : Nat) : Nat :=
  match fuel with
  | 0 => 0
  | fuel + 1 => if n < 10 then 1 else digitCount fuel (n / 10) + 1

/-- The number nearest to `digits * 10 ^ exponent`. Far outside the range no power is computed. -/
def ofDecimal (negative : Bool) (digits : Nat) (exponent : Int) : Binary64 :=
  let places : Int := digitCount (digits.log2 + 1) digits + exponent
  if digits = 0 then zero negative
  else if places > 310 then .infinity negative
  else if places < -330 then zero negative
  else ofQuotient negative (digits * Nat.pow 10 exponent.toNat) (Nat.pow 10 (-exponent).toNat)

-- ---------------------------------------------------------------------------
-- Arithmetic
-- ---------------------------------------------------------------------------

/-- The nearest number to an integer; none when that is beyond the finite ones. -/
def ofInt? (n : Int) : Option Binary64 :=
  match ofQuotient (n < 0) n.natAbs 1 with
  | .infinity _ => none
  | x => some x

def neg : Binary64 → Binary64
  | .nan which => .nan which
  | .infinity s => .infinity !s
  | .finite s e f => .finite (!s) e f

/-- A sum of opposite numbers is the positive zero. -/
def add (x y : Binary64) : Binary64 :=
  match x.magnitude, y.magnitude with
  | .exact a, .exact b => ofDyadic (x.isNegative && y.isNegative) (a + b)
  | .infinity s, .infinity t => if s = t then .infinity s else newNaN
  | .infinity s, .exact _ => .infinity s
  | .exact _, .infinity t => .infinity t
  | _, _ => newNaN

def mul (x y : Binary64) : Binary64 :=
  let negative := x.isNegative != y.isNegative
  match x.magnitude, y.magnitude with
  | .exact a, .exact b => ofDyadic negative (a * b)
  | .infinity _, .infinity _ => .infinity negative
  | .infinity _, .exact b => if b = .zero then newNaN else .infinity negative
  | .exact a, .infinity _ => if a = .zero then newNaN else .infinity negative
  | _, _ => newNaN

end Binary64

end DataShape
