-- SUMMARY: Numerals: texts that spell an integer in some base, or a decimal number.
import DataShape.Number.Binary64
import DataShape.Text.Blank
import DataShape.Text.DecimalDigit

/-!
# Numerals

An integer numeral has an optional sign, an optional mark of its base, and
digits with single underscores between them; blanks may surround it. Digits of
all scripts count as decimal digits. A numeral that spells no number is
malformed; one with more than `digitLimit` digits is refused, unless its base
is a power of two.
-/

namespace DataShape.Numeral

def digitLimit : Nat := 4300

def digitLimitRule : Text :=
  "Exceeds the limit (" ++ Text.ofNat digitLimit ++ " digits) for integer string conversion"

def digitLimitAdvice : Text := "; use sys.set_int_max_str_digits() to increase the limit"

/-- The refusal to read an integer with too many digits. -/
def digitLimitMessage (count : Nat) : Text :=
  digitLimitRule ++ ": value has " ++ Text.ofNat count ++ " digits" ++ digitLimitAdvice

/-- The refusal to write an integer with too many digits. -/
def unwritableMessage : Text := digitLimitRule ++ digitLimitAdvice

/-- Whether an integer has few enough digits to be written. -/
def isWritable (n : Int) : Bool := n.natAbs < Nat.pow 10 digitLimit

-- ---------------------------------------------------------------------------
-- Folding to ASCII
-- ---------------------------------------------------------------------------

/-- ASCII stays; other blanks become spaces, digits of other scripts ASCII digits, and the rest
foreign. -/
def foldCodePoint (c : CodePoint) : CodePoint :=
  if c.val < 127 then c
  else if c.isBlank then ' '
  else match c.decimalDigit? with
    | some d => CodePoint.ofNat (0x30 + d)
    | none => '?'

def fold (t : Text) : Text := t.map foldCodePoint

/-- The space and the controls from the tab to the carriage return. -/
def isSpace (c : CodePoint) : Bool :=
  c.val = 0x20 || (0x09 ≤ c.val && c.val ≤ 0x0D)

def trim (t : Text) : Text :=
  ((t.dropWhile isSpace).reverse.dropWhile isSpace).reverse

/-- Whether a sign is negative, and what follows it. -/
def sign : Text → Bool × Text
  | c :: rest =>
    if c = '-' then (true, rest) else if c = '+' then (false, rest) else (false, c :: rest)
  | [] => (false, [])

-- ---------------------------------------------------------------------------
-- Integers
-- ---------------------------------------------------------------------------

inductive IntegerFault where
  | malformed
  | tooManyDigits (count : Nat)
  deriving DecidableEq, Repr

/-- The letter that marks a base after a leading zero. -/
def baseMark? : Nat → Option CodePoint
  | 2 => some 'b'
  | 8 => some 'o'
  | 16 => some 'x'
  | _ => none

/-- Drops the mark of the base, and one underscore after it. -/
def dropBaseMark (base : Nat) : Text → Text
  | z :: m :: rest =>
    if z = '0' ∧ baseMark? base = some m.toAsciiLower then
      match rest with
      | c :: rest' => if c = '_' then rest' else rest
      | [] => []
    else z :: m :: rest
  | t => t

def isDigitOf (base : Nat) (c : CodePoint) : Bool :=
  (c.digit?.filter (· < base)).isSome

/-- No underscore at either end, and no two in a row. -/
def separatesDigits (run : Text) : Bool :=
  (Text.splitAt '_' run).all (!·.isEmpty)

def isPowerOfTwo (base : Nat) : Bool := base == 2 || base == 4 || base == 8 || base == 16 || base == 32

/-- The integer that a text spells in a base up to 36. -/
def integer (base : Nat) (t : Text) : Except IntegerFault Int :=
  let (negative, body) := sign ((fold t).dropWhile isSpace)
  let body := dropBaseMark base body
  let inRun (c : CodePoint) : Bool := isDigitOf base c || c = '_'
  let run := body.takeWhile inRun
  let rest := body.dropWhile inRun
  if !separatesDigits run then .error .malformed
  else
    let digits := Text.remove '_' run
    if digitLimit < digits.length && !isPowerOfTwo base then .error (.tooManyDigits digits.length)
    else if !rest.all isSpace then .error .malformed
    else match Text.number? base digits with
      | some n => .ok (if negative then -n else n)
      | none => .error .malformed

-- ---------------------------------------------------------------------------
-- Decimal numbers
-- ---------------------------------------------------------------------------

/-- A whole text of decimal digits, the empty one included, as a number. -/
def digits? (t : Text) : Option Nat :=
  if t.all CodePoint.isAsciiDigit then Text.number? 10 t else none

/-- The exponent after its mark: a sign and at least one digit. -/
def exponent? (t : Text) : Option Int :=
  let (negative, body) := sign t
  if body.isEmpty then none
  else (digits? body).map fun n => if negative then -(n : Int) else n

/-- Digits with at most one point among them and at least one digit, then perhaps an exponent. -/
def unsignedDecimal? (negative : Bool) (t : Text) : Option Binary64 :=
  let isMark (c : CodePoint) : Bool := c = 'e' || c = 'E'
  let mantissa := t.takeWhile (!isMark ·)
  let exponent := match t.dropWhile (!isMark ·) with
    | [] => some 0
    | _ :: rest => exponent? rest
  let (whole, fraction) := match Text.splitAt '.' mantissa with
    | [w] => (w, some [])
    | [w, f] => (w, some f)
    | _ => ([], none)
  match fraction, exponent with
  | some f, some e =>
    if (whole ++ f).isEmpty then none
    else (digits? (whole ++ f)).map fun n => Binary64.ofDecimal negative n (e - f.length)
  | _, _ => none

/-- The decimal number that a text spells, `inf`, `infinity` and `nan` in any case included. -/
def decimal? (t : Text) : Option Binary64 :=
  let (negative, body) := sign (trim (fold t))
  let lower := body.map CodePoint.toAsciiLower
  if lower = "inf" ∨ lower = "infinity" then some (.infinity negative)
  else if lower = "nan" then some .newNaN
  else unsignedDecimal? negative body

end DataShape.Numeral
