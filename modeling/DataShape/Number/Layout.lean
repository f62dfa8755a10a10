-- SUMMARY: How a binary64 number is laid out as text, as one record of decisions.
import DataShape.Number.Shortest
import DataShape.Text.Basic

/-!
# Number layouts

A layout fixes everything about the text of a number but its digits: which
exponents of the leading digit are written positionally, whether a lone digit
before an exponent gets a point, and the texts of the special numbers.
-/

namespace DataShape

structure NumberLayout where
  /-- The least exponent of a leading digit that is written positionally. -/
  plainFrom : Int
  /-- The least exponent from there on that is no longer written positionally. -/
  plainBelow : Int
  /-- Whether `1e+16` is written `1.0e+16`. -/
  pointBeforeExponent : Bool
  nan : String
  infinity : String
  negativeInfinity : String

namespace NumberLayout

/-- A sign and at least two digits. -/
def exponentText (e : Int) : Text :=
  "e" ++ (if e < 0 then "-" else "+") ++ Text.decimal 2 e.natAbs

/-- The text of the digits `s` with the leading one at the exponent `e`. -/
def place (layout : NumberLayout) (s : Text) (e : Int) : Text :=
  if layout.plainFrom ≤ e ∧ e < layout.plainBelow then
    if e < 0 then "0." ++ Text.fill '0' (-e - 1).toNat ++ s
    else
      let whole := e.toNat + 1
      if s.length ≤ whole then s ++ Text.fill '0' (whole - s.length) ++ ".0"
      else s.take whole ++ "." ++ s.drop whole
  else
    match s with
    | [c] => c :: (if layout.pointBeforeExponent then ".0" else "") ++ exponentText e
    | s => s.take 1 ++ "." ++ s.drop 1 ++ exponentText e

def render (layout : NumberLayout) : Binary64 → Text
  | .nan _ => layout.nan
  | .infinity s => if s then layout.negativeInfinity else layout.infinity
  | .finite s e f =>
    let sign : Text := if s then "-" else ""
    if Binary64.significand e f = 0 then sign ++ "0.0"
    else
      let d := (Binary64.Positive.ofFields e f).shortest
      let digits := Text.ofNat d.digits
      sign ++ layout.place digits (d.exponent + digits.length - 1)

end NumberLayout

end DataShape
