-- SUMMARY: Bytes as base-64 text: strict writing, lenient reading.
import DataShape.Text.Basic

/-!
# Base-64 texts

Four digits of six bits spell three bytes. Code points that are no digits are
passed over; padding that completes a group ends the text, and a group that is
left incomplete without it is a fault. The text has to be ASCII. Writing pads
the last group, and breaks lines where that is asked for.
-/

namespace DataShape.Text.Base64

def digit? (c : CodePoint) : Option Nat :=
  if 0x41 ≤ c.val && c.val ≤ 0x5A then some (c.val - 0x41)
  else if 0x61 ≤ c.val && c.val ≤ 0x7A then some (c.val - 0x61 + 26)
  else if c.isAsciiDigit then some (c.val - 0x30 + 52)
  else if c = '+' then some 62
  else if c = '/' then some 63
  else none

/-- The digits up to the padding that ends the text, and whether there was such padding. `place`
digits of a group are read, and `pads` padding marks since the last of them. -/
def digits (place pads : Nat) : Text → List Nat × Bool
  | [] => ([], false)
  | c :: rest =>
    if c = '=' then
      if place < 2 then digits place pads rest
      else if 4 ≤ place + pads + 1 then ([], true)
      else digits place (pads + 1) rest
    else match digit? c with
      | none => digits place pads rest
      | some d =>
        let (ds, closed) := digits ((place + 1) % 4) 0 rest
        (d :: ds, closed)

def bytes : List Nat → List UInt8
  | a :: b :: c :: d :: rest =>
    UInt8.ofNat (a * 4 + b / 16) :: UInt8.ofNat (b % 16 * 16 + c / 4) :: UInt8.ofNat (c % 4 * 64 + d)
      :: bytes rest
  | [a, b, c] => [UInt8.ofNat (a * 4 + b / 16), UInt8.ofNat (b % 16 * 16 + c / 4)]
  | [a, b] => [UInt8.ofNat (a * 4 + b / 16)]
  | _ => []

/-- The bytes that a text spells. -/
def decode? (t : Text) : Option (List UInt8) :=
  if t.any fun c => 0x80 ≤ c.val then none
  else
    let (ds, closed) := digits 0 0 t
    if closed || ds.length % 4 = 0 then some (bytes ds) else none

-- ---------------------------------------------------------------------------
-- Writing
-- ---------------------------------------------------------------------------

def digit (n : Nat) : CodePoint :=
  if n < 26 then CodePoint.ofNat (0x41 + n)
  else if n < 52 then CodePoint.ofNat (0x61 + (n - 26))
  else if n < 62 then CodePoint.ofNat (0x30 + (n - 52))
  else if n = 62 then '+'
  else '/'

def encode : List UInt8 → Text
  | a :: b :: c :: rest =>
    let n := (a.toNat * 256 + b.toNat) * 256 + c.toNat
    digit (n / 262144) :: digit (n / 4096 % 64) :: digit (n / 64 % 64) :: digit (n % 64)
      :: encode rest
  | [a, b] =>
    let n := (a.toNat * 256 + b.toNat) * 4
    [digit (n / 4096), digit (n / 64 % 64), digit (n % 64), '=']
  | [a] =>
    let n := a.toNat * 16
    [digit (n / 64), digit (n % 64), '=', '=']
  | [] => []

/-- Lines of 76 digits, the last one shorter. The text has at most `fuel` of them. -/
def lines (fuel : Nat) (t : Text) : List Text :=
  match fuel with
  | 0 => []
  | fuel + 1 => if t.isEmpty then [] else t.take 76 :: lines fuel (t.drop 76)

def encodeLines (data : List UInt8) : List Text :=
  let t := encode data
  lines (t.length + 1) t

end DataShape.Text.Base64
