-- SUMMARY: Code points and texts: finite sequences of Unicode code points, lone surrogates included.

/-!
# Texts

A text is a list of code points. Lone surrogates are code points like any
other here: an escape in JSON text can name one, and a field name can hold
one. Core's `String` cannot, so it serves only for the fixed wording of
messages, which coerces to a text.
-/

namespace DataShape

-- ---------------------------------------------------------------------------
-- Code points
-- ---------------------------------------------------------------------------

abbrev CodePoint := Fin 0x110000

namespace CodePoint

def ofChar (c : Char) : CodePoint :=
  ⟨c.toNat, by
    have h := c.valid
    simp only [UInt32.isValidChar, Nat.isValidChar] at h
    show c.val.toNat < _
    omega⟩

instance : Coe Char CodePoint := ⟨ofChar⟩

/-- The code point with a number that is known to be in range. -/
def ofNat (n : Nat) : CodePoint := Fin.ofNat 0x110000 n

def ofNat? (n : Nat) : Option CodePoint :=
  if h : n < 0x110000 then some ⟨n, h⟩ else none

def isSurrogate (c : CodePoint) : Bool :=
  0xD800 ≤ c.val && c.val ≤ 0xDFFF

def isHighSurrogate (c : CodePoint) : Bool :=
  0xD800 ≤ c.val && c.val ≤ 0xDBFF

def isLowSurrogate (c : CodePoint) : Bool :=
  0xDC00 ≤ c.val && c.val ≤ 0xDFFF

/-- The character with this code point; a surrogate is no character. -/
def toChar? (c : CodePoint) : Option Char :=
  if h : c.val.isValidChar then some (Char.ofNatAux c.val h) else none

/-- The code point that a surrogate pair stands for. -/
def ofPair (high low : CodePoint) : CodePoint :=
  ofNat (0x10000 + (high.val - 0xD800) * 0x400 + (low.val - 0xDC00))

def isAsciiDigit (c : CodePoint) : Bool :=
  0x30 ≤ c.val && c.val ≤ 0x39

/-- The digit that a code point denotes in bases up to 36, letters of either case. -/
def digit? (c : CodePoint) : Option Nat :=
  if 0x30 ≤ c.val && c.val ≤ 0x39 then some (c.val - 0x30)
  else if 0x41 ≤ c.val && c.val ≤ 0x5A then some (c.val - 0x41 + 10)
  else if 0x61 ≤ c.val && c.val ≤ 0x7A then some (c.val - 0x61 + 10)
  else none

def hexDigit? (c : CodePoint) : Option Nat :=
  c.digit?.filter (· < 16)

def toAsciiLower (c : CodePoint) : CodePoint :=
  if 0x41 ≤ c.val && c.val ≤ 0x5A then c + 0x20 else c

def toAsciiUpper (c : CodePoint) : CodePoint :=
  if 0x61 ≤ c.val && c.val ≤ 0x7A then c - 0x20 else c

end CodePoint

-- ---------------------------------------------------------------------------
-- Texts
-- ---------------------------------------------------------------------------

abbrev Text := List CodePoint

namespace Text

def ofChars (cs : List Char) : Text := cs.map CodePoint.ofChar

def ofString (s : String) : Text := ofChars s.toList

instance : Coe String Text := ⟨ofString⟩

/-- The characters of a text; none when it holds a surrogate. -/
def toChars? (t : Text) : Option (List Char) := t.mapM CodePoint.toChar?

def ofNat (n : Nat) : Text := ofChars (Nat.toDigits 10 n)

def ofInt : Int → Text
  | .ofNat n => ofNat n
  | .negSucc n => (('-' : Char) : CodePoint) :: ofNat (n + 1)

/-- The text that repeats `c`. -/
def fill (c : CodePoint) (n : Nat) : Text := List.replicate n c

/-- The text without its occurrences of `c`. -/
def remove (c : CodePoint) (t : Text) : Text := t.filter (· ≠ c)

def padLeft (width : Nat) (c : CodePoint) (t : Text) : Text :=
  fill c (width - t.length) ++ t

/-- Hexadecimal digits in lower case, at least `width` of them. -/
def hex (width : Nat) (n : Nat) : Text :=
  padLeft width '0' (ofChars (Nat.toDigits 16 n))

/-- Decimal digits, at least `width` of them. -/
def decimal (width : Nat) (n : Nat) : Text :=
  padLeft width '0' (ofNat n)

def joinWith (separator : Text) : List Text → Text
  | [] => []
  | [t] => t
  | t :: ts => t ++ separator ++ joinWith separator ts

/-- The pieces between the occurrences of `c`; always one piece more than occurrences. -/
def splitAt (c : CodePoint) : Text → List Text
  | [] => [[]]
  | x :: xs =>
    match splitAt c xs with
    | [] => [[x]]
    | piece :: pieces => if x = c then [] :: piece :: pieces else (x :: piece) :: pieces

/-- The number that digits of a base spell, most significant first; none at a foreign digit. -/
def number? (base : Nat) (t : Text) : Option Nat :=
  t.foldlM (fun n c => (c.digit?.filter (· < base)).map (n * base + ·)) 0

end Text

end DataShape
