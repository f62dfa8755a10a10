-- SUMMARY: Decoding of bytes to texts: UTF-8, UTF-16 and UTF-32 with lone surrogates let through, and detection among them.
import DataShape.Text.Basic

/-!
# Encodings

A decoder takes one code point at a time off the bytes. A step that fails says
how many bytes are at fault and why. Encoded surrogates are accepted as code
points of their own, in every encoding.

The encoding of a JSON text shows in its first bytes: a byte order mark, or
the zeros that go with an ASCII character.
-/

namespace DataShape.Text

inductive ByteOrder where
  | big
  | little
  deriving DecidableEq, Repr

inductive Encoding where
  | utf8
  | utf16 (order : ByteOrder)
  | utf32 (order : ByteOrder)
  deriving DecidableEq, Repr

namespace Encoding

def name : Encoding → String
  | .utf8 => "utf-8"
  | .utf16 .big => "utf-16-be"
  | .utf16 .little => "utf-16-le"
  | .utf32 .big => "utf-32-be"
  | .utf32 .little => "utf-32-le"

inductive Reason where
  | invalidStart
  | invalidContinuation
  | unexpectedEnd
  | truncated
  | outOfRange
  deriving DecidableEq, Repr

def Reason.text : Reason → String
  | .invalidStart => "invalid start byte"
  | .invalidContinuation => "invalid continuation byte"
  | .unexpectedEnd => "unexpected end of data"
  | .truncated => "truncated data"
  | .outOfRange => "code point not in range(0x110000)"

/-- Bytes that could not be decoded: the first one, where it stands, and how many are at fault. -/
structure Fault where
  encoding : Encoding
  first : UInt8
  position : Nat
  count : Nat
  reason : Reason
  deriving DecidableEq, Repr

def Fault.message (f : Fault) : Text :=
  "'" ++ Text.ofString f.encoding.name ++ "' codec can't decode "
    ++ (if f.count = 1 then
          Text.ofString "byte 0x" ++ hex 2 f.first.toNat ++ " in position " ++ ofNat f.position
        else
          Text.ofString "bytes in position " ++ ofNat f.position ++ "-"
            ++ ofNat (f.position + f.count - 1))
    ++ ": " ++ Text.ofString f.reason.text

/-- A code point and the number of bytes it took, or the number of bytes at fault. -/
abbrev Step := Except (Nat × Reason) (CodePoint × Nat)

def codePoint (n : Nat) : CodePoint := CodePoint.ofNat n

-- ---------------------------------------------------------------------------
-- UTF-8
-- ---------------------------------------------------------------------------

/-- How many tail bytes follow a first byte, and the bounds of the next one. -/
def lead? (b : Nat) : Option (Nat × Nat × Nat) :=
  if b < 0x80 then some (0, 0x80, 0xBF)
  else if b < 0xC2 then none
  else if b < 0xE0 then some (1, 0x80, 0xBF)
  else if b = 0xE0 then some (2, 0xA0, 0xBF)
  else if b = 0xED then some (2, 0x80, 0x9F)
  else if b < 0xF0 then some (2, 0x80, 0xBF)
  else if b = 0xF0 then some (3, 0x90, 0xBF)
  else if b < 0xF4 then some (3, 0x80, 0xBF)
  else if b = 0xF4 then some (3, 0x80, 0x8F)
  else none

/-- Reads `owed` tail bytes into the bits so far, after `taken` bytes. -/
def tails (owed low high taken bits : Nat) (bytes : List UInt8) : Step :=
  match owed, bytes with
  | 0, _ => .ok (codePoint bits, taken)
  | _ + 1, [] => .error (taken, .unexpectedEnd)
  | owed + 1, b :: rest =>
    if low ≤ b.toNat ∧ b.toNat ≤ high then
      tails owed 0x80 0xBF (taken + 1) (bits * 64 + (b.toNat - 0x80)) rest
    else .error (taken, .invalidContinuation)

/-- The payload bits of a first byte with so many tails. -/
def leadBits (b owed : Nat) : Nat :=
  match owed with
  | 0 => b
  | 1 => b - 0xC0
  | 2 => b - 0xE0
  | _ => b - 0xF0

/-- A surrogate in three bytes. -/
def encodedSurrogate? : List UInt8 → Option CodePoint
  | a :: b :: c :: _ =>
    if a.toNat = 0xED ∧ 0xA0 ≤ b.toNat ∧ b.toNat ≤ 0xBF
        ∧ 0x80 ≤ c.toNat ∧ c.toNat ≤ 0xBF then
      some (codePoint (0xD000 + (b.toNat - 0x80) * 64 + (c.toNat - 0x80)))
    else none
  | _ => none

def stepUtf8 (first : UInt8) (rest : List UInt8) : Step :=
  match encodedSurrogate? (first :: rest) with
  | some c => .ok (c, 3)
  | none =>
    match lead? first.toNat with
    | none => .error (1, .invalidStart)
    | some (owed, low, high) => tails owed low high 1 (leadBits first.toNat owed) rest

-- ---------------------------------------------------------------------------
-- UTF-16 and UTF-32
-- ---------------------------------------------------------------------------

/-- The number that bytes in an order stand for. -/
def unit (order : ByteOrder) (bytes : List UInt8) : Nat :=
  let bigEndian := match order with
    | .big => bytes
    | .little => bytes.reverse
  bigEndian.foldl (fun n b => n * 256 + b.toNat) 0

def stepUtf16 (order : ByteOrder) (bytes : List UInt8) : Step :=
  if bytes.length < 2 then .error (bytes.length, .truncated)
  else
    let high := codePoint (unit order (bytes.take 2))
    let low := codePoint (unit order ((bytes.drop 2).take 2))
    if high.isHighSurrogate && 4 ≤ bytes.length && low.isLowSurrogate then
      .ok (CodePoint.ofPair high low, 4)
    else .ok (high, 2)

def stepUtf32 (order : ByteOrder) (bytes : List UInt8) : Step :=
  if bytes.length < 4 then .error (bytes.length, .truncated)
  else match CodePoint.ofNat? (unit order (bytes.take 4)) with
    | some c => .ok (c, 4)
    | none => .error (4, .outOfRange)

-- ---------------------------------------------------------------------------
-- Decoding
-- ---------------------------------------------------------------------------

/-- One step on bytes that are not empty; only as many of them as a step can need are looked at. -/
def step (encoding : Encoding) (first : UInt8) (rest : List UInt8) : Step :=
  let near := rest.take 3
  match encoding with
  | .utf8 => stepUtf8 first near
  | .utf16 order => stepUtf16 order (first :: near)
  | .utf32 order => stepUtf32 order (first :: near)

/-- Decodes bytes that start at a position; each step takes at least one, so `fuel` is their number.
-/
def decodeFrom (encoding : Encoding) (fuel position : Nat) (bytes : List UInt8) (acc : Text) :
    Except Fault Text :=
  match fuel, bytes with
  | _, [] => .ok acc.reverse
  | 0, _ => .ok acc.reverse
  | fuel + 1, first :: rest =>
    match encoding.step first rest with
    | .error (count, reason) => .error ⟨encoding, first, position, count, reason⟩
    | .ok (c, taken) =>
      decodeFrom encoding fuel (position + taken) (rest.drop (taken - 1)) (c :: acc)

/-- The encoding that the first bytes of a JSON text show, and the length of a byte order mark. -/
def detect (bytes : List UInt8) : Encoding × Nat :=
  match bytes with
  | 0x00 :: 0x00 :: 0xFE :: 0xFF :: _ => (.utf32 .big, 4)
  | 0xFF :: 0xFE :: 0x00 :: 0x00 :: _ => (.utf32 .little, 4)
  | 0xFE :: 0xFF :: _ => (.utf16 .big, 2)
  | 0xFF :: 0xFE :: _ => (.utf16 .little, 2)
  | 0xEF :: 0xBB :: 0xBF :: _ => (.utf8, 3)
  | a :: b :: c :: d :: _ =>
    if a = 0 then (if b = 0 then .utf32 .big else .utf16 .big, 0)
    else if b = 0 then (if c = 0 ∧ d = 0 then .utf32 .little else .utf16 .little, 0)
    else (.utf8, 0)
  | [a, b] =>
    if a = 0 then (.utf16 .big, 0)
    else if b = 0 then (.utf16 .little, 0)
    else (.utf8, 0)
  | _ => (.utf8, 0)

/-- The text of bytes in the encoding that they show. After the mark of UTF-8, positions start anew.
-/
def decode (bytes : List UInt8) : Except Fault Text :=
  let (encoding, mark) := detect bytes
  let start := if encoding = .utf8 then 0 else mark
  decodeFrom encoding bytes.length start (bytes.drop mark) []

end Encoding

end DataShape.Text
