-- SUMMARY: Quoted forms of texts and of byte strings, as messages show them.
import DataShape.Text.Printable

/-!
# Quoted texts

A quoted text stands between single quotes, or between double quotes when it
holds a single quote and no double one. What cannot be printed is written as
an escape that names the code point.
-/

namespace DataShape.Text

/-- The mark that goes around a quoted text. -/
def quoteMark (t : Text) : CodePoint :=
  if t.contains '\'' && !t.contains '"' then '"' else '\''

/-- A code point by number: two hexadecimal digits after `\x`, four after `\u` or eight after `\U`.
-/
def numericEscape (c : CodePoint) : Text :=
  if c.val < 0x100 then "\\x" ++ hex 2 c.val
  else if c.val < 0x10000 then "\\u" ++ hex 4 c.val
  else "\\U" ++ hex 8 c.val

/-- The escapes that texts and byte strings share. -/
def commonEscape? (mark c : CodePoint) : Option Text :=
  if c = mark then some ['\\', c]
  else if c = '\\' then some "\\\\"
  else if c = '\n' then some "\\n"
  else if c = '\r' then some "\\r"
  else if c = '\t' then some "\\t"
  else none

def quotedCodePoint (mark c : CodePoint) : Text :=
  (commonEscape? mark c).getD (if c.isPrintable then [c] else numericEscape c)

def quoted (t : Text) : Text :=
  let mark := quoteMark t
  mark :: t.flatMap (quotedCodePoint mark) ++ [mark]

def quotedByte (mark : CodePoint) (b : UInt8) : Text :=
  let c : CodePoint := CodePoint.ofNat b.toNat
  (commonEscape? mark c).getD (if 0x20 ≤ c.val && c.val < 0x7F then [c] else numericEscape c)

/-- A byte string: a `b` before the quotes, and only printable ASCII as it is. -/
def quotedBytes (bytes : List UInt8) : Text :=
  let mark := quoteMark (bytes.map fun b => CodePoint.ofNat b.toNat)
  "b" ++ mark :: bytes.flatMap (quotedByte mark) ++ [mark]

end DataShape.Text
