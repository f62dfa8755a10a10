-- SUMMARY: What can be wrong with JSON text, where, and how it is worded.
import DataShape.Number.Numeral
import DataShape.Text.Encoding
import DataShape.Value.Basic

/-!
# Faults of JSON text

Malformed text has a position, counted in code points, and the text it counts
in. Text that is refused for another reason has none.
-/

namespace DataShape.Json

/-- What the grammar asks for where the text goes wrong. -/
inductive Expected where
  | noByteOrderMark
  | value
  | name
  | colon
  | comma
  | endOfText
  | endOfString
  | noControl
  | escape
  | unicodeEscape
  deriving DecidableEq, Repr

def Expected.text : Expected → String
  | .noByteOrderMark => "Unexpected UTF-8 BOM (decode using utf-8-sig)"
  | .value => "Expecting value"
  | .name => "Expecting property name enclosed in double quotes"
  | .colon => "Expecting ':' delimiter"
  | .comma => "Expecting ',' delimiter"
  | .endOfText => "Extra data"
  | .endOfString => "Unterminated string starting at"
  | .noControl => "Invalid control character at"
  | .escape => "Invalid \\escape"
  | .unicodeEscape => "Invalid \\uXXXX escape"

/-- A fault in the course of reading. -/
inductive ReadFault where
  | malformed (expected : Expected) (position : Nat)
  /-- A word for a number that JSON does not have. -/
  | constant (word : String)
  | tooManyDigits (count : Nat)
  | tooDeep
  deriving DecidableEq, Repr

inductive Fault where
  | malformed (expected : Expected) (position : Nat) (text : Text)
  | constant (word : String)
  | tooManyDigits (count : Nat)
  | tooDeep
  | undecodable (fault : Text.Encoding.Fault)

def ReadFault.inText (text : Text) : ReadFault → Fault
  | .malformed expected position => .malformed expected position text
  | .constant word => .constant word
  | .tooManyDigits count => .tooManyDigits count
  | .tooDeep => .tooDeep

namespace Fault

/-- The reason alone. -/
def reason : Fault → Text
  | .malformed expected _ _ => expected.text
  | .constant word => "Non-standard JSON constant '" ++ word ++ "'"
  | .tooManyDigits count => Numeral.digitLimitMessage count
  | .tooDeep => "nesting too deep"
  | .undecodable fault => fault.message

def message (f : Fault) : Text := "Invalid JSON: " ++ f.reason

/-- The position in malformed text, and the length of that text. -/
def position : Fault → Nat × Nat
  | .malformed _ position text => (position, text.length)
  | _ => (0, 0)

/-- Line and column of a position, both from one. -/
def lineAndColumn (position : Nat) (text : Text) : Nat × Nat :=
  let before := text.take position
  let lineFeed := CodePoint.ofChar '\n'
  (before.count lineFeed + 1, (before.reverse.takeWhile (· ≠ lineFeed)).length + 1)

/-- The reason with the place, as it is logged. -/
def detail (f : Fault) : Text :=
  match f with
  | .malformed _ position text =>
    let (line, column) := lineAndColumn position text
    f.reason ++ ": line " ++ Text.ofNat line ++ " column " ++ Text.ofNat column
      ++ " (char " ++ Text.ofNat position ++ ")"
  | _ => f.reason

end Fault

end DataShape.Json
