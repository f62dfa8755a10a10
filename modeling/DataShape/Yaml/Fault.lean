-- SUMMARY: What can be wrong with a YAML document: its form, or a scalar that its tag cannot read.
import DataShape.Calendar
import DataShape.Number.Numeral
import DataShape.Text.Quoted

/-!
# Faults of YAML documents

A malformed document is refused as a whole. A scalar whose tag promises a
number, a truth value or a moment, and whose text is none, is a fault of its
own kind, as is an escape for a code point that does not exist. What is nested,
or refers on from node to node, further than the host goes is a fault as well.
-/

namespace DataShape.Yaml

inductive ScalarFault where
  /-- An escape for a number beyond the code points. -/
  | noCodePoint
  /-- An escape for a number that is beyond even a machine word. -/
  | hugeCodePoint
  | notAnInteger (base : Nat) (text : Text)
  | tooManyDigits (count : Nat)
  /-- Nothing is left of a number once signs and separators are gone. -/
  | emptyNumber
  | notADecimal (text : Text)
  | hugeInteger
  | notABoolean (text : Text)
  | notAMoment
  | calendar (fault : CalendarFault)
  /-- A moment was to be read off a mapping. -/
  | momentOfMapping
  deriving DecidableEq, Repr

inductive Fault where
  | malformed
  | scalar (fault : ScalarFault)
  | tooDeep
  deriving DecidableEq, Repr

def malformed {α : Type} : Except Fault α := .error .malformed

def invalid {α : Type} (f : ScalarFault) : Except Fault α := .error (.scalar f)

/-- The wording of a fault; a text that is no moment has none. -/
def ScalarFault.message? : ScalarFault → Option Text
  | .noCodePoint => some "chr() arg not in range(0x110000)"
  | .hugeCodePoint => some "Python int too large to convert to C int"
  | .notAnInteger base text =>
    some ("invalid literal for int() with base " ++ Text.ofNat base ++ ": " ++ text.quoted.take 200)
  | .tooManyDigits count => some (Numeral.digitLimitMessage count)
  | .emptyNumber => some "string index out of range"
  | .notADecimal text => some ("could not convert string to float: " ++ text.quoted)
  | .hugeInteger => some "int too large to convert to float"
  | .notABoolean text => some text.quoted
  | .notAMoment => none
  | .calendar fault => some fault.message
  | .momentOfMapping => some "expected string or bytes-like object, got 'list'"

end DataShape.Yaml
