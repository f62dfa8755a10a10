-- SUMMARY: Writing a value as a YAML document in block layout.
import DataShape.Text.Base64
import DataShape.Value.Identity
import DataShape.Value.Inspect
import DataShape.Yaml.Style

/-!
# Block layout

Collections are written one item or entry per line, two columns deeper than
what they stand in; a sequence in a mapping is not indented. Empty collections
are written between brackets. A key that is long, empty or no scalar on one
line stands on a line of its own after a question mark.
-/

namespace DataShape.Yaml

/-- Why a value is not written. -/
inductive Unwritable where
  /-- YAML has no standard tag for a value in it. -/
  | noTag (value : Value)
  /-- An integer in it is beyond the digit limit. -/
  | tooManyDigits
  /-- The host does not go that deep. -/
  | tooDeep
  deriving DecidableEq

namespace Block

/-- Numbers as messages show them, but with a point before each exponent, so that they read as
numbers. -/
def numberLayout : NumberLayout where
  plainFrom := -4
  plainBelow := 16
  pointBeforeExponent := true
  nan := ".nan"
  infinity := ".inf"
  negativeInfinity := "-.inf"

-- ---------------------------------------------------------------------------
-- Scalars
-- ---------------------------------------------------------------------------

/-- A value that is written as one text, with its tag and whether the plain text shows it. -/
structure Scalar where
  text : Text
  tag : String
  showsTag : Bool

def scalar? : Value → Option Scalar
  | .null => some ⟨"null", "null", true⟩
  | .bool b => some ⟨if b then "true" else "false", "bool", true⟩
  | .int n => some ⟨Text.ofInt n, "int", true⟩
  | .float x => some ⟨numberLayout.render x, "float", true⟩
  | .str t => some ⟨t, "str", Tag.ofPlain t = .str⟩
  | .date d => some ⟨d.text, "timestamp", true⟩
  | .moment m => some ⟨m.text, "timestamp", true⟩
  | _ => none

def Scalar.style (s : Scalar) : Style := .choose s.showsTag s.text

def Scalar.write (s : Scalar) (room : Style.Room) (column : Nat) : Text :=
  s.style.write room column s.text

/-- The length that a key counts with: its text and the short form of its tag. -/
def Scalar.keyLength (s : Scalar) : Nat := s.text.length + s.tag.length + 2

def maxKeyLength : Nat := 127

/-- The text of a key that can stand on one line with its value. -/
def simpleKey? (key : Value) : Option Text :=
  match key with
  | .array _ [] => some "[]"
  | .object _ [] => some "\x7b\x7d"
  | _ =>
    match scalar? key with
    | some s =>
      if s.keyLength ≤ maxKeyLength && !s.text.isEmpty && !Style.isMultiline s.text then
        some (s.write ⟨0, false⟩ 0)
      else none
    | none => none

/-- Bytes under their tag, as lines of base-64 text. -/
def binary (indent : Nat) (data : List UInt8) : Text :=
  if data.isEmpty then "!!binary \"\""
  else
    "!!binary |" ++ (Text.Base64.encodeLines data).flatMap fun line => Style.newLine indent ++ line

-- ---------------------------------------------------------------------------
-- Collections
-- ---------------------------------------------------------------------------

/-- Where a value goes that stands after a simple key: collections on lines of their own. -/
inductive Position where
  | sameLine
  | nextLine (indent : Nat)

def position (indent : Nat) : Value → Position
  | .array _ (_ :: _) => .nextLine indent
  | .object _ (_ :: _) => .nextLine (indent + 2)
  | _ => .sameLine

def writeScalar (indent column : Nat) (v : Value) : Except Unwritable Text :=
  match scalar? v with
  | some s => .ok (s.write ⟨indent, true⟩ column)
  | none => .error (.noTag v)

/-- What is left of the room inside a collection. -/
def inside (room : Nat) : Except Unwritable Nat :=
  match room with
  | 0 => .error .tooDeep
  | inner + 1 => .ok inner

mutual

/-- A value from a column on, with room for so many collections inside one another; the lines of a
collection start at `indent`, and the first one there already. -/
def write (room indent column : Nat) : Value → Except Unwritable Text
  | .array _ items => do
    let inner ← inside room
    if items.isEmpty then return "[]" else writeItems inner indent items
  | .object _ entries => do
    let inner ← inside room
    if entries.isEmpty then return "\x7b\x7d" else writeEntries inner indent entries
  | .null => writeScalar indent column .null
  | .bool b => writeScalar indent column (.bool b)
  | .int n =>
    if Numeral.isWritable n then writeScalar indent column (.int n) else .error .tooManyDigits
  | .float x => writeScalar indent column (.float x)
  | .str t => writeScalar indent column (.str t)
  | .date d => writeScalar indent column (.date d)
  | .moment m => writeScalar indent column (.moment m)
  | .bytes _ data => .ok (binary indent data)
  | v => .error (.noTag v)
termination_by structural v => v

def writeItems (room indent : Nat) : List Value → Except Unwritable Text
  | [] => .ok []
  | v :: vs => do
    let item ← write room (indent + 2) (indent + 2) v
    let others ← writeItems room indent vs
    return Text.ofString "- " ++ item ++ (if vs.isEmpty then [] else Style.newLine indent) ++ others
termination_by structural vs => vs

def writeEntries (room indent : Nat) : List (Value × Value) → Except Unwritable Text
  | [] => .ok []
  | (key, v) :: rest => do
    let entry ← match simpleKey? key with
      | some k =>
        match position indent v with
        | .nextLine inner =>
          (write room inner inner v).map fun t =>
            k ++ (CodePoint.ofChar ':') :: Style.newLine inner ++ t
        | .sameLine =>
          (write room (indent + 2) (indent + k.length + 2) v).map fun t =>
            k ++ Text.ofString ": " ++ t
      | none => do
        let k ← write room (indent + 2) (indent + 2) key
        let t ← write room (indent + 2) (indent + 2) v
        pure (Text.ofString "? " ++ k ++ Style.newLine indent ++ Text.ofString ": " ++ t)
    let others ← writeEntries room indent rest
    return entry ++ (if rest.isEmpty then [] else Style.newLine indent) ++ others
termination_by structural es => es

end

end Block

/-- A document with one value. A plain scalar alone needs a mark of the document's end. -/
def write (host : Host) (v : Value) : Except Unwritable Text := do
  let endMark : Text := match Block.scalar? v with
    | some s => if s.style = .plain then "...\n" else ""
    | none => ""
  let indent := if (Block.scalar? v).isSome then 2 else 0
  return (← Block.write host.writing indent 0 v) ++ [Style.lineFeed] ++ endMark

end DataShape.Yaml
