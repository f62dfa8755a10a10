-- SUMMARY: Reading JSON text: one pass over the code points that stops at the first fault.
import DataShape.Json.Fault
import DataShape.Number.Numeral
import DataShape.Value.Equal

/-!
# Reading JSON text

Each reader takes the code points that are left and their position, and gives
back a result with what is left after it. Strict JSON is read: numbers that
are not numbers have no spelling, control characters have to be escaped, and
arrays and objects are followed into one another as far as the host goes. Of
repeated names the last value counts, in the place of the first.
-/

namespace DataShape.Json

/-- Code points that are left, and the position of the first of them. -/
structure Cursor where
  rest : Text
  position : Nat

namespace Cursor

def fail {α : Type} (c : Cursor) (expected : Expected) : Except ReadFault α :=
  .error (.malformed expected c.position)

def drop (n : Nat) (c : Cursor) : Cursor := ⟨c.rest.drop n, c.position + n⟩

def isBlank (c : CodePoint) : Bool :=
  c = ' ' || c = '\t' || c = '\n' || c = '\r'

def skipBlanks (c : Cursor) : Cursor :=
  let blanks := c.rest.takeWhile isBlank
  ⟨c.rest.dropWhile isBlank, c.position + blanks.length⟩

def startsWith (c : Cursor) (word : Text) : Bool := word.isPrefixOf c.rest

end Cursor

-- ---------------------------------------------------------------------------
-- Strings
-- ---------------------------------------------------------------------------

/-- What an escape of one letter stands for. -/
def simpleEscape? (c : CodePoint) : Option CodePoint :=
  if c = '"' ∨ c = '\\' ∨ c = '/' then some c
  else if c = 'b' then some '\x08'
  else if c = 'f' then some '\x0C'
  else if c = 'n' then some '\n'
  else if c = 'r' then some '\r'
  else if c = 't' then some '\t'
  else none

def hexDigits? (digits : Text) : Option CodePoint :=
  (Text.number? 16 digits).bind CodePoint.ofNat?

/-- The low surrogate that an escape right after a high one names, if something follows the escape.
-/
def lowSurrogate? (high : CodePoint) (c : Cursor) : Except ReadFault (Option CodePoint) :=
  match c.rest with
  | b :: u :: rest =>
    if high.isHighSurrogate && !(c.rest.drop 6).isEmpty && b = '\\' && u = 'u' then
      match hexDigits? (rest.take 4) with
      | some low => .ok (if low.isLowSurrogate then some low else none)
      | none => (c.drop 1).fail .unicodeEscape
    else .ok none
  | _ => .ok none

/-- An escape with four digits, from after its `u`; a pair of surrogates is joined. -/
def readUnicodeEscape (c : Cursor) : Except ReadFault (CodePoint × Cursor) :=
  if (c.rest.drop 4).isEmpty then .error (.malformed .unicodeEscape (c.position - 1))
  else match hexDigits? (c.rest.take 4) with
    | none => .error (.malformed .unicodeEscape (c.position - 1))
    | some high => do
      let after := c.drop 4
      match ← lowSurrogate? high after with
      | some low => return (CodePoint.ofPair high low, after.drop 6)
      | none => return (high, after)

/-- An escape, from after its backslash; `start` is where the string began. -/
def readEscape (start : Nat) (c : Cursor) : Except ReadFault (CodePoint × Cursor) :=
  match c.rest with
  | [] => .error (.malformed .endOfString start)
  | e :: _ =>
    if e = 'u' then readUnicodeEscape (c.drop 1)
    else match simpleEscape? e with
      | some x => .ok (x, c.drop 1)
      | none => .error (.malformed .escape (c.position - 1))

/-- The rest of a string that began at `start`, up to and with the closing quote. -/
def readString (start fuel : Nat) (c : Cursor) (acc : Text) : Except ReadFault (Text × Cursor) :=
  match fuel, c.rest with
  | 0, _ => .error (.malformed .endOfString start)
  | _, [] => .error (.malformed .endOfString start)
  | fuel + 1, x :: _ =>
    if x = '"' then .ok (acc.reverse, c.drop 1)
    else if x = '\\' then
      match readEscape start (c.drop 1) with
      | .ok (y, after) => readString start fuel after (y :: acc)
      | .error e => .error e
    else if x.val < 0x20 then c.fail .noControl
    else readString start fuel (c.drop 1) (x :: acc)

-- ---------------------------------------------------------------------------
-- Numbers and words
-- ---------------------------------------------------------------------------

/-- The fraction at the head of a text, if there is one: a point and digits. -/
def fraction (t : Text) : Text :=
  match t with
  | p :: rest =>
    let digits := rest.takeWhile CodePoint.isAsciiDigit
    if p = '.' ∧ digits ≠ [] then p :: digits else []
  | [] => []

/-- The exponent at the head of a text, if there is one: its mark, perhaps a sign, and digits. -/
def exponent (t : Text) : Text :=
  match t with
  | e :: rest =>
    let sign := (rest.take 1).filter fun s => s = CodePoint.ofChar '+' || s = CodePoint.ofChar '-'
    let digits := (rest.drop sign.length).takeWhile CodePoint.isAsciiDigit
    if (e = 'e' ∨ e = 'E') ∧ digits ≠ [] then e :: sign ++ digits else []
  | [] => []

/-- The digits before a point: a lone zero, or digits that start with another one. -/
def whole (t : Text) : Text :=
  match t with
  | z :: _ => if z = '0' then [z] else t.takeWhile CodePoint.isAsciiDigit
  | [] => []

/-- The longest number at the cursor. -/
def readNumber (c : Cursor) : Except ReadFault (Value × Cursor) :=
  let sign := (c.rest.take 1).filter (· = CodePoint.ofChar '-')
  let unsigned := c.rest.drop sign.length
  let digits := whole unsigned
  let afterWhole := unsigned.drop digits.length
  let frac := fraction afterWhole
  let expo := exponent (afterWhole.drop frac.length)
  let after := c.drop (sign.length + digits.length + frac.length + expo.length)
  if digits = [] then c.fail .value
  else if frac = [] ∧ expo = [] then
    if Numeral.digitLimit < digits.length then .error (.tooManyDigits digits.length)
    else
      let n : Int := (Text.number? 10 digits).getD 0
      .ok (.int (if sign = [] then n else -n), after)
  else match Numeral.unsignedDecimal? (sign ≠ []) (digits ++ frac ++ expo) with
    | some x => .ok (.float x, after)
    | none => c.fail .value

/-- The words with a meaning, and the refused ones. -/
def readWord? (c : Cursor) : Option (Except ReadFault (Value × Cursor)) :=
  if c.startsWith "null" then some (.ok (.null, c.drop 4))
  else if c.startsWith "true" then some (.ok (.bool true, c.drop 4))
  else if c.startsWith "false" then some (.ok (.bool false, c.drop 5))
  else if c.startsWith "NaN" then some (.error (.constant "NaN"))
  else if c.startsWith "Infinity" then some (.error (.constant "Infinity"))
  else if c.startsWith "-Infinity" then some (.error (.constant "-Infinity"))
  else none

/-- A value without parts that is no string. -/
def readAtom (c : Cursor) : Except ReadFault (Value × Cursor) :=
  (readWord? c).getD (readNumber c)

-- ---------------------------------------------------------------------------
-- Values
-- ---------------------------------------------------------------------------

mutual

/-- A value at the cursor, inside `depth` arrays and objects where `nesting` may be. At most two
steps go by for each code point taken, so twice their number is fuel enough. -/
def readValue (nesting fuel depth : Nat) (c : Cursor) : Except ReadFault (Value × Cursor) :=
  match fuel, c.rest with
  | 0, _ => c.fail .value
  | _, [] => c.fail .value
  | fuel + 1, x :: _ =>
    let inner := c.drop 1
    if x = '"' then (readString c.position fuel inner []).map fun (t, c) => (.str t, c)
    else if x = '[' then
      if nesting ≤ depth then .error .tooDeep
      else
        let first := inner.skipBlanks
        if first.startsWith "]" then .ok (.list [], first.drop 1)
        else readItems nesting fuel (depth + 1) first []
    else if x = '\x7b' then
      if nesting ≤ depth then .error .tooDeep
      else
        let first := inner.skipBlanks
        if first.startsWith "\x7d" then .ok (.object .plain [], first.drop 1)
        else readEntries nesting fuel (depth + 1) first []
    else readAtom c

/-- The items of an array from the next one on, with the ones before in reverse. -/
def readItems (nesting fuel depth : Nat) (c : Cursor) (acc : List Value) :
    Except ReadFault (Value × Cursor) :=
  match fuel with
  | 0 => c.fail .value
  | fuel + 1 =>
    match readValue nesting fuel depth c with
    | .error e => .error e
    | .ok (v, after) =>
      let next := after.skipBlanks
      if next.startsWith "]" then .ok (.list (v :: acc).reverse, next.drop 1)
      else if next.startsWith "," then
        readItems nesting fuel depth (next.drop 1).skipBlanks (v :: acc)
      else next.fail .comma

/-- The entries of an object from the next one on, with the ones before in reverse. -/
def readEntries (nesting fuel depth : Nat) (c : Cursor) (acc : List (Value × Value)) :
    Except ReadFault (Value × Cursor) :=
  match fuel with
  | 0 => c.fail .value
  | fuel + 1 =>
    if !c.startsWith "\"" then c.fail .name
    else match readString c.position fuel (c.drop 1) [] with
      | .error e => .error e
      | .ok (name, after) =>
        let colon := after.skipBlanks
        if !colon.startsWith ":" then colon.fail .colon
        else match readValue nesting fuel depth (colon.drop 1).skipBlanks with
          | .error e => .error e
          | .ok (v, after) =>
            let next := after.skipBlanks
            let entries := (.str name, v) :: acc
            if next.startsWith "\x7d" then
              .ok (.object .plain (Value.ofEntries entries.reverse), next.drop 1)
            else if next.startsWith "," then
              readEntries nesting fuel depth (next.drop 1).skipBlanks entries
            else next.fail .comma

end

/-- The value that a text writes, with nothing but blanks around it. -/
def readText (nesting : Nat) (text : Text) : Except ReadFault Value := do
  let (v, after) ← readValue nesting (2 * text.length + 2) 0 (Cursor.skipBlanks ⟨text, 0⟩)
  let last := after.skipBlanks
  if last.rest.isEmpty then return v else last.fail .endOfText

/-- The same for a text that was not decoded from bytes, where no byte order mark may be left. -/
def readUnmarked (nesting : Nat) (text : Text) : Except ReadFault Value :=
  if (Text.ofChars ['\uFEFF']).isPrefixOf text then .error (.malformed .noByteOrderMark 0)
  else readText nesting text

/-- What was handed in for a text is neither a text nor bytes. -/
structure NotText where
  given : Value

def NotText.message (n : NotText) : Text :=
  "the JSON object must be str, bytes or bytearray, not " ++ Text.ofString n.given.typeName

/-- Decodes JSON from a text, or from bytes in the encoding that they show. -/
def decode (nesting : Nat) (source : Value) : Except NotText (Except Fault Value) :=
  match source with
  | .str text => .ok ((readUnmarked nesting text).mapError (ReadFault.inText text))
  | .bytes _ data =>
    .ok (match Text.Encoding.decode data with
      | .error fault => .error (.undecodable fault)
      | .ok text => (readText nesting text).mapError (ReadFault.inText text))
  | v => .error ⟨v⟩

end DataShape.Json
