-- SUMMARY: What the text of a scalar means under its tag.
import DataShape.Text.Base64
import DataShape.Text.LowerCase
import DataShape.Value.Basic
import DataShape.Yaml.Fault
import DataShape.Yaml.Tag

/-!
# Scalars

A tag reads the text of a scalar as a value. Numbers may have underscores
anywhere and may be written to base sixty with colons between their places.
The tags of collections, and tags without a meaning, read no scalar.
-/

namespace DataShape.Yaml.Scalar

-- ---------------------------------------------------------------------------
-- Truth values
-- ---------------------------------------------------------------------------

def bool (t : Text) : Except Fault Bool :=
  let lower := t.toLower
  if Form.isOneOf ["yes", "true", "on"] lower then .ok true
  else if Form.isOneOf ["no", "false", "off"] lower then .ok false
  else invalid (.notABoolean lower)

-- ---------------------------------------------------------------------------
-- Numbers
-- ---------------------------------------------------------------------------

def numeral (base : Nat) (t : Text) : Except Fault Int :=
  match Numeral.integer base t with
  | .ok n => .ok n
  | .error .malformed => invalid (.notAnInteger base t)
  | .error (.tooManyDigits count) => invalid (.tooManyDigits count)

/-- The number with these places to base sixty, the highest first. -/
def ofSixtieths (places : List Int) : Int := places.foldl (fun n p => n * 60 + p) 0

/-- The base shows in the first digits: `0b`, `0x`, a leading zero, or colons between places. -/
def unsignedInt (t : Text) : Except Fault Int :=
  if t = "0" then .ok 0
  else match Form.after? "0b" t, Form.after? "0x" t, t with
    | some digits, _, _ => numeral 2 digits
    | _, some digits, _ => numeral 16 digits
    | _, _, [] => invalid .emptyNumber
    | _, _, c :: _ =>
      if c = '0' then numeral 8 t
      else if t.contains (CodePoint.ofChar ':') then
        ((Text.splitAt ':' t).mapM (numeral 10)).map ofSixtieths
      else numeral 10 t

def int (t : Text) : Except Fault Int :=
  let t := Text.remove '_' t
  if t.isEmpty then invalid .emptyNumber
  else
    let (negative, body) := Numeral.sign t
    (unsignedInt body).map fun n => if negative then -n else n

def decimal (t : Text) : Except Fault Binary64 :=
  match Numeral.decimal? t with
  | some x => .ok x
  | none => invalid (.notADecimal t)

/-- Places to base sixty with the lowest first, added up from there, each scaled on its own. -/
def sumOfSixtieths (places : List Binary64) (scale : Nat) (sum : Binary64) : Except Fault Binary64 :=
  match places with
  | [] => .ok sum
  | place :: rest =>
    match Binary64.ofInt? scale with
    | some x => sumOfSixtieths rest (scale * 60) (sum.add (place.mul x))
    | none => invalid .hugeInteger

def unsignedFloat (t : Text) : Except Fault Binary64 := do
  if t = ".inf" then return .infinity false
  else if t = ".nan" then return .nan .word
  else if t.contains (CodePoint.ofChar ':') then
    let places ← (Text.splitAt ':' t).mapM decimal
    sumOfSixtieths places.reverse 1 (.zero false)
  else decimal t

/-- Separators and case do not count. -/
def float (t : Text) : Except Fault Binary64 :=
  let folded := (Text.remove '_' t).toLower
  if folded.isEmpty then invalid .emptyNumber
  else
    let (negative, body) := Numeral.sign folded
    (unsignedFloat body).map fun x => if negative then x.neg else x

-- ---------------------------------------------------------------------------
-- Dates and moments
-- ---------------------------------------------------------------------------

/-- The microseconds of a fraction of a second; digits past the sixth are dropped. -/
def microseconds (fraction : Text) : Nat :=
  let digits := fraction.take 6
  (Text.number? 10 (digits ++ Text.fill '0' (6 - digits.length))).getD 0

def calendar {α : Type} (r : Except CalendarFault α) : Except Fault α :=
  r.mapError fun f => .scalar (.calendar f)

def ofTimestamp (s : Form.Timestamp) : Except Fault Value :=
  let date := Date.make s.year s.month s.day
  match s.time with
  | none => (calendar date).map .date
  | some (hour, minute, second, fraction) => do
    let offset ← calendar (s.offset.mapM Offset.make)
    let moment ← calendar (Moment.make date hour minute second (microseconds fraction) offset)
    return .moment moment

def timestamp (t : Text) : Except Fault Value :=
  match Form.timestamp? false (Form.dropFinalBreak t) with
  | some s => ofTimestamp s
  | none => invalid .notAMoment

-- ---------------------------------------------------------------------------
-- Values by tag
-- ---------------------------------------------------------------------------

def read (tag : Tag) (t : Text) : Except Fault Value :=
  match tag with
  | .null => .ok .null
  | .bool => (bool t).map .bool
  | .int => (int t).map .int
  | .float => (float t).map .float
  | .timestamp => timestamp t
  | .str => .ok (.str t)
  | .binary =>
    match Text.Base64.decode? t with
    | some data => .ok (.bytes .fixed data)
    | none => malformed
  | _ => malformed

end DataShape.Yaml.Scalar
