-- SUMMARY: Tags of nodes, and the tag that the text of an untagged scalar shows.
import DataShape.Text.Basic

/-!
# Tags

An untagged plain scalar takes the tag of the first form that its text has:
truth values and nulls by word, integers in four bases and to base sixty,
decimal numbers with a point, dates and moments; every other text is a string.
A line feed at the very end of the text does not count.
-/

namespace DataShape.Yaml

inductive Tag where
  | null
  | bool
  | int
  | float
  | binary
  | timestamp
  | omap
  | pairs
  | set
  | str
  | seq
  | map
  | merge
  | value
  /-- A tag without a meaning here. -/
  | unknown
  deriving DecidableEq, Repr

namespace Tag

def leading : Text := "tag:yaml.org,2002:"

/-- The tags with a meaning, by the word after the common beginning. -/
def words : List (String × Tag) :=
  [("null", .null), ("bool", .bool), ("int", .int), ("float", .float), ("binary", .binary),
    ("timestamp", .timestamp), ("omap", .omap), ("pairs", .pairs), ("set", .set), ("str", .str),
    ("seq", .seq), ("map", .map), ("merge", .merge), ("value", .value)]

def ofText (t : Text) : Tag :=
  ((words.find? fun w => t = leading ++ Text.ofString w.1).map (·.2)).getD .unknown

/-- The tags that read a text as a value. -/
def readsText : Tag → Bool
  | .null | .bool | .int | .float | .binary | .timestamp | .str => true
  | _ => false

end Tag

-- ---------------------------------------------------------------------------
-- Forms of text
-- ---------------------------------------------------------------------------

namespace Form

def isDigit (c : CodePoint) : Bool := c.isAsciiDigit

def isDigitOrUnderscore (c : CodePoint) : Bool := isDigit c || c = '_'

def dropSign (t : Text) : Text :=
  match t with
  | c :: rest => if c = '-' ∨ c = '+' then rest else t
  | [] => []

/-- The text after a beginning, if it has that beginning. -/
def after? (start : Text) (t : Text) : Option Text :=
  if start.isPrefixOf t then some (t.drop start.length) else none

/-- Whether a text that is not empty holds only code points of a class. -/
def someAll (p : CodePoint → Bool) (t : Text) : Bool := !t.isEmpty && t.all p

def isOneOf (words : List String) (t : Text) : Bool := words.any fun w => t = Text.ofString w

def isNull (t : Text) : Bool := isOneOf ["~", "null", "Null", "NULL", ""] t

def isBool (t : Text) : Bool :=
  isOneOf ["yes", "Yes", "YES", "no", "No", "NO", "true", "True", "TRUE", "false", "False", "FALSE",
    "on", "On", "ON", "off", "Off", "OFF"] t

/-- A part of a number to base sixty: one digit, or two of which the first is at most five. -/
def isSixtieth (t : Text) : Bool :=
  match t with
  | [d] => isDigit d
  | [c, d] => 0x30 ≤ c.val && c.val ≤ 0x35 && isDigit d
  | _ => false

/-- Digits and underscores that start with a digit. -/
def isDigits (t : Text) : Bool :=
  match t with
  | d :: rest => isDigit d && rest.all isDigitOrUnderscore
  | [] => false

/-- The same with a first digit other than zero. -/
def isPositiveDigits (t : Text) : Bool :=
  match t with
  | d :: _ => d ≠ '0' && isDigits t
  | [] => false

def isBinary (t : Text) : Bool := someAll (fun c => c = '0' || c = '1' || c = '_') t

def isOctal (t : Text) : Bool :=
  someAll (fun c => (0x30 ≤ c.val && c.val ≤ 0x37) || c = '_') t

def isHexadecimal (t : Text) : Bool := someAll (fun c => c.hexDigit?.isSome || c = '_') t

def isInt (t : Text) : Bool :=
  let body := dropSign t
  body = "0" || isPositiveDigits body
    || ((after? "0b" body).map isBinary).getD false
    || ((after? "0x" body).map isHexadecimal).getD false
    || ((after? "0" body).map isOctal).getD false
    || (match Text.splitAt ':' body with
        | first :: part :: parts => isPositiveDigits first && (part :: parts).all isSixtieth
        | _ => false)

/-- Nothing, or the mark of an exponent with a sign and digits. -/
def isExponent (t : Text) : Bool :=
  match t with
  | [] => true
  | e :: s :: digits => (e = 'e' || e = 'E') && (s = '-' || s = '+') && someAll isDigit digits
  | _ => false

/-- A fraction after the point: digits and underscores, then perhaps an exponent. -/
def isFraction (t : Text) : Bool := isExponent (t.dropWhile isDigitOrUnderscore)

def isFloat (t : Text) : Bool :=
  let body := dropSign t
  let whole := body.takeWhile (· ≠ CodePoint.ofChar '.')
  let rest := body.drop whole.length
  isOneOf [".inf", ".Inf", ".INF"] body || isOneOf [".nan", ".NaN", ".NAN"] t
    || (match rest with
        | _ :: fraction => isDigits whole && isFraction fraction
        | [] => false)
    || (match t with
        | p :: fraction => p = '.' && (fraction.head?.any isDigit) && isFraction fraction
        | [] => false)
    || (match rest, Text.splitAt ':' whole with
        | _ :: fraction, first :: part :: parts =>
          isDigits first && (part :: parts).all isSixtieth && fraction.all isDigitOrUnderscore
        | _, _ => false)

-- ---------------------------------------------------------------------------
-- Dates and moments
-- ---------------------------------------------------------------------------

/-- The fields of a date, or of a moment with its time, fraction and offset in minutes. -/
structure Timestamp where
  year : Nat
  month : Nat
  day : Nat
  time : Option (Nat × Nat × Nat × Text)
  offset : Option Int

/-- A number of `low` to `high` digits, as many as there are, and what follows it. -/
def digits? (low high : Nat) (t : Text) : Option (Nat × Text) :=
  let digits := (t.take high).takeWhile isDigit
  if digits.length < low then none
  else (Text.number? 10 digits).map fun n => (n, t.drop digits.length)

def skip? (c : CodePoint) (t : Text) : Option Text :=
  match t with
  | x :: rest => if x = c then some rest else none
  | [] => none

def isSpaceOrTab (c : CodePoint) : Bool := c = ' ' || c = '\t'

/-- What separates a date from a time: the letter T in either case, or blanks. -/
def separator? (t : Text) : Option Text :=
  match t with
  | c :: rest =>
    if c = 'T' ∨ c = 't' then some rest
    else if isSpaceOrTab c then some (t.dropWhile isSpaceOrTab)
    else none
  | [] => none

/-- The offset at the end of a moment: nothing, the letter Z, or a sign with hours and perhaps
minutes. -/
def offset? (t : Text) : Option (Option Int) :=
  if t.isEmpty then some none
  else match t.dropWhile isSpaceOrTab with
    | c :: rest =>
      if c = 'Z' ∧ rest = [] then some (some 0)
      else if c = '-' ∨ c = '+' then do
        let (hours, rest) ← digits? 1 2 rest
        let minutes ← if rest.isEmpty then some 0 else do
          let (minutes, rest) ← digits? 2 2 (← skip? ':' rest)
          if rest.isEmpty then some minutes else none
        let n : Int := hours * 60 + minutes
        return some (if c = '-' then -n else n)
      else none
    | [] => none

/-- The fraction of a second, if a point stands here. -/
def secondFraction (t : Text) : Text × Text :=
  match skip? '.' t with
  | some rest => (rest.takeWhile isDigit, rest.dropWhile isDigit)
  | none => ([], t)

/-- The fields of a date or moment. With `exact`, a date alone has two digits for month and day. -/
def timestamp? (exact : Bool) (t : Text) : Option Timestamp := do
  let (year, rest) ← digits? 4 4 t
  let (month, afterMonth) ← digits? 1 2 (← skip? '-' rest)
  let (day, rest) ← digits? 1 2 (← skip? '-' afterMonth)
  if rest.isEmpty then
    if exact && t.length ≠ 10 then none else return ⟨year, month, day, none, none⟩
  else
    let (hour, rest) ← digits? 1 2 (← separator? rest)
    let (minute, rest) ← digits? 2 2 (← skip? ':' rest)
    let (second, rest) ← digits? 2 2 (← skip? ':' rest)
    let (fraction, rest) := secondFraction rest
    let offset ← offset? rest
    return ⟨year, month, day, some (hour, minute, second, fraction), offset⟩

/-- The text without a line feed at its very end. -/
def dropFinalBreak (t : Text) : Text :=
  match t.reverse with
  | c :: rest => if c = '\n' then rest.reverse else t
  | [] => []

end Form

/-- The tag of an untagged plain scalar. -/
def Tag.ofPlain (t : Text) : Tag :=
  let body := Form.dropFinalBreak t
  if body.isEmpty then (if t.isEmpty then .null else .str)
  else if Form.isBool body then .bool
  else if Form.isFloat body then .float
  else if Form.isInt body then .int
  else if body = "<<" then .merge
  else if Form.isNull body then .null
  else if (Form.timestamp? true body).isSome then .timestamp
  else if body = "=" then .value
  else if body = "!" ∨ body = "&" ∨ body = "*" then .unknown
  else .str

end DataShape.Yaml
