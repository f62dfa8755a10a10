-- SUMMARY: Spellings of JSON values that YAML reads alike: their characters and the values they stand for.
import DataShape.Host
import DataShape.Json.Read
import DataShape.Proofs.Lists
import DataShape.Proofs.Text.Characters
import DataShape.Yaml.Tokens

/-!
# Portable spellings

A spelling is a JSON text as a tree. Spelled here is what YAML reads alike, which
is all JSON but for five things: tabs around tokens, numbers with an exponent
that lack a point or the sign of the exponent, escaped surrogate pairs, keys
that are too long or on another line than their colon, and characters in strings
that YAML does not allow or takes for a line break.
-/

namespace DataShape.Json

/-! ## Blanks -/

/-- White space that both languages pass over. -/
inductive Blank where
  | space
  | lineFeed
  | carriageReturn
  deriving DecidableEq

def Blank.char : Blank → Char
  | .space => ' '
  | .lineFeed => '\n'
  | .carriageReturn => '\r'

def blanks (bs : List Blank) : List Char := bs.map Blank.char

/-! ## Strings -/

/-- Whether a character can stand for itself in a string. -/
def standsForItself (c : Char) : Bool :=
  c ≠ '"' && c ≠ '\\' && Yaml.isAllowed (CodePoint.ofChar c) && !Yaml.isBreak c && c ≠ '\t'

inductive Escape where
  | quote
  | backslash
  | slash
  | backspace
  | formFeed
  | lineFeed
  | carriageReturn
  | tab
  deriving DecidableEq

namespace Escape

def letter : Escape → Char
  | .quote => '"'
  | .backslash => '\\'
  | .slash => '/'
  | .backspace => 'b'
  | .formFeed => 'f'
  | .lineFeed => 'n'
  | .carriageReturn => 'r'
  | .tab => 't'

def char : Escape → Char
  | .quote => '"'
  | .backslash => '\\'
  | .slash => '/'
  | .backspace => '\x08'
  | .formFeed => '\x0C'
  | .lineFeed => '\n'
  | .carriageReturn => '\r'
  | .tab => '\t'

end Escape

/-- The four digits of a numeric escape. -/
structure HexDigits where
  chars : List Char
  length : chars.length = 4
  digits : chars.all Yaml.isHexDigit = true

def HexDigits.codePoint (d : HexDigits) : CodePoint :=
  CodePoint.ofNat ((Text.number? 16 (Text.ofChars d.chars)).getD 0)

inductive StringPart where
  | char (c : Char) (h : standsForItself c = true)
  | escape (e : Escape)
  | unicode (digits : HexDigits)

namespace StringPart

def chars : StringPart → List Char
  | .char c _ => [c]
  | .escape e => ['\\', e.letter]
  | .unicode d => '\\' :: 'u' :: d.chars

def codePoint : StringPart → CodePoint
  | .char c _ => CodePoint.ofChar c
  | .escape e => CodePoint.ofChar e.char
  | .unicode d => d.codePoint

/-- Whether two parts in a row are a surrogate pair written with escapes. -/
def isPair : StringPart → StringPart → Bool
  | .unicode d, .unicode e => d.codePoint.isHighSurrogate && e.codePoint.isLowSurrogate
  | _, _ => false

end StringPart

def hasNoPair : List StringPart → Bool
  | p :: q :: parts => !p.isPair q && hasNoPair (q :: parts)
  | _ => true

structure StringSpelling where
  parts : List StringPart
  unpaired : hasNoPair parts = true

namespace StringSpelling

def chars (s : StringSpelling) : List Char := '"' :: s.parts.flatMap StringPart.chars ++ ['"']

def text (s : StringSpelling) : Text := s.parts.map StringPart.codePoint

end StringSpelling

/-! ## Numbers -/

def digitChar (d : Fin 10) : Char := Nat.digitChar d

structure Digits where
  first : Fin 10
  rest : List (Fin 10)

namespace Digits

def chars (d : Digits) : List Char := (d.first :: d.rest).map digitChar

def number (d : Digits) : Nat := (Text.number? 10 (Text.ofChars d.chars)).getD 0

end Digits

/-- An exponent with its sign. -/
structure Exponent where
  upper : Bool
  negative : Bool
  digits : Digits

namespace Exponent

def chars (e : Exponent) : List Char :=
  (if e.upper then 'E' else 'e') :: (if e.negative then '-' else '+') :: e.digits.chars

def number (e : Exponent) : Int := if e.negative then -(e.digits.number : Int) else e.digits.number

end Exponent

/-- A fraction, perhaps with an exponent. -/
structure Fraction where
  digits : Digits
  exponent : Option Exponent

def Fraction.chars (f : Fraction) : List Char :=
  '.' :: f.digits.chars ++ (f.exponent.map Exponent.chars).getD []

/-- An integer, or a decimal number with a fraction. -/
structure NumberSpelling where
  negative : Bool
  whole : Digits
  fraction : Option Fraction
  noLeadingZero : whole.first = 0 → whole.rest = []
  short : fraction = none → whole.chars.length ≤ Numeral.digitLimit

namespace NumberSpelling

def signChars (n : NumberSpelling) : List Char := if n.negative then ['-'] else []

def chars (n : NumberSpelling) : List Char :=
  n.signChars ++ n.whole.chars ++ (n.fraction.map Fraction.chars).getD []

/-- The decimal number with these digits before and after the point. -/
def decimal (negative : Bool) (whole : Digits) (f : Fraction) : Binary64 :=
  let digits := (Text.number? 10 (Text.ofChars (whole.chars ++ f.digits.chars))).getD 0
  Binary64.ofDecimal negative digits ((f.exponent.map Exponent.number).getD 0 - f.digits.chars.length)

def value (n : NumberSpelling) : Value :=
  match n.fraction with
  | none => .int (if n.negative then -(n.whole.number : Int) else n.whole.number)
  | some f => .float (decimal n.negative n.whole f)

end NumberSpelling

/-! ## Values -/

inductive Atom where
  | null
  | boolean (b : Bool)
  | number (n : NumberSpelling)
  | string (s : StringSpelling)

namespace Atom

def chars : Atom → List Char
  | .null => ['n', 'u', 'l', 'l']
  | .boolean true => ['t', 'r', 'u', 'e']
  | .boolean false => ['f', 'a', 'l', 's', 'e']
  | .number n => n.chars
  | .string s => s.chars

def value : Atom → Value
  | .null => .null
  | .boolean b => .bool b
  | .number n => n.value
  | .string s => .str s.text

end Atom

/-- A key with the blanks before it and the spaces between it and its colon. -/
structure Key where
  before : List Blank
  name : StringSpelling
  gap : Nat
  near : name.chars.length + gap ≤ Yaml.Scanner.maxKeyLength

def Key.chars (k : Key) : List Char := k.name.chars ++ blanks (List.replicate k.gap .space)

/-- A value with the blanks around it. -/
inductive Spelling where
  | atom (before : List Blank) (a : Atom) (after : List Blank)
  | array (before : List Blank) (inner : List Blank) (items : List Spelling) (after : List Blank)
  | object (before : List Blank) (inner : List Blank) (fields : List (Key × Spelling))
      (after : List Blank)

namespace Spelling

def before : Spelling → List Blank
  | .atom before _ _ => before
  | .array before _ _ _ => before
  | .object before _ _ _ => before

def after : Spelling → List Blank
  | .atom _ _ after => after
  | .array _ _ _ after => after
  | .object _ _ _ after => after

mutual

/-- The characters between the blanks around a value. -/
def core : Spelling → List Char
  | .atom _ a _ => a.chars
  | .array _ inner items _ => '[' :: blanks inner ++ separated ',' (charsEach items) ++ [']']
  | .object _ inner fields _ =>
    '\x7b' :: blanks inner ++ separated ',' (charsFields fields) ++ ['\x7d']
termination_by structural p => p

def charsEach : List Spelling → List (List Char)
  | [] => []
  | p :: ps => (blanks p.before ++ p.core ++ blanks p.after) :: charsEach ps
termination_by structural ps => ps

def charsFields : List (Key × Spelling) → List (List Char)
  | [] => []
  | (k, p) :: fs =>
    (blanks k.before ++ k.chars ++ ':' :: (blanks p.before ++ p.core ++ blanks p.after))
      :: charsFields fs
termination_by structural fs => fs

end

def chars (p : Spelling) : List Char := blanks p.before ++ p.core ++ blanks p.after

mutual

def value : Spelling → Value
  | .atom _ a _ => a.value
  | .array _ _ items _ => .list (valueEach items)
  | .object _ _ fields _ => .object .plain (Value.ofEntries (valueFields fields))
termination_by structural p => p

def valueEach : List Spelling → List Value
  | [] => []
  | p :: ps => p.value :: valueEach ps
termination_by structural ps => ps

def valueFields : List (Key × Spelling) → List (Value × Value)
  | [] => []
  | (k, p) :: fs => (.str k.name.text, p.value) :: valueFields fs
termination_by structural fs => fs

end

mutual

/-- How deep arrays and objects are nested. -/
def nesting : Spelling → Nat
  | .atom _ _ _ => 0
  | .array _ _ items _ => nestingEach items + 1
  | .object _ _ fields _ => nestingFields fields + 1
termination_by structural p => p

def nestingEach : List Spelling → Nat
  | [] => 0
  | p :: ps => max p.nesting (nestingEach ps)
termination_by structural ps => ps

def nestingFields : List (Key × Spelling) → Nat
  | [] => 0
  | (_, p) :: fs => max p.nesting (nestingFields fs)
termination_by structural fs => fs

end

end Spelling

/-- A text that both languages read alike, where the host goes as deep as it is nested in reading
either, and in building from what it holds. -/
def IsPortable (host : Host) (t : Text) : Prop :=
  ∃ p : Spelling, t = Text.ofChars p.chars ∧
    p.nesting ≤ host.decoding ∧ p.nesting ≤ host.composing ∧ p.nesting ≤ host.building

end DataShape.Json
