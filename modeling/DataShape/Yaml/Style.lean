-- SUMMARY: Writing the text of a scalar: plain, between single or between double quotes, folded where a line is full.
import DataShape.Yaml.Tag

/-!
# Scalar styles

A text is written plain where reading it back gives that text under the right
tag, else between single quotes if it is printable ASCII and its breaks have
no spaces around them, else between double quotes with escapes. A line is
folded at a single space once its column is past the width; a key that stands
on one line with its value is never folded.
-/

namespace DataShape.Yaml

inductive Style where
  | plain
  | single
  | double
  deriving DecidableEq, Repr

namespace Style

def lineFeed : CodePoint := '\n'

def space : CodePoint := ' '

def isBreak (c : CodePoint) : Bool :=
  c = '\n' || c.val = 0x85 || c.val = 0x2028 || c.val = 0x2029

/-- Blanks and breaks as far as they separate an indicator from what follows. -/
def isWhite (c : CodePoint) : Bool :=
  isBreak c || c = ' ' || c = '\t' || c = '\r' || c.val = 0

def isPrintableAscii (c : CodePoint) : Bool := 0x20 ≤ c.val && c.val ≤ 0x7E

-- ---------------------------------------------------------------------------
-- The choice of a style
-- ---------------------------------------------------------------------------

/-- Whether two neighbours in a text belong to these classes. -/
def someNeighbours (p q : CodePoint → Bool) : Text → Bool
  | c :: d :: rest => (p c && q d) || someNeighbours p q (d :: rest)
  | _ => false

def startsOrEndsWith (p : CodePoint → Bool) (t : Text) : Bool :=
  (t.head?.any p) || (t.getLast?.any p)

/-- Code points with a meaning of their own at the start of a plain text. -/
def isIndicator (c : CodePoint) : Bool :=
  (Text.ofString "#,[]\x7b\x7d&*!|>'\"%@`").contains c

/-- Code points with such a meaning where white space or the end follows. -/
def isIndicatorBeforeWhite (c : CodePoint) : Bool := c = '?' || c = ':' || c = '-'

/-- Whether a plain text would be taken for something else. -/
def hasIndicators (t : Text) : Bool :=
  (Text.ofString "---").isPrefixOf t || (Text.ofString "...").isPrefixOf t
    || (match t with
        | c :: rest => isIndicator c || (isIndicatorBeforeWhite c && (rest.head?.all isWhite))
        | [] => false)
    || t.getLast? = some (CodePoint.ofChar ':')
    || someNeighbours (· = CodePoint.ofChar ':') isWhite t
    || someNeighbours isWhite (· = CodePoint.ofChar '#') t

def isMultiline (t : Text) : Bool := t.any isBreak

def allowsPlain (t : Text) : Bool :=
  t.all isPrintableAscii && !startsOrEndsWith (· = space) t && !hasIndicators t

def allowsSingle (t : Text) : Bool :=
  t.all (fun c => isPrintableAscii c || c = lineFeed)
    && !someNeighbours isBreak (· = space) t && !someNeighbours (· = space) isBreak t

/-- The style of a text, given whether it shows its tag when it stands plain. -/
def choose (showsTag : Bool) (t : Text) : Style :=
  if showsTag && allowsPlain t then .plain else if allowsSingle t then .single else .double

-- ---------------------------------------------------------------------------
-- Folding
-- ---------------------------------------------------------------------------

/-- How a scalar may go over several lines: the column of its further lines, and whether to fold. -/
structure Room where
  indent : Nat
  folds : Bool

def lineWidth : Nat := 80

def newLine (indent : Nat) : Text := lineFeed :: Text.fill space indent

def Room.isFull (room : Room) (column : Nat) : Bool := room.folds && lineWidth < column

/-- Whether a space after `before` and in front of `rest` stands alone inside a text. -/
def isSingleSpace (before : Option CodePoint) (rest : Text) : Bool :=
  before.any (· ≠ space) && rest.head?.any (· ≠ space)

/-- A plain text from a column on. -/
def plainText (room : Room) (before : Option CodePoint) (column : Nat) : Text → Text
  | [] => []
  | c :: rest =>
    if c = space && isSingleSpace before rest && room.isFull column then
      newLine room.indent ++ plainText room (some c) room.indent rest
    else c :: plainText room (some c) (column + 1) rest

/-- A text between single quotes. A quote is written twice, and one line break more than there are
in a row. -/
def singleText (room : Room) (before : Option CodePoint) (column : Nat) : Text → Text
  | [] => []
  | c :: rest =>
    if c = space && isSingleSpace before rest && room.isFull column then
      newLine room.indent ++ singleText room (some c) room.indent rest
    else if c = lineFeed then
      let breaks := if before = some lineFeed then [c] else [c, c]
      if rest.head? = some lineFeed then breaks ++ singleText room (some c) 0 rest
      else breaks ++ Text.fill space room.indent ++ singleText room (some c) room.indent rest
    else if c = '\'' then c :: c :: singleText room (some c) (column + 2) rest
    else c :: singleText room (some c) (column + 1) rest

/-- The letter of an escape for a code point that has one. -/
def escapeLetter? (c : CodePoint) : Option CodePoint :=
  if c = '"' || c = '\\' then some c
  else match c.val with
    | 0x00 => some '0'
    | 0x07 => some 'a'
    | 0x08 => some 'b'
    | 0x09 => some 't'
    | 0x0A => some 'n'
    | 0x0B => some 'v'
    | 0x0C => some 'f'
    | 0x0D => some 'r'
    | 0x1B => some 'e'
    | 0x85 => some 'N'
    | 0xA0 => some '_'
    | 0x2028 => some 'L'
    | 0x2029 => some 'P'
    | _ => none

def upperHex (width n : Nat) : Text := (Text.hex width n).map CodePoint.toAsciiUpper

/-- The escape of a code point, if it needs one. -/
def escape? (c : CodePoint) : Option Text :=
  match escapeLetter? c with
  | some letter => some ['\\', letter]
  | none =>
    if isPrintableAscii c then none
    else if c.val ≤ 0xFF then some ("\\x" ++ upperHex 2 c.val)
    else if c.val ≤ 0xFFFF then some ("\\u" ++ upperHex 4 c.val)
    else some ("\\U" ++ upperHex 8 c.val)

/-- The end of a full line between double quotes; a space at the start of the next one is marked. -/
def escapedBreak (room : Room) (rest : Text) : Text :=
  (CodePoint.ofChar '\\') :: newLine room.indent
    ++ (if rest.head? = some space then [CodePoint.ofChar '\\'] else [])

/-- The column after such a break. -/
def columnAfterBreak (room : Room) (rest : Text) : Nat :=
  room.indent + (if rest.head? = some space then 1 else 0)

/-- A text between double quotes. Its line is broken before a space, and before or after an escape;
`run` code points without escapes stand before the next one, and `column` is where they began. -/
def doubleText (room : Room) (first : Bool) (run column : Nat) : Text → Text
  | [] => []
  | c :: rest =>
    let inside := !first && !rest.isEmpty
    match escape? c with
    | some e =>
      let after := column + run + e.length
      if inside && room.isFull (after - 1) then
        e ++ escapedBreak room rest ++ doubleText room false 0 (columnAfterBreak room rest) rest
      else e ++ doubleText room false 0 after rest
    | none =>
      if inside && (c = space || run = 0) && room.isFull (column + run) then
        escapedBreak room (c :: rest)
          ++ c :: doubleText room false 1 (columnAfterBreak room (c :: rest)) rest
      else c :: doubleText room false (run + 1) column rest

def between (mark : CodePoint) (t : Text) : Text := mark :: t ++ [mark]

/-- A text in a style, from a column on. -/
def write (style : Style) (room : Room) (column : Nat) (t : Text) : Text :=
  match style with
  | .plain => plainText room none column t
  | .single => between '\'' (singleText room none (column + 1) t)
  | .double => between '"' (doubleText room true 0 (column + 1) t)

end Style

end DataShape.Yaml
