-- SUMMARY: Positions in the characters of a document, and the character classes that its syntax knows.
import DataShape.Text.Basic

/-!
# Cursors

A cursor is what is left of a document, with line, column and index. The end
reads as the character NUL, which no document holds. A byte order mark takes
no column.
-/

namespace DataShape.Yaml

-- ---------------------------------------------------------------------------
-- Characters
-- ---------------------------------------------------------------------------

/-- Whether a document may hold the code point. -/
def isAllowed (c : CodePoint) : Bool :=
  let n := c.val
  n = 0x09 || n = 0x0A || n = 0x0D || (0x20 ≤ n && n ≤ 0x7E) || n = 0x85
    || (0xA0 ≤ n && n ≤ 0xD7FF) || (0xE000 ≤ n && n ≤ 0xFFFD) || 0x10000 ≤ n

/-- The characters of a text, if a document may hold all of them. -/
def characters? (t : Text) : Option (List Char) :=
  if t.all isAllowed then Text.toChars? t else none

def atEnd (c : Char) : Bool := c = '\x00'

def isBreak (c : Char) : Bool :=
  c = '\n' || c = '\r' || c = '\x85' || c = '\u2028' || c = '\u2029'

def isSpaceOrTab (c : Char) : Bool := c = ' ' || c = '\t'

def isBreakOrEnd (c : Char) : Bool := isBreak c || atEnd c

/-- A space, a break or the end; a tab is not among them. -/
def isGap (c : Char) : Bool := c = ' ' || isBreakOrEnd c

/-- A space, a tab, a break or the end. -/
def isWhite (c : Char) : Bool := isSpaceOrTab c || isBreakOrEnd c

/-- Letters, digits, the hyphen and the underscore. -/
def isWordCharacter (c : Char) : Bool :=
  c.isAlphanum || c = '-' || c = '_'

def isUriCharacter (c : Char) : Bool :=
  c.isAlphanum || ['-', ';', '/', '?', ':', '@', '&', '=', '+', '$', ',', '_', '.', '!', '~', '*',
    '\'', '(', ')', '[', ']', '%'].contains c

def isHexDigit (c : Char) : Bool := (CodePoint.hexDigit? c).isSome

-- ---------------------------------------------------------------------------
-- Cursors
-- ---------------------------------------------------------------------------

structure Cursor where
  rest : List Char
  index : Nat
  line : Nat
  column : Nat

namespace Cursor

def start (cs : List Char) : Cursor := ⟨cs, 0, 0, 0⟩

/-- The character `n` places ahead. -/
def peekAt (c : Cursor) (n : Nat) : Char := (c.rest.drop n).headD '\x00'

def peek (c : Cursor) : Char := c.rest.headD '\x00'

/-- Past one character; a carriage return ends a line unless a line feed follows. -/
def next (c : Cursor) : Cursor :=
  match c.rest with
  | [] => c
  | x :: rest =>
    if isBreak x && !(x = '\r' && rest.headD '\x00' = '\n') then
      ⟨rest, c.index + 1, c.line + 1, 0⟩
    else if x = '\uFEFF' then ⟨rest, c.index + 1, c.line, c.column⟩
    else ⟨rest, c.index + 1, c.line, c.column + 1⟩

def skip (c : Cursor) : Nat → Cursor
  | 0 => c
  | n + 1 => c.next.skip n

/-- The characters of a class at the cursor, and the cursor after them. -/
def span (c : Cursor) (p : Char → Bool) : List Char × Cursor :=
  let taken := c.rest.takeWhile p
  (taken, c.skip taken.length)

def skipWhile (c : Cursor) (p : Char → Bool) : Cursor := (c.span p).2

def skipSpaces (c : Cursor) : Cursor := c.skipWhile (· = ' ')

/-- Past a comment, if one starts here. -/
def skipComment (c : Cursor) : Cursor :=
  if c.peek = '#' then c.skipWhile (!isBreak ·) else c

/-- The line break at the cursor, as it is kept: the separators of lines and paragraphs stay, all
others become a line feed. -/
def lineBreak? (c : Cursor) : Option (Char × Cursor) :=
  let x := c.peek
  if x = '\r' && c.peekAt 1 = '\n' then some ('\n', c.skip 2)
  else if x = '\r' || x = '\n' || x = '\x85' then some ('\n', c.next)
  else if x = '\u2028' || x = '\u2029' then some (x, c.next)
  else none

/-- Whether three characters in a row stand here, with white space or the end after them. -/
def atMarker (c : Cursor) (mark : Char) : Bool :=
  c.peek = mark && c.peekAt 1 = mark && c.peekAt 2 = mark && isWhite (c.peekAt 3)

/-- Whether the mark of a document's start or end stands here. -/
def atDocumentMark (c : Cursor) : Bool := c.atMarker '-' || c.atMarker '.'

end Cursor

end DataShape.Yaml
