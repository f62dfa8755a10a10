-- SUMMARY: Reading single lexemes off a cursor: directives, names, tags, and scalars in the five styles.
import DataShape.Number.Numeral
import DataShape.Text.Encoding
import DataShape.Yaml.Cursor
import DataShape.Yaml.Token

/-!
# Lexemes

Each reader takes the cursor at its first character and gives back what it
read with the cursor after it.
-/

namespace DataShape.Yaml

def text (cs : List Char) : Text := Text.ofChars cs

-- ---------------------------------------------------------------------------
-- Names and tags
-- ---------------------------------------------------------------------------

/-- What may follow the name of an anchor or alias. -/
def endsName (c : Char) : Bool :=
  isWhite c || ['?', ':', ',', ']', '\x7d', '%', '@', '`'].contains c

/-- The name after the mark of an anchor or alias. -/
def readName (c : Cursor) : Except Fault (Text × Cursor) :=
  let (name, after) := c.next.span isWordCharacter
  if name.isEmpty || !endsName after.peek then malformed else .ok (text name, after)

/-- The bytes of escapes in a row, two hexadecimal digits after each percent sign. -/
def readUriBytes (fuel : Nat) (c : Cursor) (acc : List UInt8) :
    Except Fault ((List UInt8) × Cursor) :=
  match fuel with
  | 0 => malformed
  | fuel + 1 =>
    if c.peek = '%' then
      match CodePoint.hexDigit? (c.peekAt 1), CodePoint.hexDigit? (c.peekAt 2) with
      | some h, some l => readUriBytes fuel (c.skip 3) (UInt8.ofNat (h * 16 + l) :: acc)
      | _, _ => malformed
    else .ok (acc.reverse, c)

/-- The text that escapes in a row encode. -/
def readUriEscapes (c : Cursor) : Except Fault (Text × Cursor) := do
  let (bytes, after) ← readUriBytes (c.rest.length + 1) c []
  match Text.Encoding.decodeFrom .utf8 bytes.length 0 bytes [] with
  | .ok t => if t.any CodePoint.isSurrogate then malformed else return (t, after)
  | .error _ => malformed

/-- The characters of an address, escapes decoded; at least one. -/
def readUri (fuel : Nat) (c : Cursor) (acc : Text) : Except Fault (Text × Cursor) :=
  match fuel with
  | 0 => malformed
  | fuel + 1 =>
    let (plain, after) := c.span fun x => isUriCharacter x && x ≠ '%'
    if after.peek = '%' then
      match readUriEscapes after with
      | .error e => .error e
      | .ok (t, after) => readUri fuel after (acc ++ text plain ++ t)
    else
      let all := acc ++ text plain
      if all.isEmpty && after.index = c.index then malformed else .ok (all, after)

def uri (c : Cursor) : Except Fault (Text × Cursor) := readUri (c.rest.length + 1) c []

/-- A handle: `!`, or a word between two of them. -/
def readHandle (c : Cursor) : Except Fault (Text × Cursor) :=
  if c.peek ≠ '!' then malformed
  else if c.peekAt 1 = ' ' then .ok (text ['!'], c.next)
  else
    let (word, after) := c.next.span isWordCharacter
    if after.peek ≠ '!' then malformed
    else .ok (text ('!' :: word ++ ['!']), after.next)

/-- A tag: in full between angle brackets, alone, or a handle with the rest after it. -/
def readTag (c : Cursor) : Except Fault (Token × Cursor) := do
  let x := c.peekAt 1
  let (token, after) ←
    if x = '<' then do
      let (t, after) ← uri (c.skip 2)
      if after.peek ≠ '>' then malformed else pure (Token.tag none t, after.next)
    else if isWhite x then pure (Token.tag none (text ['!']), c.next)
    else do
      let ahead := c.rest.tail.takeWhile fun y => !isGap y
      let (handle, after) ←
        if ahead.contains '!' then readHandle c else pure (text ['!'], c.next)
      let (t, after) ← uri after
      pure (Token.tag (some handle) t, after)
  if isGap after.peek then return (token, after) else malformed

-- ---------------------------------------------------------------------------
-- Directives
-- ---------------------------------------------------------------------------

/-- The rest of a line that holds nothing but perhaps a comment, and its break. -/
def skipIgnoredLine (c : Cursor) : Except Fault Cursor :=
  let c := c.skipSpaces.skipComment
  match c.lineBreak? with
  | some (_, after) => .ok after
  | none => if atEnd c.peek then .ok c else malformed

def readVersionNumber (c : Cursor) : Except Fault (Nat × Cursor) :=
  let (digits, after) := c.span Char.isDigit
  if digits.isEmpty then malformed
  else if Numeral.digitLimit < digits.length then invalid (.tooManyDigits digits.length)
  else .ok ((Text.number? 10 (text digits)).getD 0, after)

def readVersion (c : Cursor) : Except Fault (Directive × Cursor) := do
  let (major, after) ← readVersionNumber c.skipSpaces
  if after.peek ≠ '.' then malformed
  else
    let (minor, after) ← readVersionNumber after.next
    if isGap after.peek then return (.version major minor, after) else malformed

def readTagDirective (c : Cursor) : Except Fault (Directive × Cursor) := do
  let (handle, after) ← readHandle c.skipSpaces
  if after.peek ≠ ' ' then malformed
  else
    let (leading, after) ← uri after.skipSpaces
    if isGap after.peek then return (.tag handle leading, after) else malformed

/-- A directive with the rest of its line. -/
def readDirective (c : Cursor) : Except Fault (Token × Cursor) := do
  let (name, after) := c.next.span isWordCharacter
  if name.isEmpty || !isGap after.peek then malformed
  else
    let (directive, after) ←
      if name = ['Y', 'A', 'M', 'L'] then readVersion after
      else if name = ['T', 'A', 'G'] then readTagDirective after
      else pure (.reserved, after.skipWhile (!isBreak ·))
    return (.directive directive, ← skipIgnoredLine after)

-- ---------------------------------------------------------------------------
-- Quoted scalars
-- ---------------------------------------------------------------------------

/-- What an escape of one letter stands for. -/
def simpleEscape? (c : Char) : Option Char :=
  match c with
  | '0' => some '\x00'
  | 'a' => some '\x07'
  | 'b' => some '\x08'
  | 't' => some '\t'
  | '\t' => some '\t'
  | 'n' => some '\n'
  | 'v' => some '\x0B'
  | 'f' => some '\x0C'
  | 'r' => some '\r'
  | 'e' => some '\x1B'
  | ' ' => some ' '
  | '"' => some '"'
  | '\\' => some '\\'
  | '/' => some '/'
  | 'N' => some '\x85'
  | '_' => some '\u00A0'
  | 'L' => some '\u2028'
  | 'P' => some '\u2029'
  | _ => none

/-- The number of digits after the letter of a numeric escape. -/
def escapeDigits? (c : Char) : Option Nat :=
  match c with
  | 'x' => some 2
  | 'u' => some 4
  | 'U' => some 8
  | _ => none

/-- The breaks from the start of a line on, with the blanks around them; a document mark may not
stand there. -/
def readBreaks (fuel : Nat) (c : Cursor) (acc : Text) : Except Fault (Text × Cursor) :=
  match fuel with
  | 0 => malformed
  | fuel + 1 =>
    if c.atDocumentMark then malformed
    else
      let c := c.skipWhile isSpaceOrTab
      match c.lineBreak? with
      | some (b, after) => readBreaks fuel after (acc ++ [CodePoint.ofChar b])
      | none => .ok (acc, c)

/-- The text that a line break in a quoted or plain scalar stands for, given the breaks after it:
a single line feed is a space, of several the first is dropped. -/
def foldBreak (first : Char) (others : Text) : Text :=
  if first ≠ '\n' then CodePoint.ofChar first :: others
  else if others.isEmpty then [CodePoint.ofChar ' ']
  else others

/-- An escape in a scalar between double quotes, from its backslash on. -/
def readQuotedEscape (fuel : Nat) (c : Cursor) : Except Fault (Text × Cursor) :=
  let after := c.next
  let x := after.peek
  match simpleEscape? x, escapeDigits? x with
  | some y, _ => .ok ([CodePoint.ofChar y], after.next)
  | none, some width =>
    let digits := after.rest.tail.take width
    if digits.length < width || !digits.all isHexDigit then malformed
    else
      let n := (Text.number? 16 (text digits)).getD 0
      match CodePoint.ofNat? n with
      | some y => .ok ([y], after.skip (width + 1))
      | none => if n < 0x80000000 then invalid .noCodePoint else invalid .hugeCodePoint
  | none, none =>
    match after.lineBreak? with
    | some (_, line) => readBreaks fuel line []
    | none => malformed

/-- A scalar between quotes, from after the opening one; the text so far stands in reverse. -/
def readQuoted (double : Bool) (fuel : Nat) (c : Cursor) (acc : Text) :
    Except Fault (Text × Cursor) :=
  match fuel with
  | 0 => malformed
  | fuel + 1 =>
    let x := c.peek
    if atEnd x then malformed
    else if double && x = '"' then .ok (acc.reverse, c.next)
    else if !double && x = '\'' then
      if c.peekAt 1 = '\'' then readQuoted double fuel (c.skip 2) (CodePoint.ofChar '\'' :: acc)
      else .ok (acc.reverse, c.next)
    else if double && x = '\\' then
      match readQuotedEscape (fuel + 1) c with
      | .ok (t, after) => readQuoted double fuel after (t.reverse ++ acc)
      | .error e => .error e
    else if isSpaceOrTab x || isBreak x then
      let (blanks, after) := c.span isSpaceOrTab
      if atEnd after.peek then malformed
      else match after.lineBreak? with
        | none => readQuoted double fuel after ((text blanks).reverse ++ acc)
        | some (b, line) =>
          match readBreaks (fuel + 1) line [] with
          | .ok (others, after) =>
            readQuoted double fuel after ((foldBreak b others).reverse ++ acc)
          | .error e => .error e
    else readQuoted double fuel c.next (CodePoint.ofChar x :: acc)

def quotedScalar (double : Bool) (c : Cursor) : Except Fault (Token × Cursor) := do
  let (t, after) ← readQuoted double (c.rest.length + 1) c.next []
  return (.scalar t false, after)

-- ---------------------------------------------------------------------------
-- Plain scalars
-- ---------------------------------------------------------------------------

/-- Whether a plain scalar ends before the character `x`, with `y` after it. -/
def endsPlain (inFlow : Bool) (x y : Char) : Bool :=
  isWhite x
    || (x = ':' && (isWhite y || (inFlow && [',', '[', ']', '\x7b', '\x7d'].contains y)))
    || (inFlow && [',', '?', '[', ']', '\x7b', '\x7d'].contains x)

/-- How many characters of a plain scalar stand in a row. -/
def plainLength (inFlow : Bool) : List Char → Nat
  | [] => 0
  | x :: rest =>
    if endsPlain inFlow x (rest.headD '\x00') then 0 else plainLength inFlow rest + 1

/-- The breaks after the first one in a plain scalar; none when a document mark stops the scalar. -/
def plainBreaks (fuel : Nat) (c : Cursor) (acc : Text) : Option Text × Cursor :=
  match fuel with
  | 0 => (some acc, c)
  | fuel + 1 =>
    let c := c.skipSpaces
    match c.lineBreak? with
    | none => (some acc, c)
    | some (b, after) =>
      let acc := acc ++ [CodePoint.ofChar b]
      if after.atDocumentMark then (none, after) else plainBreaks fuel after acc

/-- The blanks inside a plain scalar as text, empty where the scalar cannot go on, and whether a
line break was among them. -/
def plainSpaces (c : Cursor) : Text × Bool × Cursor :=
  let (spaces, after) := c.span (· = ' ')
  match after.lineBreak? with
  | none => (text spaces, false, after)
  | some (b, line) =>
    if line.atDocumentMark then ([], true, line)
    else match plainBreaks (line.rest.length + 1) line [] with
      | (none, c) => ([], true, c)
      | (some others, c) => (foldBreak b others, true, c)

/-- A plain scalar inside an indentation, with the news whether a simple key may follow: it may
if the scalar is followed by a line break. -/
def readPlain (inFlow : Bool) (indent : Int) (fuel : Nat) (c : Cursor) (spaces acc : Text)
    (broken : Bool) : Text × Bool × Cursor :=
  match fuel with
  | 0 => (acc, broken, c)
  | fuel + 1 =>
    let length := plainLength inFlow c.rest
    if c.peek = '#' || length = 0 then (acc, broken, c)
    else
      let acc := acc ++ spaces ++ text (c.rest.take length)
      let (spaces, broken, after) := plainSpaces (c.skip length)
      if spaces.isEmpty || after.peek = '#' || (!inFlow && (after.column : Int) < indent) then
        (acc, broken, after)
      else readPlain inFlow indent fuel after spaces acc broken

-- ---------------------------------------------------------------------------
-- Block scalars
-- ---------------------------------------------------------------------------

inductive Chomping where
  | strip
  | clip
  | keep
  deriving DecidableEq

def chomping? (c : Char) : Option Chomping :=
  if c = '+' then some .keep else if c = '-' then some .strip else none

/-- The indentation digit of a header, if one stands here; it may not be zero. -/
def readIndicator (c : Cursor) : Except Fault ((Option Nat) × Cursor) :=
  if c.peek.isDigit then
    if c.peek = '0' then malformed else .ok (some (c.peek.toNat - '0'.toNat), c.next)
  else .ok (none, c)

/-- The header of a block scalar: chomping and indentation in either order. -/
def readHeader (c : Cursor) : Except Fault ((Chomping × Option Nat) × Cursor) := do
  let ((chomping, increment), after) ←
    match chomping? c.peek with
    | some chomping => do
      let (increment, after) ← readIndicator c.next
      pure ((chomping, increment), after)
    | none => do
      let (increment, after) ← readIndicator c
      match increment, chomping? after.peek with
      | some n, some chomping => pure ((chomping, some n), after.next)
      | _, _ => pure ((Chomping.clip, increment), after)
  if isGap after.peek then return ((chomping, increment), after) else malformed

/-- The leading empty lines of a block scalar, and the largest column that spaces reach in them. -/
def leadingBreaks (fuel : Nat) (c : Cursor) (widest : Nat) (acc : Text) : Text × Nat × Cursor :=
  match fuel with
  | 0 => (acc, widest, c)
  | fuel + 1 =>
    if c.peek = ' ' then
      let c := c.next
      leadingBreaks fuel c (max widest c.column) acc
    else match c.lineBreak? with
      | some (b, after) => leadingBreaks fuel after widest (acc ++ [CodePoint.ofChar b])
      | none => (acc, widest, c)

/-- Past spaces up to a column. -/
def skipIndent (fuel indent : Nat) (c : Cursor) : Cursor :=
  match fuel with
  | 0 => c
  | fuel + 1 => if c.column < indent && c.peek = ' ' then skipIndent fuel indent c.next else c

/-- The empty lines at the cursor and the indentation of the next line. -/
def blockBreaks (fuel indent : Nat) (c : Cursor) (acc : Text) : Text × Cursor :=
  match fuel with
  | 0 => (acc, c)
  | fuel + 1 =>
    let c := skipIndent indent indent c
    match c.lineBreak? with
    | some (b, after) => blockBreaks fuel indent after (acc ++ [CodePoint.ofChar b])
    | none => (acc, c)

/-- What joins two lines of a block scalar, given the break between them and the empty lines after
it. Folding turns the break into a space unless one of the lines starts with a blank. -/
def joinLines (folded : Bool) (lineBreak : Text) (breaks : Text) (bothPlain : Bool) : Text :=
  if folded && lineBreak = [CodePoint.ofChar '\n'] && bothPlain then
    (if breaks.isEmpty then [CodePoint.ofChar ' '] else []) ++ breaks
  else lineBreak ++ breaks

/-- The lines of a block scalar. Gives back the text, the break after the last line and the empty
lines after that. -/
def blockLines (folded : Bool) (indent fuel : Nat) (c : Cursor) (acc : Text) :
    Text × Text × Text × Cursor :=
  match fuel with
  | 0 => (acc, [], [], c)
  | fuel + 1 =>
    let plainHere := !isSpaceOrTab c.peek
    let (line, after) := c.span (!isBreak ·)
    let acc := acc ++ text line
    let (lineBreak, after) := match after.lineBreak? with
      | some (b, after) => ([CodePoint.ofChar b], after)
      | none => ([], after)
    let (breaks, after) := blockBreaks (after.rest.length + 1) indent after []
    if after.column = indent && !atEnd after.peek then
      let joint := joinLines folded lineBreak breaks (plainHere && !isSpaceOrTab after.peek)
      blockLines folded indent fuel after (acc ++ joint)
    else (acc, lineBreak, breaks, after)

/-- A block scalar inside a collection with the given indentation. -/
def blockScalar (folded : Bool) (outer : Int) (c : Cursor) : Except Fault (Token × Cursor) := do
  let ((chomping, increment), after) ← readHeader c.next
  let line ← skipIgnoredLine after
  let least := (max (outer + 1) 1).toNat
  let (leading, indent, first) := match increment with
    | some n =>
      let indent := least + n - 1
      let (breaks, c) := blockBreaks (line.rest.length + 1) indent line []
      (breaks, indent, c)
    | none =>
      let (breaks, widest, c) := leadingBreaks (line.rest.length + 1) line 0 []
      (breaks, max least widest, c)
  let (body, lineBreak, trailing, after) :=
    if first.column = indent && !atEnd first.peek then
      blockLines folded indent (first.rest.length + 1) first leading
    else ([], [], leading, first)
  let ending := match chomping with
    | .strip => []
    | .clip => lineBreak
    | .keep => lineBreak ++ trailing
  return (.scalar (body ++ ending) false, after)

end DataShape.Yaml
