-- SUMMARY: Splitting a document into tokens, with indentation and implicit keys made explicit.
import DataShape.Yaml.Lexeme

/-!
# Splitting into tokens

A mapping key need not be marked. What may turn out to be a key is remembered
with the number of its token, for each nesting level of flow collections; when
a colon follows on the same line, the missing tokens are inserted there. Until
then the token may not be used, so a fault further on hides it.
-/

namespace DataShape.Yaml

/-- What may be a mapping key without a mark. -/
structure PossibleKey where
  level : Nat
  number : Nat
  /-- A block mapping goes on here, so it has to be a key. -/
  required : Bool
  index : Nat
  line : Nat
  column : Nat

structure Scanner where
  cursor : Cursor
  /-- The tokens so far, the last one first. -/
  tokens : List Token
  count : Nat
  flowLevel : Nat
  /-- The column of the innermost block collection, or -1. -/
  indent : Int
  outerIndents : List Int
  allowsKey : Bool
  possibleKeys : List PossibleKey

namespace Scanner

def start (cs : List Char) : Scanner where
  cursor := .start cs
  tokens := []
  count := 0
  flowLevel := 0
  indent := -1
  outerIndents := []
  allowsKey := true
  possibleKeys := []

def emit (t : Token) (s : Scanner) : Scanner :=
  { s with tokens := t :: s.tokens, count := s.count + 1 }

def move (c : Cursor) (s : Scanner) : Scanner := { s with cursor := c }

def allowKey (b : Bool) (s : Scanner) : Scanner := { s with allowsKey := b }

/-- Inserts a token before the one with a number. -/
def insertAt (number : Nat) (t : Token) (s : Scanner) : Scanner :=
  let later := s.count - number
  { s with tokens := s.tokens.take later ++ t :: s.tokens.drop later, count := s.count + 1 }

-- ---------------------------------------------------------------------------
-- Possible keys
-- ---------------------------------------------------------------------------

def maxKeyLength : Nat := 1024

def isStale (s : Scanner) (k : PossibleKey) : Bool :=
  k.line ≠ s.cursor.line || maxKeyLength < s.cursor.index - k.index

/-- Forgets possible keys that the cursor has left behind; none of them may be required. -/
def dropStaleKeys (s : Scanner) : Except Fault Scanner :=
  if s.possibleKeys.any fun k => s.isStale k && k.required then malformed
  else .ok { s with possibleKeys := s.possibleKeys.filter fun k => !s.isStale k }

def possibleKey? (s : Scanner) : Option PossibleKey :=
  s.possibleKeys.find? fun k => k.level = s.flowLevel

def forgetKey (s : Scanner) : Scanner :=
  { s with possibleKeys := s.possibleKeys.filter fun k => k.level ≠ s.flowLevel }

/-- Gives up the possible key at this level; it may not be required. -/
def removeKey (s : Scanner) : Except Fault Scanner :=
  match s.possibleKey? with
  | some k => if k.required then malformed else .ok s.forgetKey
  | none => .ok s

/-- Remembers that the next token may be a key, where one is allowed. -/
def saveKey (s : Scanner) : Except Fault Scanner := do
  if s.allowsKey then
    let s ← s.removeKey
    let key : PossibleKey :=
      { level := s.flowLevel
        number := s.count
        required := s.flowLevel = 0 && s.indent = s.cursor.column
        index := s.cursor.index
        line := s.cursor.line
        column := s.cursor.column }
    return { s with possibleKeys := key :: s.possibleKeys }
  else return s

-- ---------------------------------------------------------------------------
-- Indentation
-- ---------------------------------------------------------------------------

/-- Closes the block collections that are indented deeper than a column. -/
def unwind (column : Int) (outer : List Int) (s : Scanner) : Scanner :=
  match outer with
  | [] => { s with outerIndents := [] }
  | i :: rest =>
    if column < s.indent then unwind column rest (emit .blockEnd { s with indent := i })
    else { s with outerIndents := outer }

/-- In flow collections indentation does not count. -/
def unwindTo (column : Int) (s : Scanner) : Scanner :=
  if s.flowLevel = 0 then s.unwind column s.outerIndents else s

/-- Whether a block collection at a column is a new one. -/
def deepens (column : Nat) (s : Scanner) : Bool := s.indent < column

def indentTo (column : Nat) (s : Scanner) : Scanner :=
  { s with outerIndents := s.indent :: s.outerIndents, indent := column }

/-- Starts a block collection at the cursor unless one is open at its column. -/
def openBlock (t : Token) (s : Scanner) : Scanner :=
  if s.deepens s.cursor.column then (s.indentTo s.cursor.column).emit t else s

-- ---------------------------------------------------------------------------
-- Single tokens
-- ---------------------------------------------------------------------------

/-- A token of one character. -/
def single (t : Token) (s : Scanner) : Scanner := (s.emit t).move s.cursor.next

def fetchStreamEnd (s : Scanner) : Except Fault Scanner := do
  let s ← (s.unwindTo (-1)).removeKey
  return { s with allowsKey := false, possibleKeys := [] }.emit .streamEnd

def fetchDirective (s : Scanner) : Except Fault Scanner := do
  let s ← (s.unwindTo (-1)).removeKey
  let (t, after) ← readDirective s.cursor
  return ((s.allowKey false).emit t).move after

def fetchDocumentMark (t : Token) (s : Scanner) : Except Fault Scanner := do
  let s ← (s.unwindTo (-1)).removeKey
  return ((s.allowKey false).emit t).move (s.cursor.skip 3)

def fetchFlowStart (t : Token) (s : Scanner) : Except Fault Scanner := do
  let s ← s.saveKey
  return { s with flowLevel := s.flowLevel + 1, allowsKey := true }.single t

def fetchFlowEnd (t : Token) (s : Scanner) : Except Fault Scanner := do
  let s ← s.removeKey
  return { s with flowLevel := s.flowLevel - 1, allowsKey := false }.single t

def fetchFlowEntry (s : Scanner) : Except Fault Scanner := do
  let s ← (s.allowKey true).removeKey
  return s.single .flowEntry

def fetchBlockEntry (s : Scanner) : Except Fault Scanner := do
  if s.flowLevel = 0 && !s.allowsKey then malformed
  else
    let s := if s.flowLevel = 0 then s.openBlock .blockSequenceStart else s
    let s ← (s.allowKey true).removeKey
    return s.single .blockEntry

def fetchKey (s : Scanner) : Except Fault Scanner := do
  if s.flowLevel = 0 && !s.allowsKey then malformed
  else
    let s := if s.flowLevel = 0 then s.openBlock .blockMappingStart else s
    let s ← (s.allowKey (s.flowLevel = 0)).removeKey
    return s.single .key

/-- A colon after a possible key makes it one; alone it goes with an explicit or an empty key. -/
def fetchValue (s : Scanner) : Except Fault Scanner := do
  match s.possibleKey? with
  | some k =>
    let s := (s.forgetKey).insertAt k.number .key
    let s :=
      if s.flowLevel = 0 && s.deepens k.column then
        (s.indentTo k.column).insertAt k.number .blockMappingStart
      else s
    return (s.allowKey false).single .value
  | none =>
    if s.flowLevel = 0 && !s.allowsKey then malformed
    else
      let s := if s.flowLevel = 0 then s.openBlock .blockMappingStart else s
      let s ← (s.allowKey (s.flowLevel = 0)).removeKey
      return s.single .value

/-- A token that may be a key, or may start one. -/
def fetchNode (read : Cursor → Except Fault (Token × Cursor)) (s : Scanner) :
    Except Fault Scanner := do
  let s ← s.saveKey
  let (t, after) ← read s.cursor
  return ((s.allowKey false).emit t).move after

def fetchBlockScalar (folded : Bool) (s : Scanner) : Except Fault Scanner := do
  let s ← (s.allowKey true).removeKey
  let (t, after) ← blockScalar folded s.indent s.cursor
  return (s.emit t).move after

def fetchPlain (s : Scanner) : Except Fault Scanner := do
  let s ← s.saveKey
  let (t, broken, after) :=
    readPlain (s.flowLevel ≠ 0) (s.indent + 1) (s.cursor.rest.length + 1) s.cursor [] [] false
  return ((s.allowKey broken).emit (.scalar t true)).move after

-- ---------------------------------------------------------------------------
-- The next token
-- ---------------------------------------------------------------------------

/-- Past blanks, comments and breaks. A break outside flow collections allows a key again. -/
def skipToToken (fuel : Nat) (s : Scanner) : Scanner :=
  match fuel with
  | 0 => s
  | fuel + 1 =>
    let c := s.cursor.skipSpaces.skipComment
    match c.lineBreak? with
    | some (_, after) =>
      skipToToken fuel { s with cursor := after, allowsKey := s.allowsKey || s.flowLevel = 0 }
    | none => s.move c

/-- A byte order mark at the very start is no part of the document. -/
def skipMark (s : Scanner) : Scanner :=
  if s.cursor.index = 0 && s.cursor.peek = '\uFEFF' then s.move s.cursor.next else s

/-- Whether a plain scalar can start with `x`, with `y` after it. -/
def startsPlain (inFlow : Bool) (x y : Char) : Bool :=
  !(isWhite x || ['-', '?', ':', ',', '[', ']', '\x7b', '\x7d', '#', '&', '*', '!', '|', '>', '\'',
      '"', '%', '@', '`'].contains x)
    || (!isWhite y && (x = '-' || (!inFlow && (x = '?' || x = ':'))))

/-- One more token, with the tokens that go before it. -/
def fetch (s : Scanner) : Except Fault Scanner := do
  let s := s.skipMark.skipToToken (s.cursor.rest.length + 1)
  let s ← s.dropStaleKeys
  let s := s.unwindTo s.cursor.column
  let inFlow := s.flowLevel ≠ 0
  let x := s.cursor.peek
  let y := s.cursor.peekAt 1
  if atEnd x then s.fetchStreamEnd
  else if x = '%' && s.cursor.column = 0 then s.fetchDirective
  else if s.cursor.column = 0 && s.cursor.atMarker '-' then s.fetchDocumentMark .documentStart
  else if s.cursor.column = 0 && s.cursor.atMarker '.' then s.fetchDocumentMark .documentEnd
  else if x = '[' then s.fetchFlowStart .flowSequenceStart
  else if x = '\x7b' then s.fetchFlowStart .flowMappingStart
  else if x = ']' then s.fetchFlowEnd .flowSequenceEnd
  else if x = '\x7d' then s.fetchFlowEnd .flowMappingEnd
  else if x = ',' then s.fetchFlowEntry
  else if x = '-' && isWhite y then s.fetchBlockEntry
  else if x = '?' && (inFlow || isWhite y) then s.fetchKey
  else if x = ':' && (inFlow || isWhite y) then s.fetchValue
  else if x = '*' then s.fetchNode fun c => (readName c).map fun (n, c) => (.alias n, c)
  else if x = '&' then s.fetchNode fun c => (readName c).map fun (n, c) => (.anchor n, c)
  else if x = '!' then s.fetchNode readTag
  else if x = '|' && !inFlow then s.fetchBlockScalar false
  else if x = '>' && !inFlow then s.fetchBlockScalar true
  else if x = '\'' then s.fetchNode (quotedScalar false)
  else if x = '"' then s.fetchNode (quotedScalar true)
  else if startsPlain inFlow x y then s.fetchPlain
  else malformed

/-- The tokens that may be used before a fault: those before the first possible key that the cursor
has not left behind. -/
def usable (s : Scanner) : List Token :=
  let open? := ((s.possibleKeys.filter fun k => !s.isStale k).map (·.number)).min?
  s.tokens.reverse.take (open?.getD s.count)

/-- All tokens. Each fetch takes a character or reaches the end, so their number is fuel enough. -/
def run (fuel : Nat) (s : Scanner) : List Token :=
  match fuel with
  | 0 => s.tokens.reverse
  | fuel + 1 =>
    match s.tokens with
    | .streamEnd :: _ => s.tokens.reverse
    | _ =>
      match s.fetch with
      | .ok s => run fuel s
      | .error e => s.usable ++ [.fault e]

theorem run_succ (fuel : Nat) (s : Scanner) :
    run (fuel + 1) s = match s.tokens with
      | .streamEnd :: _ => s.tokens.reverse
      | _ =>
        match s.fetch with
        | .ok s => run fuel s
        | .error e => s.usable ++ [.fault e] := (rfl)

theorem run_of_fetch {s s' : Scanner} (hunended : s.tokens.head? ≠ some .streamEnd)
    (hfetch : s.fetch = .ok s') (fuel : Nat) : run (fuel + 1) s = run fuel s' := by
  rw [run_succ, hfetch]
  clear hfetch
  generalize s.tokens = ts at *
  split
  · exact absurd rfl hunended
  · rfl

theorem run_of_streamEnd {s : Scanner} {ts : List Token} (h : s.tokens = .streamEnd :: ts)
    (fuel : Nat) : run fuel s = s.tokens.reverse := by
  cases fuel with
  | zero => rfl
  | succ fuel => rw [run_succ, h]

end Scanner

/-- The tokens of a document, ending with the end of the stream or with a fault. -/
def tokens (cs : List Char) : List Token := (Scanner.start cs).run (cs.length + 2)

end DataShape.Yaml
