-- SUMMARY: Values as messages show them.
import DataShape.Host
import DataShape.Value.Basic
import DataShape.Number.Layout
import DataShape.Number.Numeral
import DataShape.Text.Quoted

/-!
# Values in messages

`inspect` shows the structure of a value, with texts quoted. `display` is the
same but for texts, dates and moments at the top, which stand plain. Neither
can show an integer beyond the digit limit, or what is nested too deeply.
-/

namespace DataShape.Value

/-- Numbers are written with the fewest digits that identify them, positionally from `0.0001` up to
`10 ^ 16`. -/
def numberLayout : NumberLayout where
  plainFrom := -4
  plainBelow := 16
  pointBeforeExponent := false
  nan := "nan"
  infinity := "inf"
  negativeInfinity := "-inf"

/-- Shown items between brackets; a tuple of one has a comma after it. -/
def bracketed : ArrayForm → List Text → Text
  | .list, shown => "[" ++ Text.joinWith ", " shown ++ "]"
  | .tuple, [one] => "(" ++ one ++ ",)"
  | .tuple, shown => "(" ++ Text.joinWith ", " shown ++ ")"

/-- Shown entries between braces. -/
def braced (form : ObjectForm) (shown : List Text) : Text :=
  let body : Text := "\x7b" ++ Text.joinWith ", " shown ++ "\x7d"
  match form with
  | .plain => body
  | .readOnly => "mappingproxy(" ++ body ++ ")"

mutual

def inspect : Value → Text
  | .null => "None"
  | .bool b => if b then "True" else "False"
  | .int n => Text.ofInt n
  | .float x => numberLayout.render x
  | .str t => t.quoted
  | .array form items => bracketed form (inspectList items)
  | .object form entries => braced form (inspectEntries entries)
  | .absent => "ABSENT"
  | .bytes .fixed data => Text.quotedBytes data
  | .bytes .growable data => "bytearray(" ++ Text.quotedBytes data ++ ")"
  | .date d => d.inspect
  | .moment m => m.inspect
  | .set [] => "set()"
  | .set elements => "\x7b" ++ Text.joinWith ", " (inspectList elements) ++ "\x7d"
  | .reference _ => "<object object>"
termination_by structural v => v

def inspectList : List Value → List Text
  | [] => []
  | v :: vs => inspect v :: inspectList vs
termination_by structural vs => vs

def inspectEntries : List (Value × Value) → List Text
  | [] => []
  | (k, v) :: rest => (inspect k ++ ": " ++ inspect v) :: inspectEntries rest
termination_by structural es => es

end

def display : Value → Text
  | .str t => t
  | .date d => d.text
  | .moment m => m.text
  | v => v.inspect

-- ---------------------------------------------------------------------------
-- What cannot be shown
-- ---------------------------------------------------------------------------

/-- Why something cannot be shown. -/
inductive ShowFault where
  /-- An integer in it is beyond the digit limit. -/
  | tooManyDigits
  /-- Showing it takes more calls inside one another than the host allows. -/
  | tooDeep
  deriving DecidableEq, Repr

mutual

/-- What keeps a value from being shown within `room` calls inside one another, the first thing met.
A value with parts takes a call, a read-only object one more for the plain one in it, and a set one
more for the list of its elements. -/
def showFault? : Value → Nat → Option ShowFault
  | .int n, _ => if Numeral.isWritable n then none else some .tooManyDigits
  | .array _ items, room + 1 => showFaultOfItems? items room
  | .object .plain entries, room + 1 => showFaultOfEntries? entries room
  | .object .readOnly entries, room + 2 => showFaultOfEntries? entries room
  | .set [], _ => none
  | .set elements, room + 2 => showFaultOfItems? elements room
  | .array _ _, _ => some .tooDeep
  | .object _ _, _ => some .tooDeep
  | .set _, _ => some .tooDeep
  | _, _ => none
termination_by structural v => v

def showFaultOfItems? : List Value → Nat → Option ShowFault
  | [], _ => none
  | v :: vs, room => (showFault? v room).or (showFaultOfItems? vs room)
termination_by structural vs => vs

def showFaultOfEntries? : List (Value × Value) → Nat → Option ShowFault
  | [], _ => none
  | (k, v) :: es, room =>
    ((showFault? k room).or (showFault? v room)).or (showFaultOfEntries? es room)
termination_by structural es => es

end

def isShowable (host : Host) (v : Value) : Bool := (v.showFault? host.showing).isNone

end DataShape.Value
