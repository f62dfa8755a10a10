-- SUMMARY: Equalities on values: the loose one that parts and keys are compared by, the one of whole values, and JSON equality.
import DataShape.Value.Basic

/-!
# Equality of values

Loose equality compares numbers by value across types, `true` as one and
`false` as zero; lists differ from tuples, the form of an object or of a byte
string does not count, and the order of entries and elements does not either.
It is how containers compare their parts, and how keys of an object are looked
up: an object is equal to itself there, also one that is not a number.

Two values as such are compared in the same way, but for one thing: what is not
a number equals nothing, not even itself.

JSON equality asks for the same JSON kind on both sides at every depth, so a
boolean never equals a number, while a tuple can equal a list. Its leaves, and
values without a kind, are compared as such.
-/

namespace DataShape.Value

/-- The magnitude of a number; booleans count as zero and one. -/
def magnitude? : Value → Option Magnitude
  | .bool b => some (Magnitude.ofInt (if b then 1 else 0))
  | .int n => some (Magnitude.ofInt n)
  | .float x => some x.magnitude
  | _ => none

/-- Loose equality of values that hold no other values. Numbers are equal if their magnitudes are
one: the same point, or the same object that is not a number. -/
def scalarEq (v w : Value) : Bool :=
  match v, w with
  | .null, .null => true
  | .absent, .absent => true
  | .str s, .str t => s = t
  | .bytes _ a, .bytes _ b => a = b
  | .date d, .date e => d = e
  | .moment m, .moment n => m.same n
  | .reference i, .reference j => i = j
  | v, w =>
    match v.magnitude?, w.magnitude? with
    | some x, some y => x = y
    | _, _ => false

-- ---------------------------------------------------------------------------
-- Loose equality
-- ---------------------------------------------------------------------------

mutual

def looseEq : Value → Value → Bool
  | .array f xs, .array g ys => f = g && looseEqList xs ys
  | .object _ xs, .object _ ys => xs.length = ys.length && looseEqEntries xs ys
  | .set xs, .set ys => xs.length = ys.length && eachLooselyIn xs ys
  | .null, w => scalarEq .null w
  | .bool b, w => scalarEq (.bool b) w
  | .int n, w => scalarEq (.int n) w
  | .float x, w => scalarEq (.float x) w
  | .str t, w => scalarEq (.str t) w
  | .absent, w => scalarEq .absent w
  | .bytes f a, w => scalarEq (.bytes f a) w
  | .date d, w => scalarEq (.date d) w
  | .moment m, w => scalarEq (.moment m) w
  | .reference i, w => scalarEq (.reference i) w
  | _, _ => false
termination_by structural v => v

def looseEqList : List Value → List Value → Bool
  | [], [] => true
  | v :: vs, w :: ws => looseEq v w && looseEqList vs ws
  | _, _ => false
termination_by structural vs => vs

/-- Whether each entry has a loosely equal one under the same key on the right. -/
def looseEqEntries : List (Value × Value) → List (Value × Value) → Bool
  | [], _ => true
  | (k, v) :: rest, ws =>
    (match ws.find? fun e => looseEq k e.1 with
      | some e => looseEq v e.2
      | none => false)
    && looseEqEntries rest ws
termination_by structural vs => vs

def eachLooselyIn : List Value → List Value → Bool
  | [], _ => true
  | v :: vs, ws => ws.any (looseEq v) && eachLooselyIn vs ws
termination_by structural vs => vs

end

/-- Equality of two values as such. -/
def eq (v w : Value) : Bool := !v.isNaN && v.looseEq w

-- ---------------------------------------------------------------------------
-- Entries by key
-- ---------------------------------------------------------------------------

/-- What is stored under a key. -/
def lookup {α : Type} (key : Value) (entries : List (Value × α)) : Option α :=
  (entries.find? fun e => looseEq key e.1).map (·.2)

/-- Stores something under a key. A key that is there already keeps its place and its form. -/
def put {α : Type} (key : Value) (a : α) : List (Value × α) → List (Value × α)
  | [] => [(key, a)]
  | (k, b) :: rest => if looseEq key k then (k, a) :: rest else (k, b) :: put key a rest

/-- Entries in order of first appearance, each with the last thing given for its key. -/
def ofEntries {α : Type} (entries : List (Value × α)) : List (Value × α) :=
  entries.foldl (fun acc e => put e.1 e.2 acc) []

/-- The elements of a set, without repetitions. Integers stand in ascending order, all else in the
order given. -/
def ofElements (elements : List Value) : List Value :=
  let distinct := elements.foldl (fun acc v => if acc.any (looseEq v) then acc else acc ++ [v]) []
  match distinct.mapM int? with
  | some ns => (ns.mergeSort (· ≤ ·)).map .int
  | none => distinct

/-- Whether two objects have the same keys, given that the keys of each are distinct. -/
def sameKeys (left right : List (Value × Value)) : Bool :=
  left.length = right.length && left.all fun e => (lookup e.1 right).isSome

-- ---------------------------------------------------------------------------
-- JSON equality
-- ---------------------------------------------------------------------------

mutual

def jsonEq : Value → Value → Bool
  | .array _ xs, .array _ ys => xs.length = ys.length && jsonEqList xs ys
  | .object _ xs, .object _ ys => sameKeys xs ys && jsonEqEntries xs ys
  | v, w => v.kind? = w.kind? && v.eq w
termination_by structural v => v

def jsonEqList : List Value → List Value → Bool
  | v :: vs, w :: ws => jsonEq v w && jsonEqList vs ws
  | _, _ => true
termination_by structural vs => vs

def jsonEqEntries : List (Value × Value) → List (Value × Value) → Bool
  | [], _ => true
  | (k, v) :: rest, ws =>
    (match lookup k ws with
      | some w => jsonEq v w
      | none => false)
    && jsonEqEntries rest ws
termination_by structural vs => vs

end

end DataShape.Value
