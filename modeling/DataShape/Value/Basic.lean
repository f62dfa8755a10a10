-- SUMMARY: Values: decoded data of every form that can be handed in, their JSON kinds and type names.
import DataShape.Calendar
import DataShape.Number.Binary64

/-!
# Values

A value is decoded data: what JSON can write, the same in other containers
(tuples, read-only mappings), and data that JSON cannot write at all. Objects
keep their entries in order; the keys of a well-formed object are distinct.
The marker `absent` stands for a field that is not there.
-/

namespace DataShape

inductive ArrayForm where
  | list
  | tuple
  deriving DecidableEq, Repr

inductive ObjectForm where
  | plain
  | readOnly
  deriving DecidableEq, Repr

inductive BytesForm where
  | fixed
  | growable
  deriving DecidableEq, Repr

inductive Value where
  | null
  | bool (b : Bool)
  | int (n : Int)
  | float (x : Binary64)
  | str (t : Text)
  | array (form : ArrayForm) (items : List Value)
  | object (form : ObjectForm) (entries : List (Value × Value))
  | absent
  | bytes (form : BytesForm) (data : List UInt8)
  | date (d : Date)
  | moment (m : Moment)
  | set (elements : List Value)
  /-- Something known only by its identity. -/
  | reference (id : Nat)

instance : Inhabited Value := ⟨.null⟩

/-- The six kinds of JSON data. -/
inductive JsonKind where
  | null
  | boolean
  | number
  | string
  | array
  | object
  deriving DecidableEq, Repr

def JsonKind.name : JsonKind → String
  | .null => "null"
  | .boolean => "boolean"
  | .number => "number"
  | .string => "string"
  | .array => "array"
  | .object => "object"

namespace Value

def list (items : List Value) : Value := .array .list items

def ofString (s : String) : Value := .str s

def int? : Value → Option Int
  | .int n => some n
  | _ => none

/-- The JSON kind of a value; none for what JSON cannot write. -/
def kind? : Value → Option JsonKind
  | .null => some .null
  | .bool _ => some .boolean
  | .int _ => some .number
  | .float _ => some .number
  | .str _ => some .string
  | .array _ _ => some .array
  | .object _ _ => some .object
  | _ => none

def isNumber (v : Value) : Bool := v.kind? = some .number

def isSequence (v : Value) : Bool := v.kind? = some .array

def isRecord (v : Value) : Bool := v.kind? = some .object

def isNaN : Value → Bool
  | .float x => x.isNaN
  | _ => false

/-- The name that messages give to the type of a value. -/
def typeName : Value → String
  | .null => "NoneType"
  | .bool _ => "bool"
  | .int _ => "int"
  | .float _ => "float"
  | .str _ => "str"
  | .array .list _ => "list"
  | .array .tuple _ => "tuple"
  | .object .plain _ => "dict"
  | .object .readOnly _ => "mappingproxy"
  | .absent => "_Absent"
  | .bytes .fixed _ => "bytes"
  | .bytes .growable _ => "bytearray"
  | .date _ => "date"
  | .moment _ => "datetime"
  | .set _ => "set"
  | .reference _ => "object"

end Value

end DataShape
