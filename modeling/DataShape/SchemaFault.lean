-- SUMMARY: What can be wrong with a schema or a definition document, where, the message that says so, and what is raised.
import DataShape.Definition.Vocabulary
import DataShape.Shape.Inspect
import DataShape.Pointer

/-!
# Schema faults

A fault is a problem with or without a location. The message ends with the
location: the root of the document has a wording of its own.

An operation that finds a fault makes the message and raises both. Where the
message would have to show what cannot be shown, the host fails instead, and
nothing is said about the schema.
-/

namespace DataShape

inductive SchemaProblem where
  /-- A value was handed in where a schema is expected. -/
  | notASchema (given : Value)
  /-- A node of a shape is no shape. -/
  | unknownNode (node : Shape)
  | noJsonForm (value : Value)
  | keyNotText (key : Value)
  | tooDeep (limit : Int)
  | unknownName (name : Text)
  | notADefinition (value : Value)
  | notOneKey
  | unknownTag (key : Value)
  | notAList (tag : Definition.Tag) (payload : Value)
  | emptyTuple
  | smallUnion
  | fieldsNotMapping (payload : Value)
  | fieldNameNotText (key : Value)
  /-- The text is no document at all. -/
  | unreadable
  /-- An exported document requires a field whose key is no text. -/
  | requiredNotText (key : Value)
  /-- The pointer to an entry has to show its key. -/
  | unshownKey (key : Value)

structure SchemaFault where
  problem : SchemaProblem
  path : Option Pointer

namespace SchemaProblem

def primitiveNames : Text :=
  Text.joinWith ", " (Definition.Primitive.all.map fun p => Text.ofString p.name)

def tagNames : Text :=
  Text.joinWith ", " (Definition.Tag.all.map fun t => Text.ofString t.name)

def message : SchemaProblem → Text
  | .notASchema given => "Expected a Schema or runtime type, got " ++ Text.ofString given.typeName
  | .unknownNode node => "Unknown runtime type: " ++ node.inspect
  | .noJsonForm value => "Value of type " ++ Text.ofString value.typeName ++ " has no JSON form"
  | .keyNotText key => "Object keys must be strings, got " ++ key.inspect
  | .tooDeep limit => "Definition nesting exceeds the depth limit of " ++ Text.ofInt limit
  | .unknownName name => "Unknown type name '" ++ name ++ "'. Expected one of: " ++ primitiveNames
  | .notADefinition value =>
    "Invalid definition node of type " ++ Text.ofString value.typeName
      ++ ": expected a type name or a mapping"
  | .notOneKey => "Definition mapping must have exactly one key out of: " ++ tagNames
  | .unknownTag key => "Unknown definition key '" ++ key.display ++ "'. Expected one of: " ++ tagNames
  | .notAList tag _ => "'" ++ Text.ofString tag.name ++ "' must be a list of definitions"
  | .emptyTuple => "Tuple must have at least one element"
  | .smallUnion => "Union must have at least two members"
  | .fieldsNotMapping _ => "'object' must map field names to definitions"
  | .fieldNameNotText key => "Field name must be a string, got " ++ key.inspect
  | .unreadable => "Error parsing schema definition"
  | .requiredNotText key =>
    "Exported JSON Schema is invalid: " ++ key.inspect ++ " is not of type 'string'"
  | .unshownKey key => key.display

/-- What keeps a message from being made: a value or a node in it that cannot be shown. -/
def showFault? (host : Host) : SchemaProblem → Option Value.ShowFault
  | .unknownNode node => node.showFault? host.showing
  | .keyNotText key => key.showFault? host.showing
  | .tooDeep limit => (Value.int limit).showFault? host.showing
  | .unknownTag key => key.showFault? host.showing
  | .fieldNameNotText key => key.showFault? host.showing
  | .requiredNotText key => key.showFault? host.showing
  | .unshownKey key => key.showFault? host.showing
  | _ => none

end SchemaProblem

namespace SchemaFault

/-- Adds a location to a message. -/
def locate (message : Text) : Option Pointer → Text
  | none => message
  | some [] => message ++ " (at document root)"
  | some path => message ++ " (at '" ++ path ++ "')"

def message (f : SchemaFault) : Text := locate f.problem.message f.path

end SchemaFault

/-- The pointer to the entry under a key. -/
def Pointer.entry (host : Host) (path : Pointer) (key : Value) : Except SchemaFault Pointer :=
  if key.isShowable host then .ok (path.child key.display) else .error ⟨.unshownKey key, some path⟩

section Entry

variable {host : Host} {path p : Pointer} {key : Value}

theorem Pointer.entry_eq_ok_iff :
    path.entry host key = .ok p ↔ key.isShowable host = true ∧ path.child key.display = p := by
  unfold Pointer.entry
  split <;> simp_all

@[simp] theorem Pointer.entry_text (t : Text) : path.entry host (.str t) = .ok (path.child t) := rfl

end Entry

-- ---------------------------------------------------------------------------
-- Raising
-- ---------------------------------------------------------------------------

/-- What comes out of an operation that fails. -/
inductive Raised where
  | schema (fault : SchemaFault)
  /-- The host failed while the message was made. -/
  | unshowable (fault : Value.ShowFault)

def SchemaFault.raised (host : Host) (f : SchemaFault) : Raised :=
  match f.problem.showFault? host with
  | none => .schema f
  | some why => .unshowable why

/-- A result, with a fault as it is raised. -/
def raising {α : Type} (host : Host) (r : Except SchemaFault α) : Except Raised α :=
  r.mapError (SchemaFault.raised host)

section Raising

variable {α : Type} {host : Host} {r : Except SchemaFault α} {f : SchemaFault}

@[simp] theorem raising_ok (a : α) : raising host (.ok a) = .ok a := rfl

theorem raising_error (f : SchemaFault) :
    raising host (.error f : Except SchemaFault α) = .error (f.raised host) := rfl

@[simp] theorem raising_eq_ok_iff {a : α} : raising host r = .ok a ↔ r = .ok a := by
  cases r with
  | ok b => simp
  | error f => simp [raising_error]

theorem raised_eq_schema_iff {g : SchemaFault} :
    f.raised host = .schema g ↔ f = g ∧ f.problem.showFault? host = none := by
  unfold SchemaFault.raised
  split <;> simp_all

theorem raised_of_showFault? {why : Value.ShowFault} (h : f.problem.showFault? host = some why) :
    f.raised host = .unshowable why := by
  rw [SchemaFault.raised, h]

/-- What is raised about a schema is a fault that was found, and its message can be made. -/
theorem raising_eq_schema_iff :
    raising host r = .error (.schema f) ↔ r = .error f ∧ f.problem.showFault? host = none := by
  cases r with
  | ok a => simp
  | error g =>
    rw [raising_error, Except.error.injEq, raised_eq_schema_iff, Except.error.injEq]
    exact and_congr_right fun h => by rw [h]

theorem raising_eq_unshowable_iff {why : Value.ShowFault} :
    raising host r = .error (.unshowable why) ↔
      ∃ f, r = .error f ∧ f.problem.showFault? host = some why := by
  cases r with
  | ok a => simp
  | error g =>
    simp only [raising_error, SchemaFault.raised, Except.error.injEq, exists_eq_left']
    split <;> simp_all

end Raising

end DataShape
