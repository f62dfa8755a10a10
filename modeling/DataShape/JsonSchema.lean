-- SUMMARY: Export of shapes as JSON Schema documents, and the check of their required fields.
import DataShape.Shape.Conforms
import DataShape.Value.Plain

/-!
# JSON Schema export

A document accepts the values without absence that conform to its shape.
Absence exists only for fields: an optional shape is rendered as its element,
and a field whose shape accepts absence is left out of `required`.

The keys of a document are texts, but a shape may declare a field under
another key. Such a field may not be required.
-/

namespace DataShape.JsonSchema

def dialect : String := "https://json-schema.org/draft/2020-12/schema"

/-- One keyword of a document with its argument. -/
def keyword (name : String) (argument : Value) : Value × Value := (.str name, argument)

def typeIs (kind : JsonKind) : Value × Value := keyword "type" (.ofString kind.name)

-- ---------------------------------------------------------------------------
-- Rendering
-- ---------------------------------------------------------------------------

/-- The keys of the fields that may not be absent. -/
def requiredKeys (fields : List (Value × Shape)) : List Value :=
  (fields.filter fun f => !f.2.acceptsAbsent).map (·.1)

/-- The keywords of the document for an object. -/
def objectKeywords (fields : List (Value × Shape)) (properties : List (Value × Value)) :
    List (Value × Value) :=
  let required := requiredKeys fields
  [typeIs .object, keyword "properties" (.object .plain properties)]
    ++ (if required.isEmpty then [] else [keyword "required" (.list required)])

mutual

/-- The keywords of the document for a shape. -/
def render (host : Host) : Shape → Pointer → Except SchemaFault (List (Value × Value))
  | .null, _ => .ok [typeIs .null]
  | .boolean, _ => .ok [typeIs .boolean]
  | .number, _ => .ok [typeIs .number]
  | .string, _ => .ok [typeIs .string]
  | .literal v, path => (v.toPlain path).map fun w => [keyword "const" w]
  | .optional s, path => render host s path
  | .array s, path =>
    (render host s (path.child "items")).map fun items =>
      [typeIs .array, keyword "items" (.object .plain items)]
  | .tuple [], _ => .ok [typeIs .array, keyword "maxItems" (.int 0)]
  | .tuple ss, path =>
    (renderList host ss path 0).map fun items =>
      [typeIs .array, keyword "prefixItems" (.list items),
        keyword "minItems" (.int ss.length), keyword "maxItems" (.int ss.length)]
  | .union [], _ => .ok [keyword "not" (.object .plain [])]
  | .union ss, path =>
    (renderList host ss path 0).map fun members => [keyword "anyOf" (.list members)]
  | .object fs, path => (renderFields host fs path).map (objectKeywords fs)
  | .foreign v, path => .error ⟨.unknownNode (.foreign v), some path⟩
  | .sealed s, path => .error ⟨.unknownNode (.sealed s), some path⟩
termination_by structural s => s

/-- The documents of the elements from index `i` on. -/
def renderList (host : Host) : List Shape → Pointer → Nat → Except SchemaFault (List Value)
  | [], _, _ => .ok []
  | s :: ss, path, i => do
    let keywords ← render host s (path.index i)
    let documents ← renderList host ss path (i + 1)
    return .object .plain keywords :: documents
termination_by structural ss => ss

def renderFields (host : Host) :
    List (Value × Shape) → Pointer → Except SchemaFault (List (Value × Value))
  | [], _ => .ok []
  | (key, s) :: fs, path => do
    let keywords ← render host s (← path.entry host key)
    let properties ← renderFields host fs path
    return (key, .object .plain keywords) :: properties
termination_by structural fs => fs

end

-- ---------------------------------------------------------------------------
-- Required fields
-- ---------------------------------------------------------------------------

/-- The first key in a list that is no text. -/
def firstNotText? (keys : List Value) : Option Value :=
  keys.find? fun k => k.kind? ≠ some .string

mutual

/-- The first key that a document requires, at any depth, without being a text. -/
def badRequired? : Value → Option Value
  | .object _ keywords => badRequiredKeyword? keywords
  | _ => none
termination_by structural v => v

/-- Of a list of keywords, with the keywords of the documents in their arguments. -/
def badRequiredKeyword? : List (Value × Value) → Option Value
  | [] => none
  | (.str name, argument) :: rest =>
    (if name = Text.ofString "required" then
        match argument with
        | .array _ keys => firstNotText? keys
        | _ => none
      else if name = Text.ofString "items" ∨ name = Text.ofString "not" then badRequired? argument
      else if name = Text.ofString "prefixItems" ∨ name = Text.ofString "anyOf" then
        match argument with
        | .array _ documents => badRequiredList? documents
        | _ => none
      else if name = Text.ofString "properties" then
        match argument with
        | .object _ properties => badRequiredProperty? properties
        | _ => none
      else none).or (badRequiredKeyword? rest)
  | _ :: rest => badRequiredKeyword? rest
termination_by structural ks => ks

def badRequiredList? : List Value → Option Value
  | [] => none
  | v :: vs => (badRequired? v).or (badRequiredList? vs)
termination_by structural vs => vs

def badRequiredProperty? : List (Value × Value) → Option Value
  | [] => none
  | (_, v) :: rest => (badRequired? v).or (badRequiredProperty? rest)
termination_by structural ps => ps

end

/-- Keywords as a whole document, which names its dialect. -/
def ofKeywords (keywords : List (Value × Value)) : Value :=
  .object .plain (keyword "$schema" (.ofString dialect) :: keywords)

/-- The document of a shape, before its check. -/
def rendered (host : Host) (s : Shape) : Except SchemaFault Value := do
  let keywords ← render host (← s.top) .root
  return ofKeywords keywords

/-- A document, unless it requires a field whose key is no text. -/
def checked (document : Value) : Except SchemaFault Value :=
  match badRequired? document with
  | some key => .error ⟨.requiredNotText key, none⟩
  | none => .ok document

/-- The JSON Schema document of a shape. -/
def ofShape (host : Host) (s : Shape) : Except Raised Value :=
  raising host (rendered host s >>= checked)

end DataShape.JsonSchema
