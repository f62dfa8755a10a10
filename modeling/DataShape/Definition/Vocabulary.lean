-- SUMMARY: The words of definition documents: names of primitive shapes and tags of composite ones.
import DataShape.Shape.Basic

/-!
# Vocabulary of definitions

A definition names a primitive shape by one of four words, and marks a
composite one by the only key of a mapping, its tag.
-/

namespace DataShape.Definition

inductive Primitive where
  | null
  | boolean
  | number
  | string
  deriving DecidableEq, Repr

inductive Tag where
  | literal
  | optional
  | array
  | tuple
  | union
  | object
  deriving DecidableEq, Repr

namespace Primitive

def all : List Primitive := [.null, .boolean, .number, .string]

def name : Primitive → String
  | .null => "null"
  | .boolean => "boolean"
  | .number => "number"
  | .string => "string"

def shape : Primitive → Shape
  | .null => .null
  | .boolean => .boolean
  | .number => .number
  | .string => .string

def ofName? (t : Text) : Option Primitive := all.find? fun p => t = Text.ofString p.name

end Primitive

namespace Tag

def all : List Tag := [.literal, .optional, .array, .tuple, .union, .object]

def name : Tag → String
  | .literal => "literal"
  | .optional => "optional"
  | .array => "array"
  | .tuple => "tuple"
  | .union => "union"
  | .object => "object"

/-- The tag that a key of a mapping is; only a text can be one. -/
def ofKey? : Value → Option Tag
  | .str t => all.find? fun tag => t = Text.ofString tag.name
  | _ => none

end Tag

end DataShape.Definition
