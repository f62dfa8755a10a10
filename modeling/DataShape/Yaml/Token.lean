-- SUMMARY: The tokens of a YAML document.
import DataShape.Yaml.Fault

/-!
# Tokens

Indentation shows in the tokens: block collections have a start and an end. A
mapping key has a `key` token before it, also where the document writes none.
-/

namespace DataShape.Yaml

inductive Directive where
  | version (major minor : Nat)
  | tag (handle leading : Text)
  | reserved
  deriving DecidableEq, Repr

inductive Token where
  | directive (d : Directive)
  | documentStart
  | documentEnd
  | blockSequenceStart
  | blockMappingStart
  | blockEnd
  | flowSequenceStart
  | flowSequenceEnd
  | flowMappingStart
  | flowMappingEnd
  | blockEntry
  | flowEntry
  | key
  | value
  | alias (name : Text)
  | anchor (name : Text)
  /-- A tag by a handle and the text after it, or a tag in full. -/
  | tag (handle : Option Text) (rest : Text)
  | scalar (text : Text) (plain : Bool)
  | streamEnd
  /-- The document cannot be split into tokens any further. -/
  | fault (fault : Fault)
  deriving DecidableEq, Repr

end DataShape.Yaml
