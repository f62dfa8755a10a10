-- SUMMARY: Reading a YAML document as a value.
import DataShape.Yaml.Content
import DataShape.Yaml.Tokens

/-!
# Documents

A text holds at most one document. A text without any is null.
-/

namespace DataShape.Yaml

def read (host : Host) (t : Text) : Except Fault Value := do
  match characters? t with
  | none => malformed
  | some cs =>
    match ← Graph.ofTokens host.composing (tokens cs) with
    | none => return .null
    | some g => Content.ofGraph host g

end DataShape.Yaml
