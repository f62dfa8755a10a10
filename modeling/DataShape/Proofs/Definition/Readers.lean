-- SUMMARY: Definition texts in JSON: where the reader of definitions and the reader of JSON differ.
import Mathlib.Control.Monad.Basic
import DataShape.Proofs.Definition.Faults
import DataShape.Proofs.Json.Decoded
import DataShape.Proofs.Yaml.Portable

/-!
# Definitions in JSON text

A definition text in JSON is to define what its value as JSON does. It does so in
every portable spelling, where both readers find the same value. A number
without a point is not spelled so.
-/

namespace DataShape.Definition

variable {host : Host}

/-- The outcome of reading a text is that of building from the value it has as JSON. -/
def ReadsAsJson (host : Host) (limit : Int) (t : Text) : Prop :=
  ∀ d, Json.readUnmarked host.decoding t = .ok d →
    read host limit t = (toShape host limit d).mapError .raised

/-- Both readers find the value that a spelling spells. -/
theorem readsAsJson_of_isPortable (limit : Int) {t : Text} (h : Json.IsPortable host t) :
    ReadsAsJson host limit t := by
  intro d hd
  obtain ⟨p, rfl, hdecoding, hcomposing, hbuilding⟩ := h
  have hvalue := Json.readUnmarked_chars p hdecoding
  rw [hvalue] at hd
  obtain rfl := Except.ok.inj hd
  have hjson := Json.isDecoded_of_readUnmarked hvalue
  have hreport : p.value.isReportable host = true :=
    Value.isReportable_of_isJson _ (Value.isJson_of_isPlain hjson.isPlain)
  exact read_of_isReportable (Yaml.read_chars p hcomposing hbuilding) hreport limit

theorem read_of_toShape {limit : Int} {t : Text} {document : Value} {s : Shape}
    (hread : Yaml.read host t = .ok document) (hshape : toShape host limit document = .ok s) :
    read host limit t = .ok s := by
  simp only [read, hread, hshape]
  rfl

/-- A number without a point reads as a text there. -/
theorem not_readsAsJson_bare_exponent : ¬ ReadsAsJson .shallow 64 "\x7b\"literal\": 1e5\x7d" := by
  have hjson : Json.readUnmarked Host.shallow.decoding "\x7b\"literal\": 1e5\x7d" = .ok (.object .plain
      [(.str "literal", .float (.finite false 1039 2368348046229504))]) := by decide +kernel
  have hyaml : Yaml.read .shallow "\x7b\"literal\": 1e5\x7d" = .ok (.object .plain
      [(.str "literal", .str "1e5")]) := by decide +kernel
  intro h
  have hsame := (read_of_toShape hyaml rfl).symm.trans (h _ hjson)
  cases hsame

end DataShape.Definition
