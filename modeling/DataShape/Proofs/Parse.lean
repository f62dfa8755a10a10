-- SUMMARY: A validating parse tells faults of the text from values that do not conform.
import DataShape.Parse
import DataShape.Proofs.Json.Decoded
import DataShape.Proofs.Shape.Entailment
import DataShape.Shape.Builder

/-!
# Validating parse

Absence is what a validating parse gives for a value that does not conform. No
text decodes to absence, so it means nothing else; and a fault of the text is
found before the shape is looked at.
-/

namespace DataShape

/-- Whether JSON can be decoded from a value: it is a text, or bytes of either form. -/
def Value.isSource : Value → Bool
  | .str _ => true
  | .bytes _ _ => true
  | _ => false

theorem Json.exists_decode (nesting : Nat) {source : Value} (h : source.isSource = true) :
    ∃ r, decode nesting source = .ok r := by
  cases source with
  | str t => exact ⟨_, rfl⟩
  | bytes form data => exact ⟨_, rfl⟩
  | _ => cases h

theorem Value.IsDecoded.ne_absent {v : Value} (h : v.IsDecoded) : v ≠ .absent := by
  rintro rfl
  cases h.isPlain

namespace Shape

variable {host : Host}

theorem parse_of_fault {source : Value} {f : Json.Fault}
    (h : Json.decode host.decoding source = .ok (.error f)) (s : Shape) :
    s.parse host source = .error (.json f) := by
  rw [parse, Json.decoded, h]
  rfl

/-- What a text decodes to is given back if it conforms, and absence is if it does not. -/
theorem parse_of_value {source v : Value} (h : Json.decode host.decoding source = .ok (.ok v))
    {s : Shape} {b : Bool} (hb : s.isValid host v = .ok b) :
    s.parse host source = .ok (if b then v else .absent) := by
  rw [parse, Json.decoded, h]
  simp only [bind, Except.bind, validate, hb]
  rfl

/-- From a text, or from bytes, comes a fault of the text, whatever the shape, or data that is its
own plain form and that the literal of it accepts. If no node of the shape is foreign, that data is
given back where it conforms. Absence says that it does not, and nothing else. -/
theorem parse_outcomes {source : Value} (hsource : source.isSource = true) (s : Shape) :
    ((∃ f, Json.decode host.decoding source = .ok (.error f) ∧
        s.parse host source = .error (.json f)) ∨
      ∃ v, Json.decode host.decoding source = .ok (.ok v) ∧ (∀ path, v.toPlain path = .ok v) ∧
        v.jsonEq v = true ∧ (Builder.literal v).isValid host v = .ok true) ∧
    ∀ node, s.top = .ok node → node.isProper = true →
      (∀ v, Json.decode host.decoding source = .ok (.ok v) →
        ∃ b, s.isValid host v = .ok b ∧ s.parse host source = .ok (if b then v else .absent)) ∧
      (s.parse host source = .ok .absent ↔
        ∃ v, Json.decode host.decoding source = .ok (.ok v) ∧ s.isValid host v = .ok false) := by
  obtain ⟨f | v, hdecode⟩ := Json.exists_decode host.decoding hsource
  · have hparse := parse_of_fault hdecode s
    refine ⟨.inl ⟨f, hdecode, hparse⟩, fun node _ _ => ⟨?_, ?_⟩⟩
    · simp [hdecode]
    · simp [hdecode, hparse]
  · have hv := Json.isDecoded_of_decode hdecode
    have hself : (literal v).Satisfies v := hv.jsonEqual_self
    refine ⟨.inr ⟨v, hdecode, ?_, hself, ?_⟩, fun node hnode hproper => ?_⟩
    · exact fun path => (Value.toPlain_eq_self_iff v path).2 hv.isPlain
    · exact (isValid_decides_of_top (s := Builder.literal v) rfl rfl v).eq_ok_true_iff.2 hself
    · obtain ⟨b, hb, -⟩ := isValid_decides_of_top hnode hproper v
      have hparse := parse_of_value hdecode hb
      constructor
      · intro w hw
        obtain rfl : v = w := by simpa [hdecode] using hw
        exact ⟨b, hb, hparse⟩
      · rw [hparse]
        cases b <;> simp [hdecode, hb, hv.ne_absent]

/-- A text that ends too early is refused for the constant that comes before its end, also where no
shape is given. Two numbers are no texts, so a shape of texts gives absence for them. -/
theorem parse_outcomes_constant_and_numbers :
    let cut : Value := .ofString "[1, [NaN, "
    let numbers : Value := .ofString "[1, 1.5]"
    let texts : Shape := .sealed (.array .string)
    (Shape.foreign .null).parse .shallow cut = .error (.json (.constant "NaN")) ∧
      texts.parse .shallow numbers = .ok .absent := by
  intro cut numbers texts
  constructor
  · have hsource : cut.isSource = true := rfl
    have hfault : Json.decode Host.shallow.decoding cut = .ok (.error (.constant "NaN")) := by rfl
    obtain ⟨⟨f, hf, hparse⟩ | ⟨v, hv, -⟩, -⟩ := parse_outcomes hsource (.foreign .null)
    · rw [hfault] at hf
      obtain rfl := Except.error.inj (Except.ok.inj hf)
      exact hparse
    · rw [hfault] at hv
      cases hv
  · have hsource : numbers.isSource = true := rfl
    have hmismatch : ∃ v, Json.decode Host.shallow.decoding numbers = .ok (.ok v) ∧
        texts.isValid .shallow v = .ok false := ⟨_, rfl, rfl⟩
    exact ((parse_outcomes hsource texts).2 _ rfl rfl).2.2 hmismatch

end Shape

end DataShape
