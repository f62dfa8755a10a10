-- SUMMARY: Values that are equal as JSON get the same verdict from every shape, faults included.
import DataShape.Proofs.Shape.Alike
import DataShape.Proofs.Value.JsonEq

/-!
# Congruence

The walk cannot tell two values apart that are equal as JSON: they have one
kind and one length, equal items in order, equal things under every key, and
they are equal to the same literals.
-/

namespace DataShape

open Value (WellFormed JsonEqual MatchEntries)

/-- Whether two well-formed values are equal as JSON. -/
def Value.JsonTwins (v w : Value) : Prop := WellFormed v ∧ WellFormed w ∧ JsonEqual v w

theorem Value.forall₂_jsonTwins {vs ws : List Value} (hvs : ∀ v ∈ vs, WellFormed v)
    (hws : ∀ w ∈ ws, WellFormed w) (h : List.Forall₂ JsonEqual vs ws) :
    List.Forall₂ JsonTwins vs ws := by
  rw [List.forall₂_iff_zip] at h ⊢
  refine ⟨h.1, fun hmem => ?_⟩
  obtain ⟨hv, hw⟩ := List.of_mem_zip hmem
  exact ⟨hvs _ hv, hws _ hw, h.2 hmem⟩

theorem alike_jsonTwins : Alike WellFormed WellFormed Value.JsonTwins where
  kind := fun v w ⟨_, _, hvw⟩ => Value.kind?_eq_of_jsonEq hvw
  absent := by
    rintro v w ⟨hv, hw, hvw⟩
    constructor
    · rintro rfl
      exact Value.jsonEq_absent_iff.1 hvw
    · rintro rfl
      exact Value.jsonEq_absent_iff.1 ((Value.coheres_jsonEq v hv).symm _ hw hvw)
  items := by
    rintro form vs form' ws ⟨hv, hw, hvw⟩
    have hitems := Value.jsonEq_arrays_iff.1 hvw
    exact Value.forall₂_jsonTwins (Value.wellFormed_array_iff.1 hv)
      (Value.wellFormed_array_iff.1 hw) hitems
  entries := by
    rintro form es form' fs ⟨hv, hw, hvw⟩ key hkey
    obtain ⟨hlen, hentries⟩ := Value.jsonEq_objects_iff.1 hvw
    rw [Value.wellFormed_object_iff] at hv hw
    have htwins : MatchEntries Value.JsonTwins es fs := by
      refine ⟨hlen, fun e he => ?_⟩
      obtain ⟨x, hx, hex⟩ := hentries e he
      exact ⟨x, hx, (hv.2 e he).2, hw.lookup hx, hex⟩
    exact htwins.rel_lookup hv hw hkey
  literal := by
    rintro v w ⟨hv, hw, hvw⟩ x hx
    exact Bool.eq_iff_iff.2 ((Value.coheres_jsonEq v hv).congr w hw hvw x hx)

namespace Shape

variable {host : Host}

/-- Whether a shape tells no two well-formed values apart that are equal as JSON. -/
def RespectsJsonEq (s : Shape) : Prop :=
  ∀ v w, WellFormed v → WellFormed w → JsonEqual v w → s.conforms v = s.conforms w

theorem asksOnly_of_isWellFormed {s : Shape} (hs : s.isWellFormed = true) :
    s.AsksOnly WellFormed WellFormed := by
  cases s with
  | literal x => exact hs
  | object fs =>
    intro f hf
    exact (isWellFormedFields_iff.1 (Bool.and_eq_true_iff.1 hs).2 f hf).1
  | _ => trivial

theorem respectsJsonEq (s : Shape) (hs : s.isWellFormed = true) : s.RespectsJsonEq := by
  intro v w hv hw hvw
  apply isBlindTo_of_alike alike_jsonTwins s
  · intro t ht
    exact asksOnly_of_isWellFormed (isWellFormed_of_occurs ht hs)
  · exact ⟨hv, hw, hvw⟩

/-- Values that are equal as JSON get the same outcome from any tree, whatever stands in it. -/
theorem isValid_eq_of_jsonEq {s : Shape} (hs : s.isWellFormed = true) {v w : Value}
    (hv : v.isWellFormed = true) (hw : w.isWellFormed = true) (hvw : v.jsonEq w = true) :
    s.isValid host v = s.isValid host w := by
  have hcheck : s.check v = s.check w := by
    cases htop : s.top with
    | error f => simp only [check, htop, bind, Except.bind]
    | ok node =>
      have hnode := respectsJsonEq node (isWellFormed_of_top htop hs) v w hv hw hvw
      rw [check_of_top htop, check_of_top htop, hnode]
  rw [isValid, isValid, hcheck]

/-- A record with a declared list and a node that is no shape. The pair stands in another form, in
another place, and with a number written as a float; both walks pass it and stop at the node. -/
theorem isValid_eq_of_jsonEq_reordered :
    let s : Shape := .sealed (.object [(.ofString "at", .array (.literal (.int 1))),
      (.ofString "next", .foreign .null)])
    let v : Value := .object .plain [(.ofString "at", .list [.int 1, .int 1]), (.int 2, .null)]
    let w : Value := .object .readOnly [(.float (.finite false 1024 0), .null),
      (.ofString "at", .array .tuple [.float (.finite false 1023 0), .int 1])]
    let fault : SchemaFault := ⟨.unknownNode (.foreign .null), none⟩
    v.jsonEq w = true ∧ s.isValid .shallow v = .error (.schema fault) ∧
      s.isValid .shallow w = .error (.schema fault) := by
  intro s v w fault
  have hvw : v.jsonEq w = true := by decide +kernel
  have hv : s.isValid .shallow v = .error (.schema fault) := rfl
  have hsame : s.isValid .shallow v = s.isValid .shallow w :=
    isValid_eq_of_jsonEq (by decide +kernel) (by decide +kernel) (by decide +kernel) hvw
  exact ⟨hvw, hv, hsame ▸ hv⟩

end Shape

end DataShape
