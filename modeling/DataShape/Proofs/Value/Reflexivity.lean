-- SUMMARY: A value equals itself as JSON unless it holds a number that is not a number.
import DataShape.Proofs.Value.JsonEq

/-!
# Equality with itself

A number that is not a number equals nothing as JSON, itself included. It keeps
all that it stands in from equalling anything, unless it stands in a key, and
nothing else keeps a value from equalling itself.
-/

namespace DataShape.Value

mutual

/-- Whether a number that is not a number stands in a value, keys left out. -/
def hasNaN : Value → Bool
  | .float x => x.isNaN
  | .array _ items => anyHasNaN items
  | .object _ entries => anyEntryHasNaN entries
  | _ => false
termination_by structural v => v

def anyHasNaN : List Value → Bool
  | [] => false
  | v :: vs => hasNaN v || anyHasNaN vs
termination_by structural vs => vs

def anyEntryHasNaN : List (Value × Value) → Bool
  | [] => false
  | (_, v) :: es => hasNaN v || anyEntryHasNaN es
termination_by structural es => es

end

theorem anyHasNaN_eq_false_iff {vs : List Value} :
    anyHasNaN vs = false ↔ ∀ v ∈ vs, v.hasNaN = false := by
  induction vs with
  | nil => simp [anyHasNaN]
  | cons v vs ih => simp [anyHasNaN, ih]

theorem anyEntryHasNaN_eq_false_iff {es : List (Value × Value)} :
    anyEntryHasNaN es = false ↔ ∀ e ∈ es, e.2.hasNaN = false := by
  induction es with
  | nil => simp [anyEntryHasNaN]
  | cons e es ih => simp only [anyEntryHasNaN, Bool.or_eq_false_iff, ih, List.forall_mem_cons]

theorem hasNaN_scalar {v : Value} (hv : v.IsScalar) : v.hasNaN = v.isNaN := by
  cases v with
  | array form vs => exact absurd rfl hv.1
  | object form es => exact absurd rfl hv.2
  | _ => rfl

/-- A value equals itself unless a number that is not a number stands in it. -/
theorem jsonEq_self_iff (v : Value) : WellFormed v → (JsonEqual v v ↔ v.hasNaN = false) := by
  induction v using inductionOnData with
  | array form vs ih =>
    intro hformed
    rw [wellFormed_array_iff] at hformed
    have hitems : List.Forall₂ JsonEqual vs vs ↔ ∀ v ∈ vs, v.hasNaN = false := by
      rw [List.forall₂_same]
      exact forall₂_congr fun v hv => ih v hv (hformed v hv)
    rw [jsonEq_arrays_iff, hitems, hasNaN, anyHasNaN_eq_false_iff]
  | object form es ih =>
    intro hformed
    obtain ⟨hdistinct, hes⟩ := wellFormed_object_iff.1 hformed
    have hentries : MatchEntries JsonEqual es es ↔ ∀ e ∈ es, e.2.hasNaN = false := by
      rw [MatchEntries, and_iff_right rfl]
      refine forall₂_congr fun e he => ?_
      rw [lookup_of_mem hdistinct (fun f hf => (hes f hf).1) he, ← ih e he (hes e he).2]
      simp
    rw [jsonEq_objects_iff, hentries, hasNaN, anyEntryHasNaN_eq_false_iff]
  | scalar v hscalar =>
    intro hformed
    rw [jsonEq_scalar_iff hscalar, and_iff_right rfl, eq_iff, and_iff_left (looseEq_self v hformed),
      hasNaN_scalar hscalar]

end DataShape.Value
