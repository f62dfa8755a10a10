-- SUMMARY: The nodes that occur in a shape, and what holds of all of them.
import DataShape.Proofs.Shape.Satisfies

/-!
# Occurrences

A node occurs in a shape where elements, members and fields lead to it. What is
sealed inside a node is no part of it.
-/

namespace DataShape.Shape

/-- Whether a node stands in a shape, at its top or below it. -/
inductive Occurs (t : Shape) : Shape → Prop
  | here : Occurs t t
  | optional {s : Shape} (h : Occurs t s) : Occurs t (.optional s)
  | array {s : Shape} (h : Occurs t s) : Occurs t (.array s)
  | tuple {ss : List Shape} {s : Shape} (hs : s ∈ ss) (h : Occurs t s) : Occurs t (.tuple ss)
  | union {ss : List Shape} {s : Shape} (hs : s ∈ ss) (h : Occurs t s) : Occurs t (.union ss)
  | object {fs : List (Value × Shape)} {f : Value × Shape} (hf : f ∈ fs) (h : Occurs t f.2) :
      Occurs t (.object fs)

theorem isWellFormed_of_occurs {s t : Shape} (h : Occurs t s) (hs : s.isWellFormed = true) :
    t.isWellFormed = true := by
  induction h with
  | here => exact hs
  | optional _ ih => exact ih hs
  | array _ ih => exact ih hs
  | tuple hmem _ ih | union hmem _ ih => exact ih (isWellFormedList_iff.1 hs _ hmem)
  | object hmem _ ih =>
    exact ih (isWellFormedFields_iff.1 (Bool.and_eq_true_iff.1 hs).2 _ hmem).2

/-- Whether a property holds of all the nodes of a shape. -/
def AllNodes (p : Shape → Prop) (s : Shape) : Prop := ∀ t, Occurs t s → p t

section
variable {p : Shape → Prop} {s : Shape} {ss : List Shape} {fs : List (Value × Shape)}

theorem allNodes_literal_iff {x : Value} : (literal x).AllNodes p ↔ p (.literal x) := by
  constructor
  · intro h
    exact h _ .here
  · rintro htop t ht
    cases ht with
    | here => exact htop

theorem allNodes_optional_iff : (optional s).AllNodes p ↔ p (.optional s) ∧ s.AllNodes p := by
  constructor
  · intro h
    exact ⟨h _ .here, fun t ht => h t (.optional ht)⟩
  · rintro ⟨htop, hpart⟩ t ht
    cases ht with
    | here => exact htop
    | optional ht => exact hpart t ht

theorem allNodes_array_iff : (array s).AllNodes p ↔ p (.array s) ∧ s.AllNodes p := by
  constructor
  · intro h
    exact ⟨h _ .here, fun t ht => h t (.array ht)⟩
  · rintro ⟨htop, hpart⟩ t ht
    cases ht with
    | here => exact htop
    | array ht => exact hpart t ht

theorem allNodes_tuple_iff : (tuple ss).AllNodes p ↔ p (.tuple ss) ∧ ∀ s ∈ ss, s.AllNodes p := by
  constructor
  · intro h
    exact ⟨h _ .here, fun s hs t ht => h t (.tuple hs ht)⟩
  · rintro ⟨htop, hparts⟩ t ht
    cases ht with
    | here => exact htop
    | tuple hs ht => exact hparts _ hs t ht

theorem allNodes_union_iff : (union ss).AllNodes p ↔ p (.union ss) ∧ ∀ s ∈ ss, s.AllNodes p := by
  constructor
  · intro h
    exact ⟨h _ .here, fun s hs t ht => h t (.union hs ht)⟩
  · rintro ⟨htop, hparts⟩ t ht
    cases ht with
    | here => exact htop
    | union hs ht => exact hparts _ hs t ht

theorem allNodes_object_iff :
    (object fs).AllNodes p ↔ p (.object fs) ∧ ∀ f ∈ fs, f.2.AllNodes p := by
  constructor
  · intro h
    exact ⟨h _ .here, fun f hf t ht => h t (.object hf ht)⟩
  · rintro ⟨htop, hparts⟩ t ht
    cases ht with
    | here => exact htop
    | object hf ht => exact hparts _ hf t ht

end

end DataShape.Shape
