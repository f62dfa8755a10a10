-- SUMMARY: The values nested in a value, and what holds of all of them.
import DataShape.Proofs.Value.JsonEq

/-!
# Nested values

A value is nested in another where items and entries lead to it. Keys are not
nested in the object they belong to, and neither are the elements of a set.
-/

namespace DataShape.Value

/-- Whether a value is another one or stands inside it. -/
inductive Within (w : Value) : Value → Prop
  | here : Within w w
  | item {form : ArrayForm} {items : List Value} {v : Value} (hv : v ∈ items) (h : Within w v) :
      Within w (.array form items)
  | entry {form : ObjectForm} {entries : List (Value × Value)} {e : Value × Value}
      (he : e ∈ entries) (h : Within w e.2) : Within w (.object form entries)

/-- Whether a property holds of all values nested in a value, the value itself included. -/
def AllWithin (p : Value → Prop) (v : Value) : Prop := ∀ w, Within w v → p w

section
variable {p q : Value → Prop} {v : Value}

theorem AllWithin.imp (hpq : ∀ w, p w → q w) (h : v.AllWithin p) : v.AllWithin q :=
  fun w hw => hpq w (h w hw)

theorem allWithin_array_iff {form : ArrayForm} {vs : List Value} :
    (array form vs).AllWithin p ↔ p (.array form vs) ∧ ∀ v ∈ vs, v.AllWithin p := by
  constructor
  · intro h
    exact ⟨h _ .here, fun v hv w hw => h w (.item hv hw)⟩
  · rintro ⟨htop, hparts⟩ w hw
    cases hw with
    | here => exact htop
    | item hv hw => exact hparts _ hv w hw

theorem allWithin_object_iff {form : ObjectForm} {es : List (Value × Value)} :
    (object form es).AllWithin p ↔ p (.object form es) ∧ ∀ e ∈ es, e.2.AllWithin p := by
  constructor
  · intro h
    exact ⟨h _ .here, fun e he w hw => h w (.entry he hw)⟩
  · rintro ⟨htop, hparts⟩ w hw
    cases hw with
    | here => exact htop
    | entry he hw => exact hparts _ he w hw

theorem allWithin_scalar_iff (hv : v.IsScalar) : v.AllWithin p ↔ p v := by
  constructor
  · intro h
    exact h v .here
  · rintro htop w hw
    cases hw with
    | here => exact htop
    | item _ _ => exact absurd rfl hv.1
    | entry _ _ => exact absurd rfl hv.2

end

/-! ## Kinds and keys -/

def HasKind (v : Value) : Prop := v.kind?.isSome = true

/-- Whether a value is no object, or one whose keys all have a property. -/
def KeysAre (p : Value → Prop) : Value → Prop
  | .object _ entries => ∀ e ∈ entries, p e.1
  | _ => True

section
variable {p q : Value → Prop} {v : Value}

theorem KeysAre.imp (hpq : ∀ k, p k → q k) (h : v.KeysAre p) : v.KeysAre q := by
  cases v with
  | object form es => exact fun e he => hpq e.1 (h e he)
  | _ => trivial

def IsText (v : Value) : Prop := v.kind? = some .string

theorem isJson_scalar_iff (hv : v.IsScalar) : v.isJson = true ↔ v.HasKind := by
  cases v with
  | array form vs => exact absurd rfl hv.1
  | object form es => exact absurd rfl hv.2
  | _ => exact Iff.rfl

theorem KeysAre.of_isScalar (hv : v.IsScalar) : v.KeysAre p := by
  cases v with
  | object form es => exact absurd rfl hv.2
  | _ => trivial

/-- JSON can write the values that have a kind at every depth and texts for all keys. -/
theorem isJson_iff_allWithin (v : Value) :
    v.isJson = true ↔ v.AllWithin HasKind ∧ v.AllWithin (KeysAre IsText) := by
  induction v using inductionOnData with
  | array form vs ih =>
    have hkind : HasKind (array form vs) := rfl
    have hkeys : KeysAre IsText (array form vs) := trivial
    rw [allWithin_array_iff, allWithin_array_iff, and_iff_right hkind, and_iff_right hkeys, isJson,
      isJsonList_iff, ← forall₂_and]
    exact forall₂_congr ih
  | object form es ih =>
    have hkind : HasKind (object form es) := rfl
    rw [allWithin_object_iff, allWithin_object_iff, and_iff_right hkind, and_left_comm, isJson,
      isJsonEntries_iff, ← forall₂_and]
    exact and_congr Iff.rfl (forall₂_congr ih)
  | scalar v hv =>
    rw [allWithin_scalar_iff hv, allWithin_scalar_iff hv, isJson_scalar_iff hv,
      and_iff_left (.of_isScalar hv)]

end

end DataShape.Value
