-- SUMMARY: JSON equality of well-formed values is symmetric and transitive.
import DataShape.Proofs.Value.Loose

/-!
# JSON equality

JSON equality looks at the kind first. Arrays are equal item by item, in
whatever form they come, and objects by what stands under each key. On
well-formed values it is symmetric and transitive, also where it falls back to
the equality of values as such.
-/

namespace DataShape.Value

theorem jsonEqList_iff {vs ws : List Value} :
    vs.length = ws.length ∧ jsonEqList vs ws = true ↔ List.Forall₂ JsonEqual vs ws := by
  induction vs generalizing ws with
  | nil => cases ws <;> simp [jsonEqList]
  | cons v vs ih =>
    cases ws with
    | nil => simp
    | cons w ws =>
      rw [List.forall₂_cons, ← ih, jsonEqList, Bool.and_eq_true, List.length_cons, List.length_cons,
        Nat.add_right_cancel_iff]
      exact and_left_comm

theorem jsonEqEntries_iff {es fs : List (Value × Value)} :
    jsonEqEntries es fs = true ↔ ∀ e ∈ es, ∃ w, lookup e.1 fs = some w ∧ JsonEqual e.2 w := by
  induction es with
  | nil => simp [jsonEqEntries]
  | cons e es ih =>
    rw [jsonEqEntries, Bool.and_eq_true, ih, List.forall_mem_cons]
    refine and_congr_left' ?_
    cases lookup e.1 fs <;> simp

/-- That the keys are the same follows from what they find. -/
theorem sameKeys_and_jsonEqEntries_iff {es fs : List (Value × Value)} :
    (sameKeys es fs && jsonEqEntries es fs) = true ↔ MatchEntries JsonEqual es fs := by
  simp only [sameKeys, Bool.and_eq_true, decide_eq_true_eq, List.all_eq_true, jsonEqEntries_iff,
    MatchEntries]
  constructor
  · rintro ⟨⟨hlen, -⟩, hentries⟩
    exact ⟨hlen, hentries⟩
  · rintro ⟨hlen, hentries⟩
    refine ⟨⟨hlen, fun e he => ?_⟩, hentries⟩
    obtain ⟨w, hw, -⟩ := hentries e he
    simp [hw]

section
variable {v w : Value}

theorem jsonEq_array_iff {form : ArrayForm} {vs : List Value} :
    JsonEqual (.array form vs) w ↔
      ∃ ws, (∃ form', w = .array form' ws) ∧ List.Forall₂ JsonEqual vs ws := by
  unfold JsonEqual
  cases w <;> simp [jsonEq, kind?, ← jsonEqList_iff]

theorem jsonEq_object_iff {form : ObjectForm} {es : List (Value × Value)} :
    JsonEqual (.object form es) w ↔
      ∃ fs, (∃ form', w = .object form' fs) ∧ MatchEntries JsonEqual es fs := by
  unfold JsonEqual
  cases w <;> simp [jsonEq, kind?, ← sameKeys_and_jsonEqEntries_iff]

theorem jsonEq_arrays_iff {form form' : ArrayForm} {vs ws : List Value} :
    JsonEqual (.array form vs) (.array form' ws) ↔ List.Forall₂ JsonEqual vs ws := by
  rw [jsonEq_array_iff]
  simp

theorem jsonEq_objects_iff {form form' : ObjectForm} {es fs : List (Value × Value)} :
    JsonEqual (.object form es) (.object form' fs) ↔ MatchEntries JsonEqual es fs := by
  rw [jsonEq_object_iff]
  simp

/-- Whether a value is compared as a whole, being neither an array nor an object. -/
def IsScalar (v : Value) : Prop := v.kind? ≠ some .array ∧ v.kind? ≠ some .object

theorem isScalar_of_isLeaf (h : v.isLeaf = true) : v.IsScalar := by
  cases v <;> simp_all [IsScalar, isLeaf, kind?]

/-- Induction over what is compared part by part. -/
@[elab_as_elim]
theorem inductionOnData {motive : Value → Prop}
    (array : ∀ form items, (∀ v ∈ items, motive v) → motive (.array form items))
    (object : ∀ form entries, (∀ e ∈ entries, motive e.2) → motive (.object form entries))
    (scalar : ∀ v, v.IsScalar → motive v) (v : Value) : motive v := by
  induction v using inductionOnParts with
  | array form vs ih => exact array form vs ih
  | object form es ih => exact object form es fun e he => (ih e he).2
  | set vs _ => exact scalar _ (by simp [IsScalar, kind?])
  | leaf v hleaf => exact scalar v (isScalar_of_isLeaf hleaf)

theorem eq_iff : v.eq w = true ↔ v.isNaN = false ∧ LooselyEqual v w := by
  rw [Value.eq, Bool.and_eq_true, Bool.not_eq_true']

/-- What is not a number is loosely equal only to what is none either. -/
theorem isNaN_eq_of_looseEq (h : LooselyEqual v w) : v.isNaN = w.isNaN := by
  cases v with
  | array form vs =>
    obtain ⟨ws, rfl, -⟩ := looseEq_array_iff.1 h
    rfl
  | object form es =>
    obtain ⟨fs, ⟨form', rfl⟩, -⟩ := looseEq_object_iff.1 h
    rfl
  | set vs =>
    obtain ⟨ws, rfl, -⟩ := looseEq_set_iff.1 h
    rfl
  | _ =>
    obtain ⟨d, hw, hv⟩ := (looseEq_leaf_iff rfl).1 h
    rw [isNaN_of_datum? hv, isNaN_of_datum? hw]

theorem jsonEq_scalar_iff (hv : v.IsScalar) :
    JsonEqual v w ↔ v.kind? = w.kind? ∧ v.eq w = true := by
  unfold JsonEqual
  cases v with
  | array form vs => exact absurd rfl hv.1
  | object form es => exact absurd rfl hv.2
  | _ => simp [jsonEq]

theorem kind?_eq_of_jsonEq (h : JsonEqual v w) : v.kind? = w.kind? := by
  cases v with
  | array form vs =>
    obtain ⟨ws, ⟨form', rfl⟩, -⟩ := jsonEq_array_iff.1 h
    rfl
  | object form es =>
    obtain ⟨fs, ⟨form', rfl⟩, -⟩ := jsonEq_object_iff.1 h
    rfl
  | _ => exact ((jsonEq_scalar_iff (by simp [IsScalar, kind?])).1 h).1

theorem jsonEq_absent_iff : JsonEqual .absent w ↔ w = .absent := by
  unfold JsonEqual
  cases w <;> simp [jsonEq, kind?, Value.eq, isNaN, looseEq, scalarEq, magnitude?]

theorem IsScalar.of_kind?_eq (hv : v.IsScalar) (h : v.kind? = w.kind?) : w.IsScalar := by
  unfold IsScalar at hv ⊢
  rwa [← h]

/-- Where values are compared as a whole, JSON equality takes over what loose equality does. -/
theorem Coheres.jsonEq_scalar (hv : v.IsScalar) (h : Coheres WellFormed LooselyEqual v) :
    Coheres WellFormed JsonEqual v := by
  constructor
  · intro w hw hvw
    obtain ⟨hkind, heq⟩ := (jsonEq_scalar_iff hv).1 hvw
    obtain ⟨hnan, hloose⟩ := eq_iff.1 heq
    have hback : w.eq v = true :=
      eq_iff.2 ⟨isNaN_eq_of_looseEq hloose ▸ hnan, h.symm w hw hloose⟩
    exact (jsonEq_scalar_iff (hv.of_kind?_eq hkind)).2 ⟨hkind.symm, hback⟩
  · intro w hw hvw z hz
    obtain ⟨hkind, heq⟩ := (jsonEq_scalar_iff hv).1 hvw
    obtain ⟨-, hloose⟩ := eq_iff.1 heq
    rw [jsonEq_scalar_iff hv, jsonEq_scalar_iff (hv.of_kind?_eq hkind), hkind, eq_iff, eq_iff,
      isNaN_eq_of_looseEq hloose, h.congr w hw hloose z hz]

end

theorem coheres_jsonEq (v : Value) : WellFormed v → Coheres WellFormed JsonEqual v := by
  induction v using inductionOnData with
  | array form vs ih =>
    intro hv
    rw [wellFormed_array_iff] at hv
    have hvs := Coheres.forall₂ fun v hmem => ih v hmem (hv v hmem)
    refine Coheres.of_view (fun w ws => ∃ form', w = .array form' ws) ⟨form, rfl⟩ hvs ?_ ?_
    · rintro _ ws ⟨form', rfl⟩ hws
      exact wellFormed_array_iff.1 hws
    · rintro _ ws ⟨form', rfl⟩ w
      exact jsonEq_array_iff
  | object form es ih =>
    intro hv
    rw [wellFormed_object_iff] at hv
    have hes := coheres_matchEntries hv fun e he =>
      ⟨coheres_looseEq e.1 (hv.2 e he).1, ih e he (hv.2 e he).2⟩
    refine Coheres.of_view (fun w fs => ∃ form', w = .object form' fs) ⟨form, rfl⟩ hes ?_ ?_
    · rintro _ fs ⟨form', rfl⟩ hfs
      exact wellFormed_object_iff.1 hfs
    · rintro _ fs ⟨form', rfl⟩ w
      exact jsonEq_object_iff
  | scalar v hscalar =>
    intro hv
    exact Coheres.jsonEq_scalar hscalar (coheres_looseEq v hv)

end DataShape.Value
