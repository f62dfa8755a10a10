-- SUMMARY: What the two equalities see of the plain form of a value, and of what is read again once it is written.
import DataShape.Proofs.Value.Loose
import DataShape.Proofs.Value.Same

/-!
# Plain forms under the equalities

Whatever a value is compared with as JSON, it may as well be compared with the
plain form. Loose equality tells tuples from lists. Where what is not a number
is written, one word is, which reads as one object. So tuples, and what is not
a number and is another object, are all that sets a value apart from what is
read again once its plain form is written.
-/

namespace DataShape.Value

/-! ## JSON equality -/

theorem length_plainEntries (es : List (Value × Value)) :
    (plainEntries es).length = es.length := by
  rw [plainEntries_eq_map, List.length_map]

theorem sameKeys_plainEntries (es fs : List (Value × Value)) :
    sameKeys es (plainEntries fs) = sameKeys es fs := by
  simp only [sameKeys, length_plainEntries, lookup_plainEntries, Option.isSome_map]

mutual

/-- JSON equality does not tell the plain form on the right from the value. -/
theorem jsonEq_plain (v w : Value) : v.jsonEq w.plain = v.jsonEq w := by
  cases v with
  | array form vs =>
    cases w with
    | array form' ws =>
      simp only [plain, jsonEq, plainList_eq_map, List.length_map]
      rw [← plainList_eq_map, jsonEqList_plainList vs ws]
    | _ => rfl
  | object form es =>
    cases w with
    | object form' fs =>
      simp only [plain, jsonEq, sameKeys_plainEntries, jsonEqEntries_plainEntries es fs]
    | _ => rfl
  | _ => cases w <;> rfl
termination_by structural v

theorem jsonEqList_plainList (vs ws : List Value) :
    jsonEqList vs (plainList ws) = jsonEqList vs ws := by
  cases vs with
  | nil => simp only [jsonEqList]
  | cons v vs =>
    cases ws with
    | nil => rfl
    | cons w ws => simp only [plainList, jsonEqList, jsonEq_plain v w, jsonEqList_plainList vs ws]
termination_by structural vs

theorem jsonEqEntries_plainEntries (es fs : List (Value × Value)) :
    jsonEqEntries es (plainEntries fs) = jsonEqEntries es fs := by
  cases es with
  | nil => rfl
  | cons e es =>
    rw [jsonEqEntries, jsonEqEntries, jsonEqEntries_plainEntries es fs, lookup_plainEntries]
    cases lookup e.1 fs with
    | none => rfl
    | some w => simp only [Option.map_some, jsonEq_plain e.2 w]
termination_by structural es

end

/-! ## What is read again -/

/-- What is not a number reads as the one that the word for it stands for. -/
def rereadNumber : Binary64 → Binary64
  | .nan _ => .nan .word
  | x => x

mutual

/-- A value as it is read again once it is written, keys left out. -/
def reread : Value → Value
  | .float x => .float (rereadNumber x)
  | .array form items => .array form (rereadList items)
  | .object form entries => .object form (rereadEntries entries)
  | v => v
termination_by structural v => v

def rereadList : List Value → List Value
  | [] => []
  | v :: vs => reread v :: rereadList vs
termination_by structural vs => vs

def rereadEntries : List (Value × Value) → List (Value × Value)
  | [] => []
  | (key, v) :: es => (key, reread v) :: rereadEntries es
termination_by structural es => es

end

theorem rereadList_eq_map (vs : List Value) : rereadList vs = vs.map reread := by
  induction vs with
  | nil => rfl
  | cons v vs ih => rw [rereadList, ih, List.map_cons]

theorem rereadEntries_eq_map (es : List (Value × Value)) :
    rereadEntries es = es.map fun e => (e.1, e.2.reread) := by
  induction es with
  | nil => rfl
  | cons e es ih => rw [rereadEntries, ih, List.map_cons]

theorem isJson_reread (v : Value) : v.reread.isJson = v.isJson := by
  induction v using inductionOnParts with
  | array form vs ih =>
    rw [reread, rereadList_eq_map, Bool.eq_iff_iff, isJson, isJson, isJsonList_iff, isJsonList_iff,
      List.forall_mem_map]
    exact forall₂_congr fun v hv => by rw [ih v hv]
  | object form es ih =>
    rw [reread, rereadEntries_eq_map, Bool.eq_iff_iff, isJson, isJson, isJsonEntries_iff,
      isJsonEntries_iff, HasTextKeys, HasTextKeys, List.forall_mem_map, List.forall_mem_map]
    exact and_congr_right fun _ => forall₂_congr fun e he => by rw [(ih e he).2]
  | set vs _ => rfl
  | leaf v hleaf =>
    cases v with
    | array form vs => cases hleaf
    | object form es => cases hleaf
    | _ => rfl

theorem plain_reread (v : Value) : v.reread.plain = v.plain.reread := by
  induction v using inductionOnParts with
  | array form vs ih =>
    simp only [reread, plain, plainList_eq_map, rereadList_eq_map, List.map_map]
    exact congrArg (array .list) (List.map_congr_left fun v hv => ih v hv)
  | object form es ih =>
    simp only [reread, plain, plainEntries_eq_map, rereadEntries_eq_map, List.map_map]
    refine congrArg (object .plain) (List.map_congr_left fun e he => ?_)
    exact congrArg (e.1, ·) (ih e he).2
  | set vs _ => rfl
  | leaf v hleaf =>
    cases v with
    | array form vs => cases hleaf
    | object form es => cases hleaf
    | _ => rfl

/-! ## Loose equality -/

mutual

/-- Whether a tuple occurs in a value, or something that is not a number and is not the one that the
word for it stands for. -/
def hasTupleOrMadeNaN : Value → Bool
  | .float (.nan (.made _)) => true
  | .array form items => form = .tuple || anyHasTupleOrMadeNaN items
  | .object _ entries => anyEntryHasTupleOrMadeNaN entries
  | .set elements => anyHasTupleOrMadeNaN elements
  | _ => false
termination_by structural v => v

def anyHasTupleOrMadeNaN : List Value → Bool
  | [] => false
  | v :: vs => hasTupleOrMadeNaN v || anyHasTupleOrMadeNaN vs
termination_by structural vs => vs

def anyEntryHasTupleOrMadeNaN : List (Value × Value) → Bool
  | [] => false
  | (key, v) :: es => hasTupleOrMadeNaN key || hasTupleOrMadeNaN v || anyEntryHasTupleOrMadeNaN es
termination_by structural es => es

end

theorem anyHasTupleOrMadeNaN_eq_false_iff {vs : List Value} :
    anyHasTupleOrMadeNaN vs = false ↔ ∀ v ∈ vs, v.hasTupleOrMadeNaN = false := by
  induction vs with
  | nil => simp [anyHasTupleOrMadeNaN]
  | cons v vs ih => simp [anyHasTupleOrMadeNaN, ih]

theorem anyEntryHasTupleOrMadeNaN_eq_false_iff {es : List (Value × Value)} (h : HasTextKeys es) :
    anyEntryHasTupleOrMadeNaN es = false ↔ ∀ e ∈ es, e.2.hasTupleOrMadeNaN = false := by
  induction es with
  | nil => simp [anyEntryHasTupleOrMadeNaN]
  | cons e es ih =>
    obtain ⟨hkey, hkeys⟩ := List.forall_mem_cons.1 h
    obtain ⟨t, ht⟩ := kind?_eq_string_iff.1 hkey
    rw [anyEntryHasTupleOrMadeNaN, ht]
    simp [hasTupleOrMadeNaN, ih hkeys]

theorem looseEq_rereadNumber_iff (x : Binary64) :
    LooselyEqual (.float (rereadNumber x)) (.float x) ↔
      (float x).hasTupleOrMadeNaN = false := by
  unfold LooselyEqual
  cases x with
  | nan which => cases which <;> simp [rereadNumber, looseEq, scalarEq, magnitude?,
      Binary64.magnitude, hasTupleOrMadeNaN]
  | _ => simp [rereadNumber, looseEq, scalarEq, magnitude?, hasTupleOrMadeNaN]

/-- What JSON data is read as once its plain form is written equals it loosely, unless it holds a
tuple, or what is not a number and is not the one that is read. -/
theorem looseEq_reread_plain_iff (v : Value) : v.isJson = true → v.isWellFormed = true →
    (v.plain.reread.looseEq v = true ↔ v.hasTupleOrMadeNaN = false) := by
  induction v using inductionOnParts with
  | array form vs ih =>
    intro hjson hformed
    have hvs := isJsonList_iff.1 hjson
    have hvs' := wellFormed_array_iff.1 hformed
    have hparts : List.Forall₂ LooselyEqual ((vs.map plain).map reread) vs ↔
        ∀ v ∈ vs, v.hasTupleOrMadeNaN = false := by
      rw [List.map_map, List.forall₂_map_left_iff, List.forall₂_same]
      exact forall₂_congr fun v hv => ih v hv (hvs v hv) (hvs' v hv)
    rw [plain, plainList_eq_map, reread, rereadList_eq_map]
    cases form with
    | list =>
      simp only [hasTupleOrMadeNaN, looseEq, looseEqList_iff, hparts,
        anyHasTupleOrMadeNaN_eq_false_iff, Bool.and_eq_true, Bool.or_eq_false_iff]
      simp
    | tuple => simp [hasTupleOrMadeNaN, looseEq]
  | object form es ih =>
    intro hjson hformed
    obtain ⟨hkeys, hes⟩ := isJsonEntries_iff.1 hjson
    obtain ⟨hdistinct, hes'⟩ := wellFormed_object_iff.1 hformed
    rw [plain, plainEntries_eq_map, reread, rereadEntries_eq_map, hasTupleOrMadeNaN,
      anyEntryHasTupleOrMadeNaN_eq_false_iff hkeys]
    simp only [looseEq, List.length_map, decide_true, Bool.true_and, looseEqEntries_iff,
      List.forall_mem_map]
    refine forall₂_congr fun e he => ?_
    rw [lookup_of_mem_of_hasTextKeys hkeys hdistinct he, ← (ih e he).2 (hes e he) (hes' e he).2]
    simp
  | set vs _ => exact fun hjson => nomatch hjson
  | leaf v hleaf =>
    intro hjson hformed
    cases v with
    | array => cases hleaf
    | object => cases hleaf
    | float x => exact looseEq_rereadNumber_iff x
    | null | bool | int | str => exact iff_of_true (looseEq_self _ hformed) rfl
    | _ => cases hjson

end DataShape.Value
