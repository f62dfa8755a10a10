-- SUMMARY: Well-formed values, and look-ups among entries whose keys are distinct texts.
import Mathlib.Data.List.Perm.Subperm
import DataShape.Proofs.Parts
import DataShape.Proofs.Value.Plain

/-!
# Keys

What is made as a mapping has distinct keys, and what is made as a set distinct
elements; a well-formed value keeps to that at every depth. Texts are looked up
by equality, so objects of JSON have the same keys exactly when they answer the
same look-ups.
-/

namespace DataShape.Value

/-! ## Well-formed values -/

def distinctKeys {α : Type} : List (Value × α) → Bool
  | [] => true
  | (key, _) :: rest => (lookup key rest).isNone && distinctKeys rest

def distinctElements : List Value → Bool
  | [] => true
  | v :: vs => !vs.any (looseEq v) && distinctElements vs

mutual

/-- Whether the keys of every object, and the elements of every set, are distinct. -/
def isWellFormed : Value → Bool
  | .array _ items => isWellFormedList items
  | .object _ entries => distinctKeys entries && isWellFormedEntries entries
  | .set elements => distinctElements elements && isWellFormedList elements
  | _ => true
termination_by structural v => v

def isWellFormedList : List Value → Bool
  | [] => true
  | v :: vs => isWellFormed v && isWellFormedList vs
termination_by structural vs => vs

def isWellFormedEntries : List (Value × Value) → Bool
  | [] => true
  | (key, v) :: rest => isWellFormed key && isWellFormed v && isWellFormedEntries rest
termination_by structural es => es

end

theorem isWellFormedList_iff {vs : List Value} :
    isWellFormedList vs = true ↔ ∀ v ∈ vs, v.isWellFormed = true := by
  induction vs with
  | nil => simp [isWellFormedList]
  | cons v vs ih => simp [isWellFormedList, ih]

theorem isWellFormedEntries_iff {es : List (Value × Value)} :
    isWellFormedEntries es = true ↔
      ∀ e ∈ es, e.1.isWellFormed = true ∧ e.2.isWellFormed = true := by
  induction es with
  | nil => simp [isWellFormedEntries]
  | cons e es ih => simp only [isWellFormedEntries, Bool.and_eq_true, ih, List.forall_mem_cons]

/-! ## Entries with other values under the same keys -/

section
variable {α β : Type} (f : α → β)

theorem lookup_map (key : Value) (es : List (Value × α)) :
    lookup key (es.map fun e => (e.1, f e.2)) = (lookup key es).map f := by
  simp only [lookup, List.find?_map, Option.map_map]
  rfl

theorem distinctKeys_map (es : List (Value × α)) :
    distinctKeys (es.map fun e => (e.1, f e.2)) = distinctKeys es := by
  induction es with
  | nil => rfl
  | cons e es ih => simp only [List.map_cons, distinctKeys, lookup_map, Option.isNone_map, ih]

end

theorem isWellFormed_plain {v : Value} (h : v.isWellFormed = true) :
    v.plain.isWellFormed = true := by
  induction v using inductionOnParts with
  | array form items ih =>
    have hitems := isWellFormedList_iff.1 h
    simp only [plain, plainList_eq_map, isWellFormed, isWellFormedList_iff, List.forall_mem_map]
    exact fun v hv => ih v hv (hitems v hv)
  | object form entries ih =>
    simp only [isWellFormed, Bool.and_eq_true, isWellFormedEntries_iff] at h
    simp only [plain, plainEntries_eq_map, isWellFormed, distinctKeys_map, Bool.and_eq_true,
      isWellFormedEntries_iff, List.forall_mem_map]
    exact ⟨h.1, fun e he => ⟨(h.2 e he).1, (ih e he).2 (h.2 e he).2⟩⟩
  | set elements _ => exact h
  | leaf v hv =>
    cases v with
    | array => cases hv
    | object => cases hv
    | _ => exact h

/-! ## Entries under texts -/

def HasTextKeys {α : Type} (es : List (Value × α)) : Prop :=
  ∀ e ∈ es, e.1.kind? = some .string

theorem isJsonList_iff {vs : List Value} :
    isJsonList vs = true ↔ ∀ v ∈ vs, v.isJson = true := by
  induction vs with
  | nil => simp [isJsonList]
  | cons v vs ih => simp [isJsonList, ih]

theorem isJsonEntries_iff {es : List (Value × Value)} :
    isJsonEntries es = true ↔ HasTextKeys es ∧ ∀ e ∈ es, e.2.isJson = true := by
  induction es with
  | nil => simp [isJsonEntries, HasTextKeys]
  | cons e es ih =>
    simp only [isJsonEntries, Bool.and_eq_true, ih, HasTextKeys, List.forall_mem_cons,
      decide_eq_true_eq]
    constructor
    · rintro ⟨⟨hkey, hv⟩, hkeys, hvs⟩
      exact ⟨⟨hkey, hkeys⟩, hv, hvs⟩
    · rintro ⟨⟨hkey, hkeys⟩, hv, hvs⟩
      exact ⟨⟨hkey, hv⟩, hkeys, hvs⟩

theorem looseEq_text_iff {key text : Value} (h : text.kind? = some .string) :
    looseEq key text = true ↔ key = text := by
  obtain ⟨t, rfl⟩ := kind?_eq_string_iff.1 h
  cases key <;> simp [looseEq, scalarEq, magnitude?]

section
variable {α : Type} {es : List (Value × α)}

theorem mem_of_lookup (h : HasTextKeys es) {key : Value} {a : α} (ha : lookup key es = some a) :
    (key, a) ∈ es := by
  obtain ⟨e, he, rfl⟩ := Option.map_eq_some_iff.1 ha
  have hmem := List.mem_of_find?_eq_some he
  have hkey : looseEq key e.1 = true := by simpa using List.find?_some he
  obtain rfl := (looseEq_text_iff (h e hmem)).1 hkey
  exact hmem

theorem lookup_isSome_iff (h : HasTextKeys es) {key : Value} :
    (lookup key es).isSome = true ↔ key ∈ es.map (·.1) := by
  rw [lookup, Option.isSome_map, List.find?_isSome, List.mem_map]
  constructor
  · rintro ⟨e, he, heq⟩
    exact ⟨e, he, ((looseEq_text_iff (h e he)).1 heq).symm⟩
  · rintro ⟨e, he, rfl⟩
    exact ⟨e, he, (looseEq_text_iff (h e he)).2 rfl⟩

theorem nodup_keys (h : HasTextKeys es) (hdistinct : distinctKeys es = true) :
    (es.map (·.1)).Nodup := by
  induction es with
  | nil => exact List.nodup_nil
  | cons e es ih =>
    have htail : HasTextKeys es := fun e he => h e (List.mem_cons_of_mem _ he)
    simp only [distinctKeys, Bool.and_eq_true] at hdistinct
    rw [List.map_cons, List.nodup_cons]
    refine ⟨fun hmem => ?_, ih htail hdistinct.2⟩
    have hsome := (lookup_isSome_iff htail).2 hmem
    rw [Option.isNone_iff_eq_none.1 hdistinct.1] at hsome
    cases hsome

end

/-- Objects with distinct texts for keys have the same keys when they answer the same look-ups. -/
theorem sameKeys_iff {xs ys : List (Value × Value)} (hx : HasTextKeys xs) (hy : HasTextKeys ys)
    (hxs : distinctKeys xs = true) (hys : distinctKeys ys = true) :
    sameKeys xs ys = true ↔ ∀ key, (lookup key xs).isSome = (lookup key ys).isSome := by
  have hnx := nodup_keys hx hxs
  have hny := nodup_keys hy hys
  have hiff : ∀ key, ((lookup key xs).isSome = (lookup key ys).isSome) ↔
      (key ∈ xs.map (·.1) ↔ key ∈ ys.map (·.1)) := by
    intro key
    rw [Bool.eq_iff_iff, lookup_isSome_iff hx, lookup_isSome_iff hy]
  simp only [hiff, sameKeys, Bool.and_eq_true, decide_eq_true_eq, List.all_eq_true,
    lookup_isSome_iff hy]
  constructor
  · rintro ⟨hlen, hsub⟩ key
    have hsubset : xs.map (·.1) ⊆ ys.map (·.1) := by
      intro k hk
      obtain ⟨e, he, rfl⟩ := List.mem_map.1 hk
      exact hsub e he
    have hperm := (List.subperm_of_subset hnx hsubset).perm_of_length_le (by simp [hlen])
    exact hperm.mem_iff
  · intro hsame
    have hperm := (List.perm_ext_iff_of_nodup hnx hny).2 hsame
    exact ⟨by simpa using hperm.length_eq, fun e he => (hsame e.1).1 (List.mem_map_of_mem he)⟩

end DataShape.Value
