-- SUMMARY: The places inside a value that pointers lead to, and the place at which a conversion to plain data fails.
import DataShape.Proofs.Pointer
import DataShape.Proofs.Value.JsonEq

/-!
# Places

A pointer leads into a value by texts that are keys and by indices, and nothing
else. What it leads to is a smaller value, so that proofs can go by induction
over places.
-/

namespace DataShape.Value

/-! ## Following pointers -/

/-- The number that a token is the decimal numeral of. -/
def index? (token : Text) : Option Nat :=
  (Text.number? 10 token).filter fun i => Text.ofNat i = token

/-- What a token leads to: an item by its index, or what is stored under the text. -/
def part? : Value → Text → Option Value
  | .array _ items, token => (index? token).bind fun i => items[i]?
  | .object _ entries, token => lookup (.str token) entries
  | _, _ => none

/-- What tokens lead to, one after the other. -/
def resolve? (v : Value) (tokens : List Text) : Option Value := tokens.foldlM part? v

theorem index?_ofNat (i : Nat) : index? (Text.ofNat i) = some i := by
  rw [index?, Text.number?_ofNat]
  exact if_pos (decide_eq_true rfl)

theorem part?_item (form : ArrayForm) {items : List Value} {i : Nat} {v : Value}
    (h : items[i]? = some v) : (array form items).part? (Text.ofNat i) = some v := by
  rw [part?, index?_ofNat]
  exact h

theorem part?_entry (form : ObjectForm) {es : List (Value × Value)} (h : WellFormedEntries es)
    {key : Text} {v : Value} (hmem : (.str key, v) ∈ es) :
    (object form es).part? key = some v :=
  lookup_of_mem h.1 (fun e he => (h.2 e he).1) hmem

theorem wellFormed_part {v w : Value} {token : Text} (hv : WellFormed v)
    (h : v.part? token = some w) : WellFormed w := by
  cases v with
  | array form items =>
    obtain ⟨i, -, hi⟩ := Option.bind_eq_some_iff.1 h
    exact wellFormed_array_iff.1 hv w (List.mem_of_getElem? hi)
  | object form es => exact (wellFormed_object_iff.1 hv).lookup h
  | _ => cases h

theorem sizeOf_part_lt {v w : Value} {token : Text} (h : v.part? token = some w) :
    sizeOf w < sizeOf v := by
  cases v with
  | array form items =>
    obtain ⟨i, -, hi⟩ := Option.bind_eq_some_iff.1 h
    have hlt := List.sizeOf_lt_of_mem (List.mem_of_getElem? hi)
    rw [array.sizeOf_spec]
    omega
  | object form es =>
    obtain ⟨e, he, -, rfl⟩ := exists_mem_of_lookup h
    have hlt := sizeOf_lt_of_mem_entry he
    rw [object.sizeOf_spec]
    omega
  | _ => cases h

/-- Induction over the places that pointers lead to. -/
@[elab_as_elim]
theorem inductionOnPlaces {motive : Value → Prop}
    (step : ∀ v, (∀ token w, v.part? token = some w → motive w) → motive v) (v : Value) :
    motive v :=
  step v fun _ w h =>
    have := sizeOf_part_lt h
    inductionOnPlaces step w
termination_by sizeOf v

/-! ## The first part that fails -/

theorem toPlain_scalar_eq_error {v : Value} (hv : v.IsScalar) {path : Pointer} {f : SchemaFault}
    (h : v.toPlain path = .error f) : v.kind? = none ∧ f = ⟨.noJsonForm v, some path⟩ := by
  revert h
  cases v with
  | array form items => exact absurd rfl hv.1
  | object form es => exact absurd rfl hv.2
  | _ => simp [toPlain, kind?, eq_comm]

section
variable {α : Type} {f : SchemaFault}

/-- A loop over items and their indices that goes on until a step fails has failed at an item. -/
theorem exists_item_of_loop (loop : List Value → Nat → Except SchemaFault (List α))
    (step : Value → Nat → Except SchemaFault α) {vs : List Value} {i : Nat}
    (h : loop vs i = .error f) (hnil : ∀ i, loop [] i = .ok [])
    (hcons : ∀ v vs i, loop (v :: vs) i = .error f →
      step v i = .error f ∨ loop vs (i + 1) = .error f) :
    ∃ (j : Nat) (v : Value), vs[j]? = some v ∧ step v (i + j) = .error f := by
  induction vs generalizing i with
  | nil => cases (hnil i).symm.trans h
  | cons v vs ih =>
    obtain hv | hvs := hcons v vs i h
    · exact ⟨0, v, rfl, hv⟩
    · obtain ⟨j, w, hj, hw⟩ := ih hvs
      refine ⟨j + 1, w, hj, ?_⟩
      rwa [Nat.add_right_comm] at hw

/-- A loop over entries that also fails at a key that is no text has failed at an entry, or there. -/
theorem exists_entry_of_loop
    (loop : List (Value × Value) → Except SchemaFault (List (Value × α)))
    (step : Text → Value → Except SchemaFault α) (refusal : Value → SchemaFault)
    {es : List (Value × Value)} (h : loop es = .error f) (hnil : loop [] = .ok [])
    (htext : ∀ key v es, loop ((.str key, v) :: es) = .error f →
      step key v = .error f ∨ loop es = .error f)
    (hother : ∀ e es, e.1.kind? ≠ some .string → loop (e :: es) = .error (refusal e.1)) :
    (∃ key v, (.str key, v) ∈ es ∧ step key v = .error f) ∨
      ∃ e ∈ es, e.1.kind? ≠ some .string ∧ f = refusal e.1 := by
  induction es with
  | nil => cases hnil.symm.trans h
  | cons e es ih =>
    by_cases hkey : e.1.kind? = some .string
    · obtain ⟨key, v⟩ := e
      obtain ⟨t, rfl⟩ := kind?_eq_string_iff.1 hkey
      obtain hv | hes := htext t v es h
      · exact .inl ⟨t, v, List.mem_cons_self, hv⟩
      · obtain ⟨key, w, hmem, hw⟩ | ⟨e, he, hbad⟩ := ih hes
        · exact .inl ⟨key, w, List.mem_cons_of_mem _ hmem, hw⟩
        · exact .inr ⟨e, List.mem_cons_of_mem _ he, hbad⟩
    · have hrefused := Except.error.inj (h.symm.trans (hother e es hkey))
      exact .inr ⟨e, List.mem_cons_self, hkey, hrefused⟩

end

theorem exists_item_of_toPlainList {vs : List Value} {path : Pointer} {i : Nat} {f : SchemaFault}
    (h : toPlainList vs path i = .error f) :
    ∃ (j : Nat) (v : Value), vs[j]? = some v ∧ v.toPlain (path.index (i + j)) = .error f :=
  exists_item_of_loop (fun vs i => toPlainList vs path i) (fun v i => v.toPlain (path.index i)) h
    (fun _ => rfl) fun _ _ _ => Except.both_eq_error

theorem exists_entry_of_toPlainEntries {es : List (Value × Value)} {path : Pointer}
    {f : SchemaFault} (h : toPlainEntries es path = .error f) :
    (∃ key v, (.str key, v) ∈ es ∧ v.toPlain (path.child key) = .error f) ∨
      ∃ e ∈ es, e.1.kind? ≠ some .string ∧ f = ⟨.keyNotText e.1, some path⟩ := by
  apply exists_entry_of_loop (fun es => toPlainEntries es path)
    (fun key v => v.toPlain (path.child key)) (fun key => ⟨.keyNotText key, some path⟩) h rfl
    fun _ _ _ => Except.both_eq_error
  intro e es hkey
  obtain ⟨key, v⟩ := e
  cases key with
  | str t => exact absurd rfl hkey
  | _ => rfl

end DataShape.Value
