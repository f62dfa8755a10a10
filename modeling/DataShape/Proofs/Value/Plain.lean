-- SUMMARY: The values that JSON can write, their plain form, and the conversion as the partial function that gives it.
import DataShape.Value.Plain

/-!
# Plain forms

The conversion to plain values succeeds on exactly the values that JSON can
write, and gives the plain form, whatever path it reports faults at. A plain
form is its own plain form.
-/

theorem Except.bind_eq_ok {ε α β : Type} {x : Except ε α} {f : α → Except ε β} {b : β} :
    x >>= f = .ok b ↔ ∃ a, x = .ok a ∧ f a = .ok b := by
  cases x with
  | error e => simp [bind, Except.bind]
  | ok a => simp [bind, Except.bind]

theorem Except.map_eq_ok {ε α β : Type} {x : Except ε α} {f : α → β} {b : β} :
    x.map f = .ok b ↔ ∃ a, x = .ok a ∧ f a = b := by
  cases x with
  | error e => simp [Except.map]
  | ok a => simp [Except.map]

theorem Except.map_eq_error {ε α β : Type} {x : Except ε α} {f : α → β} {e : ε} :
    x.map f = .error e ↔ x = .error e := by
  cases x <;> simp [Except.map]

/-- Of two computations one after the other, one has failed when the whole has. -/
theorem Except.both_eq_error {ε α β γ : Type} {x : Except ε α} {y : Except ε β} {f : α → β → γ}
    {e : ε} (h : (do let a ← x; let b ← y; return f a b) = .error e) :
    x = .error e ∨ y = .error e := by
  cases x with
  | error e' =>
    cases h
    exact .inl rfl
  | ok a =>
    cases y with
    | error e' =>
      cases h
      exact .inr rfl
    | ok b => cases h

namespace DataShape.Value

mutual

/-- Whether JSON can write a value: a kind at every depth, and texts for keys. -/
def isJson : Value → Bool
  | .array _ items => isJsonList items
  | .object _ entries => isJsonEntries entries
  | v => v.kind?.isSome
termination_by structural v => v

def isJsonList : List Value → Bool
  | [] => true
  | v :: vs => isJson v && isJsonList vs
termination_by structural vs => vs

def isJsonEntries : List (Value × Value) → Bool
  | [] => true
  | (k, v) :: rest => k.kind? = some .string && isJson v && isJsonEntries rest
termination_by structural es => es

end

mutual

/-- The value with a list for each array and a plain object for each object. -/
def plain : Value → Value
  | .array _ items => .array .list (plainList items)
  | .object _ entries => .object .plain (plainEntries entries)
  | v => v
termination_by structural v => v

def plainList : List Value → List Value
  | [] => []
  | v :: vs => plain v :: plainList vs
termination_by structural vs => vs

def plainEntries : List (Value × Value) → List (Value × Value)
  | [] => []
  | (k, v) :: rest => (k, plain v) :: plainEntries rest
termination_by structural es => es

end

theorem kind?_isSome_of_isJson {v : Value} (h : v.isJson = true) : v.kind?.isSome = true := by
  cases v with
  | array form items => rfl
  | object form entries => rfl
  | _ => exact h

theorem kind?_eq_null_iff {v : Value} : v.kind? = some .null ↔ v = .null := by
  cases v <;> simp [kind?]

theorem kind?_eq_boolean_iff {v : Value} : v.kind? = some .boolean ↔ ∃ b, v = .bool b := by
  cases v <;> simp [kind?]

theorem kind?_eq_number_iff {v : Value} :
    v.kind? = some .number ↔ (∃ n, v = .int n) ∨ ∃ x, v = .float x := by
  cases v <;> simp [kind?]

theorem kind?_eq_string_iff {v : Value} : v.kind? = some .string ↔ ∃ t, v = .str t := by
  cases v <;> simp [kind?]

theorem kind?_eq_array_iff {v : Value} :
    v.kind? = some .array ↔ ∃ form items, v = .array form items := by
  cases v <;> simp [kind?]

theorem kind?_eq_object_iff {v : Value} :
    v.kind? = some .object ↔ ∃ form entries, v = .object form entries := by
  cases v <;> simp [kind?]

/-! ## The conversion -/

mutual

theorem toPlain_eq_ok_iff (v w : Value) (path : Pointer) :
    v.toPlain path = .ok w ↔ v.isJson = true ∧ w = v.plain := by
  cases v with
  | array form items =>
    simp only [toPlain, isJson, plain, Except.map_eq_ok, toPlainList_eq_ok_iff items]
    exact ⟨fun ⟨ws, ⟨h, hws⟩, hw⟩ => ⟨h, by rw [← hw, hws]⟩, fun ⟨h, hw⟩ => ⟨_, ⟨h, rfl⟩, hw.symm⟩⟩
  | object form entries =>
    simp only [toPlain, isJson, plain, Except.map_eq_ok, toPlainEntries_eq_ok_iff entries]
    exact ⟨fun ⟨ws, ⟨h, hws⟩, hw⟩ => ⟨h, by rw [← hw, hws]⟩, fun ⟨h, hw⟩ => ⟨_, ⟨h, rfl⟩, hw.symm⟩⟩
  | _ => simp [toPlain, isJson, plain, kind?, eq_comm]
termination_by structural v

theorem toPlainList_eq_ok_iff (vs ws : List Value) (path : Pointer) (i : Nat) :
    toPlainList vs path i = .ok ws ↔ isJsonList vs = true ∧ ws = plainList vs := by
  cases vs with
  | nil => simp [toPlainList, isJsonList, plainList, eq_comm]
  | cons v vs =>
    simp only [toPlainList, isJsonList, plainList, Except.bind_eq_ok, toPlain_eq_ok_iff v,
      toPlainList_eq_ok_iff vs, Bool.and_eq_true]
    constructor
    · rintro ⟨w, ⟨hv, rfl⟩, ws', ⟨hvs, rfl⟩, hws⟩
      exact ⟨⟨hv, hvs⟩, (Except.ok.inj hws).symm⟩
    · rintro ⟨⟨hv, hvs⟩, rfl⟩
      exact ⟨_, ⟨hv, rfl⟩, _, ⟨hvs, rfl⟩, rfl⟩
termination_by structural vs

theorem toPlainEntries_eq_ok_iff (es fs : List (Value × Value)) (path : Pointer) :
    toPlainEntries es path = .ok fs ↔ isJsonEntries es = true ∧ fs = plainEntries es := by
  cases es with
  | nil => simp [toPlainEntries, isJsonEntries, plainEntries, eq_comm]
  | cons e es =>
    obtain ⟨key, v⟩ := e
    by_cases hkey : key.kind? = some .string
    · obtain ⟨t, rfl⟩ := kind?_eq_string_iff.1 hkey
      simp only [toPlainEntries, isJsonEntries, plainEntries, Except.bind_eq_ok,
        toPlain_eq_ok_iff v, toPlainEntries_eq_ok_iff es, Bool.and_eq_true, hkey, decide_true,
        true_and]
      constructor
      · rintro ⟨w, ⟨hv, rfl⟩, fs', ⟨hes, rfl⟩, hfs⟩
        exact ⟨⟨hv, hes⟩, (Except.ok.inj hfs).symm⟩
      · rintro ⟨⟨hv, hes⟩, rfl⟩
        exact ⟨_, ⟨hv, rfl⟩, _, ⟨hes, rfl⟩, rfl⟩
    · have hfault : toPlainEntries ((key, v) :: es) path = .error ⟨.keyNotText key, some path⟩ := by
        cases key with
        | str t => exact absurd rfl hkey
        | _ => rfl
      simp [hfault, isJsonEntries, hkey]
termination_by structural es

end

/-! ## Plain forms -/

theorem plainList_eq_map (vs : List Value) : plainList vs = vs.map plain := by
  induction vs with
  | nil => rfl
  | cons v vs ih => rw [plainList, ih, List.map_cons]

theorem plainEntries_eq_map (es : List (Value × Value)) :
    plainEntries es = es.map fun e => (e.1, e.2.plain) := by
  induction es with
  | nil => rfl
  | cons e es ih => rw [plainEntries, ih, List.map_cons]

mutual

@[simp] theorem plain_plain (v : Value) : v.plain.plain = v.plain := by
  cases v with
  | array form items => simp only [plain, plainList_plainList items]
  | object form entries => simp only [plain, plainEntries_plainEntries entries]
  | _ => rfl
termination_by structural v

theorem plainList_plainList (vs : List Value) : plainList (plainList vs) = plainList vs := by
  cases vs with
  | nil => rfl
  | cons v vs => simp only [plainList, plain_plain v, plainList_plainList vs]
termination_by structural vs

theorem plainEntries_plainEntries (es : List (Value × Value)) :
    plainEntries (plainEntries es) = plainEntries es := by
  cases es with
  | nil => rfl
  | cons e es => simp only [plainEntries, plain_plain e.2, plainEntries_plainEntries es]
termination_by structural es

end

mutual

@[simp] theorem isJson_plain (v : Value) : v.plain.isJson = v.isJson := by
  cases v with
  | array form items => simp only [plain, isJson, isJsonList_plainList items]
  | object form entries => simp only [plain, isJson, isJsonEntries_plainEntries entries]
  | _ => rfl
termination_by structural v

theorem isJsonList_plainList (vs : List Value) : isJsonList (plainList vs) = isJsonList vs := by
  cases vs with
  | nil => rfl
  | cons v vs => simp only [plainList, isJsonList, isJson_plain v, isJsonList_plainList vs]
termination_by structural vs

theorem isJsonEntries_plainEntries (es : List (Value × Value)) :
    isJsonEntries (plainEntries es) = isJsonEntries es := by
  cases es with
  | nil => rfl
  | cons e es =>
    simp only [plainEntries, isJsonEntries, isJson_plain e.2, isJsonEntries_plainEntries es]
termination_by structural es

end

mutual

/-- Whether a value is plain all the way down: lists, plain objects with texts for keys, and scalars
of a JSON kind. -/
def isPlain : Value → Bool
  | .array form items => form = .list && isPlainList items
  | .object form entries => form = .plain && isPlainEntries entries
  | v => v.kind?.isSome
termination_by structural v => v

def isPlainList : List Value → Bool
  | [] => true
  | v :: vs => isPlain v && isPlainList vs
termination_by structural vs => vs

def isPlainEntries : List (Value × Value) → Bool
  | [] => true
  | (k, v) :: rest => k.kind? = some .string && isPlain v && isPlainEntries rest
termination_by structural es => es

end

mutual

theorem isPlain_iff (v : Value) : v.isPlain = true ↔ v.isJson = true ∧ v.plain = v := by
  cases v with
  | array form items =>
    simp only [isPlain, isJson, plain, Bool.and_eq_true, decide_eq_true_eq,
      isPlainList_iff items, array.injEq]
    constructor
    · rintro ⟨rfl, hjson, hplain⟩
      exact ⟨hjson, rfl, hplain⟩
    · rintro ⟨hjson, rfl, hplain⟩
      exact ⟨rfl, hjson, hplain⟩
  | object form entries =>
    simp only [isPlain, isJson, plain, Bool.and_eq_true, decide_eq_true_eq,
      isPlainEntries_iff entries, object.injEq]
    constructor
    · rintro ⟨rfl, hjson, hplain⟩
      exact ⟨hjson, rfl, hplain⟩
    · rintro ⟨hjson, rfl, hplain⟩
      exact ⟨rfl, hjson, hplain⟩
  | _ => simp [isPlain, isJson, plain]
termination_by structural v

theorem isPlainList_iff (vs : List Value) :
    isPlainList vs = true ↔ isJsonList vs = true ∧ plainList vs = vs := by
  cases vs with
  | nil => simp [isPlainList, isJsonList, plainList]
  | cons v vs =>
    simp only [isPlainList, isJsonList, plainList, Bool.and_eq_true, isPlain_iff v,
      isPlainList_iff vs, List.cons.injEq]
    exact and_and_and_comm
termination_by structural vs

theorem isPlainEntries_iff (es : List (Value × Value)) :
    isPlainEntries es = true ↔ isJsonEntries es = true ∧ plainEntries es = es := by
  cases es with
  | nil => simp [isPlainEntries, isJsonEntries, plainEntries]
  | cons e es =>
    obtain ⟨key, v⟩ := e
    simp only [isPlainEntries, isJsonEntries, plainEntries, Bool.and_eq_true, isPlain_iff v,
      isPlainEntries_iff es, List.cons.injEq, Prod.mk.injEq, true_and]
    constructor
    · rintro ⟨⟨hkey, hv, hv'⟩, hes, hes'⟩
      exact ⟨⟨⟨hkey, hv⟩, hes⟩, hv', hes'⟩
    · rintro ⟨⟨⟨hkey, hv⟩, hes⟩, hv', hes'⟩
      exact ⟨⟨hkey, hv, hv'⟩, hes, hes'⟩
termination_by structural es

end

theorem isJson_of_isPlain {v : Value} (h : v.isPlain = true) : v.isJson = true :=
  ((isPlain_iff v).1 h).1

theorem isPlain_plain {v : Value} (h : v.isJson = true) : v.plain.isPlain = true := by
  rw [isPlain_iff, isJson_plain]
  exact ⟨h, plain_plain v⟩

/-- The plain values are the ones that the conversion leaves as they are. -/
theorem toPlain_eq_self_iff (v : Value) (path : Pointer) :
    v.toPlain path = .ok v ↔ v.isPlain = true := by
  rw [toPlain_eq_ok_iff, isPlain_iff, eq_comm (a := v)]

end DataShape.Value
