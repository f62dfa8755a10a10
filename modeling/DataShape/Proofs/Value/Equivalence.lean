-- SUMMARY: JSON equality as a partial equivalence, and the walk that looks keys up on both sides and never misses one.
import DataShape.Proofs.Shape.Satisfies
import DataShape.Proofs.Value.Reflexivity

/-!
# Equivalence

JSON equality is given by recursion on its left side, yet neither side is
preferred: it is symmetric and transitive. A key of the left object is looked up
on the right only after the keys were found to be the same, and finds its own
value on the left. So a walk that looks every key up on both sides comes to the
same result, and no look-up in it fails.
-/

namespace DataShape.Value

/-! ## The walk that looks up keys -/

/-- JSON equality by kinds, by items in step, and by what the keys of the left object find on both
sides. Fails with a key that finds nothing. -/
def compareByKeys (v w : Value) : Except Value Bool :=
  if v.kind? ≠ w.kind? then .ok false
  else match v, w with
    | .array _ vs, .array _ ws =>
      if vs.length = ws.length then
        allOrFail (fun p => compareByKeys p.1.1 p.1.2) (vs.zip ws).attach
      else .ok false
    | .object _ es, .object _ fs =>
      if sameKeys es fs then
        allOrFail (fun key =>
          match _h : lookup key es, lookup key fs with
          | some v, some w => compareByKeys v w
          | _, _ => .error key) (es.map (·.1))
      else .ok false
    | v, w => .ok (v.eq w)
termination_by sizeOf v
decreasing_by
  · have hlt : sizeOf p.1.1 < sizeOf vs := List.sizeOf_lt_of_mem (List.of_mem_zip p.2).1
    rw [array.sizeOf_spec]
    omega
  · obtain ⟨e, he, -, rfl⟩ := exists_mem_of_lookup _h
    have hlt := sizeOf_lt_of_mem_entry he
    rw [object.sizeOf_spec]
    omega

theorem compareByKeys_of_kind?_ne {v w : Value} (h : v.kind? ≠ w.kind?) :
    Decides (v.compareByKeys w) (JsonEqual v w) := by
  have hno : ¬ JsonEqual v w := fun hvw => h (kind?_eq_of_jsonEq hvw)
  rw [compareByKeys.eq_def, if_pos h]
  exact .ok (by simpa using hno)

theorem compareByKeys_array {form form' : ArrayForm} {vs ws : List Value}
    (h : ∀ v ∈ vs, ∀ w, Decides (v.compareByKeys w) (JsonEqual v w)) :
    Decides (compareByKeys (.array form vs) (.array form' ws))
      (JsonEqual (.array form vs) (.array form' ws)) := by
  rw [compareByKeys.eq_def, if_neg (by simp [kind?]), jsonEq_arrays_iff, List.forall₂_iff_zip]
  dsimp only
  by_cases hlen : vs.length = ws.length
  · rw [if_pos hlen, and_iff_right hlen]
    refine (Decides.allOrFail (p := fun p => JsonEqual p.1.1 p.1.2) ?_).trans (by simp)
    exact fun p _ => h p.1.1 (List.of_mem_zip p.2).1 p.1.2
  · rw [if_neg hlen]
    exact .ok (by simp [hlen])

theorem compareByKeys_object {form form' : ObjectForm} {es fs : List (Value × Value)}
    (hself : ∀ e ∈ es, lookup e.1 es = some e.2)
    (h : ∀ e ∈ es, ∀ w, Decides (e.2.compareByKeys w) (JsonEqual e.2 w)) :
    Decides (compareByKeys (.object form es) (.object form' fs))
      (JsonEqual (.object form es) (.object form' fs)) := by
  have hiff : JsonEqual (.object form es) (.object form' fs) ↔
      sameKeys es fs = true ∧ ∀ e ∈ es, ∃ w, lookup e.1 fs = some w ∧ JsonEqual e.2 w := by
    rw [← jsonEqEntries_iff, ← Bool.and_eq_true, JsonEqual, jsonEq]
  rw [compareByKeys.eq_def, if_neg (by simp [kind?]), hiff]
  dsimp only
  by_cases hsame : sameKeys es fs = true
  · rw [if_pos hsame, and_iff_right hsame]
    have hfound : ∀ e ∈ es, ∃ w, lookup e.1 fs = some w := by
      simp only [sameKeys, Bool.and_eq_true, List.all_eq_true, Option.isSome_iff_exists] at hsame
      exact hsame.2
    refine (Decides.allOrFail (p := fun key =>
      ∃ v, lookup key es = some v ∧ ∃ w, lookup key fs = some w ∧ JsonEqual v w) ?_).trans ?_
    · rw [List.forall_mem_map]
      intro e he
      obtain ⟨w, hw⟩ := hfound e he
      split
      · rename_i v w' hv hw'
        obtain rfl := Option.some.inj ((hself e he).symm.trans hv)
        refine (h e he w').trans ?_
        simp [hv, hw']
      · rename_i hmissing
        exact absurd hw (hmissing e.2 w (hself e he))
    rw [List.forall_mem_map]
    refine forall₂_congr fun e he => ?_
    simp [hself e he]
  · rw [if_neg hsame]
    exact .ok (by simp [hsame])

theorem compareByKeys_decides (v : Value) : WellFormed v →
    ∀ w, Decides (v.compareByKeys w) (JsonEqual v w) := by
  induction v using inductionOnData with
  | array form vs ih =>
    intro hformed w
    rw [wellFormed_array_iff] at hformed
    by_cases hkind : w.kind? = some .array
    · obtain ⟨form', ws, rfl⟩ := kind?_eq_array_iff.1 hkind
      exact compareByKeys_array fun v hv => ih v hv (hformed v hv)
    · exact compareByKeys_of_kind?_ne (Ne.symm hkind)
  | object form es ih =>
    intro hformed w
    obtain ⟨hdistinct, hes⟩ := wellFormed_object_iff.1 hformed
    by_cases hkind : w.kind? = some .object
    · obtain ⟨form', fs, rfl⟩ := kind?_eq_object_iff.1 hkind
      refine compareByKeys_object (fun e he => ?_) fun e he => ih e he (hes e he).2
      exact lookup_of_mem hdistinct (fun f hf => (hes f hf).1) he
    · exact compareByKeys_of_kind?_ne (Ne.symm hkind)
  | scalar v hscalar =>
    intro _ w
    by_cases hkind : v.kind? = w.kind?
    · rw [compareByKeys.eq_def, if_neg (not_not.2 hkind), jsonEq_scalar_iff hscalar,
        and_iff_right hkind]
      cases v with
      | array form vs => exact absurd rfl hscalar.1
      | object form es => exact absurd rfl hscalar.2
      | _ => exact .ok Iff.rfl
    · exact compareByKeys_of_kind?_ne hkind

/-- JSON equality is symmetric and transitive, and a value equals itself unless a number that is not
a number stands in it. Looking the keys up on both sides never misses one. -/
theorem jsonEq_partial_equivalence {a b c : Value} (ha : WellFormed a) (hb : WellFormed b)
    (hc : WellFormed c) :
    a.jsonEq b = b.jsonEq a ∧ (a.jsonEq b = true → b.jsonEq c = true → a.jsonEq c = true) ∧
      (a.jsonEq a = true ↔ a.hasNaN = false) ∧ a.compareByKeys b = .ok (a.jsonEq b) := by
  have hab := coheres_jsonEq a ha
  have hba := coheres_jsonEq b hb
  refine ⟨?_, ?_, jsonEq_self_iff a ha, ?_⟩
  · rw [Bool.eq_iff_iff]
    exact ⟨hab.symm b hb, hba.symm a ha⟩
  · intro heq heq'
    exact hab.trans hb heq hc heq'
  · obtain ⟨verdict, hverdict, hiff⟩ := compareByKeys_decides a ha b
    rw [hverdict, Bool.eq_iff_iff.2 hiff]

/-- Three objects under the keys one and a tuple of one, each with a one of another type, in two
orders. -/
theorem jsonEq_partial_equivalence_colliding_keys :
    let one : Value := .float (.finite false 1023 0)
    let two : Value := .float (.finite false 1024 0)
    let a : Value := .object .plain
      [(.int 1, .list [.int 2]), (.array .tuple [.bool true], .object .plain [])]
    let b : Value := .object .readOnly
      [(.array .tuple [one], .object .plain []), (one, .array .tuple [two])]
    let c : Value := .object .plain
      [(.bool true, .list [two]), (.array .tuple [.int 1], .object .readOnly [])]
    (WellFormed a ∧ WellFormed b ∧ WellFormed c) ∧ a.jsonEq b = true ∧ b.jsonEq a = true ∧
      b.jsonEq c = true ∧ a.jsonEq c = true ∧ a.jsonEq a = true ∧ a.compareByKeys b = .ok true := by
  intro one two a b c
  have hformed : WellFormed a ∧ WellFormed b ∧ WellFormed c := by decide +kernel
  have hab : a.jsonEq b = true := by decide +kernel
  have hbc : b.jsonEq c = true := by decide +kernel
  have hnan : a.hasNaN = false := rfl
  obtain ⟨hsymm, htrans, hself, hwalk⟩ :=
    jsonEq_partial_equivalence hformed.1 hformed.2.1 hformed.2.2
  refine ⟨hformed, hab, hsymm ▸ hab, hbc, htrans hab hbc, hself.2 hnan, ?_⟩
  rw [hwalk, hab]

end DataShape.Value
