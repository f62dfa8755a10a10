-- SUMMARY: Values that are alike in all that a walk looks at get the same outcome, faults included.
import Mathlib.Data.List.Forall2
import Mathlib.Data.Option.Basic
import DataShape.Shape.Conforms
import DataShape.Proofs.Shape.Occurrence

/-!
# Alike values

The walk looks at kinds and lengths, at items in order and at what stands under
declared keys, and it asks for JSON equality at literals. If two values are
alike in this, and what stands inside them is too, both walks reach the same
nodes in the same order, and where one of the nodes is no shape, both stop at
it. The relation may pass over everything that no node of the shape asks for.
-/

namespace DataShape

theorem allOrFail_congr {ε α : Type} {test : α → Except ε Bool} {as bs : List α}
    (h : List.Forall₂ (fun a b => test a = test b) as bs) :
    allOrFail test as = allOrFail test bs := by
  induction h with
  | nil => rfl
  | cons hab _ ih => rw [allOrFail, allOrFail, hab, ih]

/-- Whether related values are alike, as far as certain keys are looked up and certain literals are
compared with. -/
structure Alike (keys literals : Value → Prop) (r : Value → Value → Prop) : Prop where
  kind : ∀ v w, r v w → v.kind? = w.kind?
  absent : ∀ v w, r v w → (v = .absent ↔ w = .absent)
  items : ∀ form vs form' ws, r (.array form vs) (.array form' ws) → List.Forall₂ r vs ws
  entries : ∀ form es form' fs, r (.object form es) (.object form' fs) →
    ∀ key, keys key → Option.Rel r (Value.lookup key es) (Value.lookup key fs)
  literal : ∀ v w, r v w → ∀ x, literals x → v.jsonEq x = w.jsonEq x

namespace Shape

/-- Whether a shape tells no two related values apart. -/
def IsBlindTo (r : Value → Value → Prop) (s : Shape) : Prop :=
  ∀ v w, r v w → s.conforms v = s.conforms w

/-- Whether a node looks up certain keys only, and compares with certain literals only. -/
def AsksOnly (keys literals : Value → Prop) : Shape → Prop
  | .literal x => literals x
  | .object fs => ∀ f ∈ fs, keys f.1
  | _ => True

/-! ## Lists of parts -/

section
variable {r : Value → Value → Prop} {ss : List Shape}

theorem conformsEach_congr (hss : ∀ s ∈ ss, s.IsBlindTo r) {vs ws : List Value}
    (h : List.Forall₂ r vs ws) : conformsEach ss vs = conformsEach ss ws := by
  induction ss generalizing vs ws with
  | nil => simp only [conformsEach]
  | cons s ss ih =>
    obtain ⟨hs, hss⟩ := List.forall_mem_cons.1 hss
    cases h with
    | nil => rfl
    | cons hvw hrest => rw [conformsEach, conformsEach, hs _ _ hvw, ih hss hrest]

theorem conformsSome_congr (hss : ∀ s ∈ ss, s.IsBlindTo r) {v w : Value} (h : r v w) :
    conformsSome ss v = conformsSome ss w := by
  induction ss with
  | nil => rfl
  | cons s ss ih =>
    obtain ⟨hs, hss⟩ := List.forall_mem_cons.1 hss
    rw [conformsSome, conformsSome, hs v w h, ih hss]

theorem conforms_getD_congr {s : Shape} (hs : s.IsBlindTo r) {v? w? : Option Value}
    (h : Option.Rel r v? w?) : s.conforms (v?.getD .absent) = s.conforms (w?.getD .absent) := by
  cases h with
  | none => rfl
  | some hvw => exact hs _ _ hvw

theorem conformsFields_congr {gs : List (Value × Shape)} (hgs : ∀ g ∈ gs, g.2.IsBlindTo r)
    {es fs : List (Value × Value)}
    (h : ∀ g ∈ gs, Option.Rel r (Value.lookup g.1 es) (Value.lookup g.1 fs)) :
    conformsFields gs es = conformsFields gs fs := by
  induction gs with
  | nil => rfl
  | cons g gs ih =>
    obtain ⟨hg, hgs⟩ := List.forall_mem_cons.1 hgs
    obtain ⟨hentry, h⟩ := List.forall_mem_cons.1 h
    rw [conformsFields, conformsFields, conforms_getD_congr hg hentry, ih hgs h]

end

/-! ## Whole trees -/

section
variable {v : Value}

theorem conforms_optional_of_ne_absent {s : Shape} (h : v ≠ .absent) :
    (optional s).conforms v = s.conforms v := by
  cases v with
  | absent => exact absurd rfl h
  | _ => rfl

theorem conforms_array_of_kind?_ne {s : Shape} (h : v.kind? ≠ some .array) :
    (array s).conforms v = .ok false := by
  cases v with
  | array form vs => exact absurd rfl h
  | _ => rfl

theorem conforms_tuple_of_kind?_ne {ss : List Shape} (h : v.kind? ≠ some .array) :
    (tuple ss).conforms v = .ok false := by
  cases v with
  | array form vs => exact absurd rfl h
  | _ => rfl

theorem conforms_object_of_kind?_ne {fs : List (Value × Shape)} (h : v.kind? ≠ some .object) :
    (object fs).conforms v = .ok false := by
  cases v with
  | object form es => exact absurd rfl h
  | _ => rfl

end

variable {keys literals : Value → Prop} {r : Value → Value → Prop}

/-- A shape is blind to what none of its nodes asks for. -/
theorem isBlindTo_of_alike (hr : Alike keys literals r) (s : Shape) :
    s.AllNodes (AsksOnly keys literals) → s.IsBlindTo r := by
  induction s using inductionOnParts with
  | literal x =>
    intro hs v w hvw
    rw [conforms, conforms, hr.literal v w hvw x (hs _ .here)]
  | optional s ih =>
    intro hs v w hvw
    have habsent := hr.absent v w hvw
    -- Absence is the one value that is not handed down to the element.
    by_cases hv : v = .absent
    · rw [hv, habsent.1 hv]
    · have hw := mt habsent.2 hv
      rw [conforms_optional_of_ne_absent hv, conforms_optional_of_ne_absent hw]
      exact ih (allNodes_optional_iff.1 hs).2 v w hvw
  | array s ih =>
    intro hs v w hvw
    have hkind := hr.kind v w hvw
    by_cases hv : v.kind? = some .array
    · obtain ⟨form, vs, rfl⟩ := Value.kind?_eq_array_iff.1 hv
      obtain ⟨form', ws, rfl⟩ := Value.kind?_eq_array_iff.1 (hkind.symm.trans hv)
      have hitems := hr.items form vs form' ws hvw
      exact allOrFail_congr (hitems.imp (ih (allNodes_array_iff.1 hs).2))
    · have hw := hkind ▸ hv
      rw [conforms_array_of_kind?_ne hv, conforms_array_of_kind?_ne hw]
  | tuple ss ih =>
    intro hss v w hvw
    have hparts := fun s hs => ih s hs ((allNodes_tuple_iff.1 hss).2 s hs)
    have hkind := hr.kind v w hvw
    by_cases hv : v.kind? = some .array
    · obtain ⟨form, vs, rfl⟩ := Value.kind?_eq_array_iff.1 hv
      obtain ⟨form', ws, rfl⟩ := Value.kind?_eq_array_iff.1 (hkind.symm.trans hv)
      have hitems := hr.items form vs form' ws hvw
      simp only [conforms, hitems.length_eq, conformsEach_congr hparts hitems]
    · have hw := hkind ▸ hv
      rw [conforms_tuple_of_kind?_ne hv, conforms_tuple_of_kind?_ne hw]
  | union ss ih =>
    intro hss v w hvw
    have hparts := fun s hs => ih s hs ((allNodes_union_iff.1 hss).2 s hs)
    exact conformsSome_congr hparts hvw
  | object gs ih =>
    intro hgs v w hvw
    have hparts := fun g hg => ih g hg ((allNodes_object_iff.1 hgs).2 g hg)
    have hkind := hr.kind v w hvw
    by_cases hv : v.kind? = some .object
    · obtain ⟨form, es, rfl⟩ := Value.kind?_eq_object_iff.1 hv
      obtain ⟨form', fs, rfl⟩ := Value.kind?_eq_object_iff.1 (hkind.symm.trans hv)
      have hentries := hr.entries form es form' fs hvw
      exact conformsFields_congr hparts fun g hg => hentries g.1 (hgs _ .here g hg)
    · have hw := hkind ▸ hv
      rw [conforms_object_of_kind?_ne hv, conforms_object_of_kind?_ne hw]
  | foreign x =>
    intro _ v w _
    rw [conforms, conforms]
  | sealed s _ =>
    intro _ v w _
    rw [conforms, conforms]
  | _ =>
    intro _ v w hvw
    simp only [conforms, Value.isNumber, hr.kind v w hvw]

end Shape

end DataShape
