-- SUMMARY: Nodes that are no shapes make a difference only where the walk reaches one, and then stop it.
import Mathlib.Data.List.Forall2
import DataShape.Proofs.Shape.Occurrence

/-!
# Foreign nodes

A tree may hold foreign values and sealed shapes where shapes belong. The walk
stops at the first that it reaches, and fails with it. If it comes to an end it
has reached none, so whatever stands in their places, the verdict is the same.
-/

namespace DataShape

/-! ## Checks that settle others -/

/-- Whether one check, where it comes to an end, makes another end in the same way. -/
def Settles {ε : Type} (r r' : Except ε Bool) : Prop := ∀ b, r = .ok b → r' = .ok b

section
variable {ε α β : Type} {test : α → Except ε Bool} {test' : β → Except ε Bool} {l : List α}
  {l' : List β} {r r' : Except ε Bool}

theorem Settles.refl (r : Except ε Bool) : Settles r r := fun _ h => h

theorem Settles.map (h : Settles r r') (f : Bool → Bool) : Settles (r.map f) (r'.map f) := by
  intro b hb
  obtain ⟨c, hc, rfl⟩ := Except.map_eq_ok.1 hb
  rw [h c hc]
  rfl

/-- Items behind the first that does not pass are not looked at on either side. -/
theorem Settles.allOrFail (h : List.Forall₂ (fun a a' => Settles (test a) (test' a')) l l') :
    Settles (allOrFail test l) (allOrFail test' l') := by
  induction h with
  | nil => exact refl _
  | @cons a a' l l' haa _ ih =>
    intro b hb
    rw [DataShape.allOrFail] at hb
    split at hb
    · rename_i ha
      simpa only [DataShape.allOrFail, haa _ ha] using ih b hb
    · rename_i ha
      simpa only [DataShape.allOrFail, haa _ ha] using hb
    · cases hb

theorem exists_mem_of_allOrFail {e : ε} (h : allOrFail test l = .error e) :
    ∃ a ∈ l, test a = .error e := by
  induction l with
  | nil => cases h
  | cons a l ih =>
    rw [allOrFail] at h
    split at h
    · obtain ⟨c, hc, hfail⟩ := ih h
      exact ⟨c, List.mem_cons_of_mem _ hc, hfail⟩
    · cases h
    · rename_i hfail
      cases h
      exact ⟨a, List.mem_cons_self, hfail⟩

end

namespace Shape

variable {host : Host}

/-! ## The loops of the walk as one -/

theorem conformsEach_eq_allOrFail (ss : List Shape) (vs : List Value) :
    conformsEach ss vs = allOrFail (fun p => p.1.conforms p.2) (ss.zip vs) := by
  induction ss generalizing vs with
  | nil => simp only [conformsEach, List.zip_nil_left, allOrFail]
  | cons s ss ih =>
    cases vs with
    | nil => rfl
    | cons v vs =>
      simp only [conformsEach, List.zip_cons_cons, allOrFail, ih]
      cases s.conforms v with
      | error e => rfl
      | ok b => cases b <;> rfl

/-- Some member passes if not all of them refuse. -/
theorem conformsSome_eq_allOrFail (ss : List Shape) (v : Value) :
    conformsSome ss v = (allOrFail (fun s => (s.conforms v).map not) ss).map not := by
  induction ss with
  | nil => rfl
  | cons s ss ih =>
    rw [conformsSome, allOrFail]
    cases s.conforms v with
    | error e => rfl
    | ok b =>
      cases b with
      | true => rfl
      | false => exact ih

theorem conformsFields_eq_allOrFail (fs : List (Value × Shape)) (es : List (Value × Value)) :
    conformsFields fs es =
      allOrFail (fun f => f.2.conforms ((Value.lookup f.1 es).getD .absent)) fs := by
  induction fs with
  | nil => rfl
  | cons f fs ih =>
    simp only [conformsFields, allOrFail, ih]
    cases f.2.conforms ((Value.lookup f.1 es).getD .absent) with
    | error e => rfl
    | ok b => cases b <;> rfl

/-- Whether the verdicts of one shape are verdicts of another. -/
def Forecasts (s s' : Shape) : Prop := ∀ v, Settles (s.conforms v) (s'.conforms v)

theorem conformsEach_settles {ss ss' : List Shape} (h : List.Forall₂ Forecasts ss ss')
    (vs : List Value) : Settles (conformsEach ss vs) (conformsEach ss' vs) := by
  rw [conformsEach_eq_allOrFail, conformsEach_eq_allOrFail]
  apply Settles.allOrFail
  induction h generalizing vs with
  | nil => exact .nil
  | cons hs _ ih =>
    cases vs with
    | nil => exact .nil
    | cons v vs => exact .cons (hs v) (ih vs)

theorem conformsSome_settles {ss ss' : List Shape} (h : List.Forall₂ Forecasts ss ss') (v : Value) :
    Settles (conformsSome ss v) (conformsSome ss' v) := by
  rw [conformsSome_eq_allOrFail, conformsSome_eq_allOrFail]
  apply Settles.map
  apply Settles.allOrFail
  exact h.imp fun _ _ hs => (hs v).map not

theorem conformsFields_settles {fs fs' : List (Value × Shape)}
    (h : List.Forall₂ (fun f f' => f.1 = f'.1 ∧ Forecasts f.2 f'.2) fs fs')
    (es : List (Value × Value)) : Settles (conformsFields fs es) (conformsFields fs' es) := by
  rw [conformsFields_eq_allOrFail, conformsFields_eq_allOrFail]
  apply Settles.allOrFail
  refine h.imp ?_
  rintro f f' ⟨hkey, hs⟩
  rw [hkey]
  exact hs _

/-! ## Whole trees -/

/-- Whether a tree becomes another when other nodes of any kind are put in the place of some that
are no shapes. -/
inductive Patched : Shape → Shape → Prop
  | keep (t : Shape) : Patched t t
  | replace {s : Shape} (hs : s.isNode = false) (s' : Shape) : Patched s s'
  | optional {t t' : Shape} (h : Patched t t') : Patched (.optional t) (.optional t')
  | array {t t' : Shape} (h : Patched t t') : Patched (.array t) (.array t')
  | tuple {ts ts' : List Shape} (hlen : ts.length = ts'.length)
      (h : ∀ (i : Nat) (hi : i < ts.length) (hi' : i < ts'.length), Patched ts[i] ts'[i]) :
      Patched (.tuple ts) (.tuple ts')
  | union {ts ts' : List Shape} (hlen : ts.length = ts'.length)
      (h : ∀ (i : Nat) (hi : i < ts.length) (hi' : i < ts'.length), Patched ts[i] ts'[i]) :
      Patched (.union ts) (.union ts')
  | object {fs fs' : List (Value × Shape)} (hlen : fs.length = fs'.length)
      (hkey : ∀ (i : Nat) (hi : i < fs.length) (hi' : i < fs'.length), fs[i].1 = fs'[i].1)
      (h : ∀ (i : Nat) (hi : i < fs.length) (hi' : i < fs'.length), Patched fs[i].2 fs'[i].2) :
      Patched (.object fs) (.object fs')

theorem conforms_of_not_isNode {s : Shape} (hs : s.isNode = false) (v : Value) :
    s.conforms v = .error s := by
  cases s with
  | foreign x => rfl
  | sealed s => rfl
  | _ => cases hs

theorem Patched.forecasts {t t' : Shape} (h : Patched t t') : Forecasts t t' := by
  induction h with
  | keep t => exact fun v => .refl _
  | replace hs s' =>
    -- A node that is no shape comes to no verdict, so there is none to keep.
    intro v b hb
    cases (conforms_of_not_isNode hs v).symm.trans hb
  | optional _ ih =>
    intro v
    cases v with
    | absent => exact .refl _
    | _ => exact ih _
  | array _ ih =>
    intro v
    cases v with
    | array form items => exact .allOrFail (List.forall₂_same.2 fun w _ => ih w)
    | _ => exact .refl _
  | tuple hlen _ ih =>
    intro v
    cases v with
    | array form items =>
      simp only [conforms, hlen]
      split
      · exact conformsEach_settles (List.forall₂_iff_get.2 ⟨hlen, ih⟩) items
      · exact .refl _
    | _ => exact .refl _
  | union hlen _ ih => exact conformsSome_settles (List.forall₂_iff_get.2 ⟨hlen, ih⟩)
  | object hlen hkey _ ih =>
    intro v
    cases v with
    | object form entries =>
      refine conformsFields_settles (List.forall₂_iff_get.2 ⟨hlen, fun i hi hi' => ?_⟩) entries
      exact ⟨hkey i hi hi', ih i hi hi'⟩
    | _ => exact .refl _

/-- What the walk fails with is a node of the tree that is no shape. -/
theorem occurs_of_conforms (s : Shape) :
    ∀ v bad, s.conforms v = .error bad → bad.isNode = false ∧ Occurs bad s := by
  induction s using inductionOnParts with
  | optional s ih =>
    intro v bad h
    cases v with
    | absent => cases h
    | _ => exact (ih _ bad h).imp_right .optional
  | array s ih =>
    intro v bad h
    cases v with
    | array form items =>
      obtain ⟨w, -, hw⟩ := exists_mem_of_allOrFail h
      exact (ih w bad hw).imp_right .array
    | _ => cases h
  | tuple ss ih =>
    intro v bad h
    cases v with
    | array form items =>
      rw [conforms] at h
      split at h
      · rw [conformsEach_eq_allOrFail] at h
        obtain ⟨⟨s, w⟩, hmem, hw⟩ := exists_mem_of_allOrFail h
        have hs := (List.of_mem_zip hmem).1
        exact (ih s hs w bad hw).imp_right (.tuple hs)
      · cases h
    | _ => cases h
  | union ss ih =>
    intro v bad h
    rw [conforms, conformsSome_eq_allOrFail] at h
    obtain ⟨s, hs, hv⟩ := exists_mem_of_allOrFail (Except.map_eq_error.1 h)
    exact (ih s hs v bad (Except.map_eq_error.1 hv)).imp_right (.union hs)
  | object fs ih =>
    intro v bad h
    cases v with
    | object form entries =>
      rw [conforms, conformsFields_eq_allOrFail] at h
      obtain ⟨f, hf, hw⟩ := exists_mem_of_allOrFail h
      exact (ih f hf _ bad hw).imp_right (.object hf)
    | _ => cases h
  | foreign x =>
    intro v bad h
    cases h
    exact ⟨rfl, .here⟩
  | sealed s _ =>
    intro v bad h
    cases h
    exact ⟨rfl, .here⟩
  | _ =>
    intro v bad h
    cases h

/-- Nodes that are no shapes are harmless unless the walk reaches one: a verdict stays whatever is
put in their places. A failure is about one that occurs in the tree: it is without a location and
shows that node, unless the node cannot be shown. -/
theorem isValid_of_patched {s t : Shape} (hs : s.top = .ok t) (v : Value) :
    (∀ b, s.isValid host v = .ok b →
      ∀ s' t' : Shape, s'.top = .ok t' → Patched t t' → s'.isValid host v = .ok b) ∧
    ∀ r, s.isValid host v = .error r → ∃ bad, bad.isNode = false ∧ Occurs bad t ∧
      ((bad.showFault? host.showing = none ∧ ∃ f, r = .schema f ∧ f.path = none ∧
          f.message = "Unknown runtime type: " ++ bad.inspect) ∨
        ∃ why, bad.showFault? host.showing = some why ∧ r = .unshowable why) := by
  cases hv : t.conforms v with
  | ok b =>
    have hverdict : s.isValid host v = .ok b := isValid_eq_ok hs hv
    constructor
    · intro b' hb' s' t' hs' hpatched
      obtain rfl := Except.ok.inj (hverdict.symm.trans hb')
      exact isValid_eq_ok hs' (hpatched.forecasts v b hv)
    · intro r hr
      cases hverdict.symm.trans hr
  | error bad =>
    have hraised : s.isValid host v =
        .error (SchemaFault.raised host ⟨.unknownNode bad, none⟩) := by
      rw [isValid, check_of_top hs, hv]
      rfl
    obtain ⟨hbad, hoccurs⟩ := occurs_of_conforms t v bad hv
    constructor
    · intro b hb
      cases hraised.symm.trans hb
    · intro r hr
      obtain rfl := Except.error.inj (hraised.symm.trans hr)
      refine ⟨bad, hbad, hoccurs, ?_⟩
      cases hshow : bad.showFault? host.showing with
      | none => exact .inl ⟨rfl, _, raised_eq_schema_iff.2 ⟨rfl, hshow⟩, rfl, rfl⟩
      | some why => exact .inr ⟨why, rfl, raised_of_showFault? hshow⟩

/-- A record with a foreign number beside a literal, and a sealed shape for a field that may be
missing. Other nodes in their places leave the verdict on a value that reaches neither; a value that
the literal does not equal reaches the number. -/
theorem isValid_of_patched_number_and_sealed :
    let record (s s' : Shape) : Shape := .object
      [(.ofString "kind", .union [.literal (.ofString "a"), s]), (.ofString "next", .optional s')]
    let t : Shape := record (.foreign (.int 5)) (.sealed .string)
    let t' : Shape := record (.array .null) (.foreign .null)
    let under (kind : String) : Value := .object .plain [(.ofString "kind", .ofString kind)]
    t.isValid .shallow (under "a") = .ok true ∧ t'.isValid .shallow (under "a") = .ok true ∧
      ∃ f bad, t.isValid .shallow (under "b") = .error (.schema f) ∧ f.path = none ∧
        f.message = "Unknown runtime type: 5" ∧ bad.isNode = false ∧ Occurs bad t := by
  intro record t t' under
  have hpatched : Patched t t' := by
    refine .object rfl (fun i hi hi' => ?_) fun i hi hi' => ?_
    · match i with
      | 0 | 1 => rfl
    · match i with
      | 0 =>
        refine .union rfl fun i hi hi' => ?_
        match i with
        | 0 => exact .keep _
        | 1 => exact .replace rfl _
      | 1 => exact .optional (.replace rfl _)
  have hverdict : t.isValid .shallow (under "a") = .ok true := rfl
  have hpatch := (isValid_of_patched (s := t) rfl (under "a")).1 true hverdict t' t' rfl hpatched
  have hfault : t.isValid .shallow (under "b") =
      .error (.schema ⟨.unknownNode (.foreign (.int 5)), none⟩) :=
    raising_eq_schema_iff.2 ⟨rfl, by decide +kernel⟩
  obtain ⟨bad, hbad, hoccurs, -⟩ := (isValid_of_patched (s := t) rfl (under "b")).2 _ hfault
  exact ⟨hverdict, hpatch, _, bad, hfault, rfl, rfl, hbad, hoccurs⟩

/-- A number among the nodes that has too many digits to be shown: nothing is said about the tree
when the walk reaches it. -/
theorem not_isValid_eq_schema_huge_number :
    let bad : Shape := .foreign (.int (.ofNat (Nat.pow 10 5000)))
    bad.isNode = false ∧ Occurs bad (.array bad) ∧
      (Shape.array bad).isValid .shallow (.list [.ofString "x"]) =
        .error (.unshowable .tooManyDigits) := by
  intro bad
  have hshow : bad.showFault? Host.shallow.showing = some .tooManyDigits := by decide +kernel
  -- stated for any node, so that the number stays folded
  have hisValid : ∀ (x : Value) (why : Value.ShowFault),
      (Shape.foreign x).showFault? Host.shallow.showing = some why →
      (Shape.array (.foreign x)).isValid .shallow (.list [.ofString "x"]) =
        .error (.unshowable why) := by
    intro x why hwhy
    have hcheck : (Shape.array (.foreign x)).check (.list [.ofString "x"]) =
        .error ⟨.unknownNode (.foreign x), none⟩ := rfl
    have hfault : (SchemaProblem.unknownNode (.foreign x)).showFault? .shallow = some why := hwhy
    rw [isValid, hcheck, raising_error, raised_of_showFault? hfault]
  exact ⟨rfl, .array .here, hisValid _ _ hshow⟩

end Shape

end DataShape
