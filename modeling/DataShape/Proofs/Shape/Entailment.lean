-- SUMMARY: Entailment of shapes, its rules form by form, and parts that are replaced at any depth.
import DataShape.Proofs.Shape.Conformance
import DataShape.Proofs.Value.JsonEq

/-!
# Entailment

One shape entails another when every value that satisfies it satisfies the
other. Absence counts as a value here, since a field that is not there hands it
down. No form of a shape asks a part to refuse a value, so entailment passes
from the parts to the whole, and a part may give way to a wider one anywhere.
-/

namespace DataShape

namespace Decides

variable {ε : Type} {r r' : Except ε Bool} {p q : Prop}

theorem eq_ok_true_iff (h : Decides r p) : r = .ok true ↔ p := by
  obtain ⟨b, rfl, hp⟩ := h
  rw [Except.ok.injEq, hp]

theorem eq_of_iff (h : Decides r p) (h' : Decides r' q) (hpq : p ↔ q) : r = r' := by
  obtain ⟨b, rfl, hp⟩ := h
  obtain ⟨b', rfl, hq⟩ := h'
  rw [Bool.eq_iff_iff.2 (hp.trans (hpq.trans hq.symm))]

end Decides

namespace Shape

variable {host : Host}

open Value (WellFormed WellFormedEntries JsonEqual LooselyEqual)

theorem top_of_isProper {s : Shape} (hs : s.isProper = true) : s.top = .ok s := by
  cases s with
  | foreign v => cases hs
  | sealed s => cases hs
  | _ => rfl

theorem isValid_decides_of_top {s node : Shape} (hnode : s.top = .ok node)
    (hproper : node.isProper = true) (v : Value) :
    Decides (s.isValid host v) (node.Satisfies v) := by
  obtain ⟨b, hb, hsatisfies⟩ := conforms_decides node hproper v
  exact ⟨b, isValid_eq_ok hnode hb, hsatisfies⟩

theorem isValid_decides {s : Shape} (hs : s.isProper = true) (v : Value) :
    Decides (s.isValid host v) (s.Satisfies v) :=
  isValid_decides_of_top (top_of_isProper hs) hs v

/-- Whether every value that satisfies one shape satisfies another. -/
def Entails (s t : Shape) : Prop := ∀ v, WellFormed v → s.Satisfies v → t.Satisfies v

theorem entails_iff_isValid (host : Host) {s t : Shape} (hs : s.isProper = true)
    (ht : t.isProper = true) :
    s.Entails t ↔
      ∀ v, WellFormed v → s.isValid host v = .ok true → t.isValid host v = .ok true := by
  refine forall₂_congr fun v _ => ?_
  rw [(isValid_decides hs v).eq_ok_true_iff, (isValid_decides ht v).eq_ok_true_iff]

/-! ## Rules -/

namespace Entails

variable {s t : Shape} {ss ts : List Shape}

theorem refl (s : Shape) : s.Entails s := fun _ _ h => h

theorem literal {x y : Value} (hx : WellFormed x) (hy : WellFormed y) (h : JsonEqual x y) :
    (literal x).Entails (literal y) :=
  fun v hv hvx => (Value.coheres_jsonEq v hv).trans hx hvx hy h

theorem optional (h : s.Entails t) : (optional s).Entails (optional t) := by
  rintro v hv (habsent | hs)
  · exact .inl habsent
  · exact .inr (h v hv hs)

theorem array (h : s.Entails t) : (array s).Entails (array t) := by
  rintro _ hv ⟨form, items, rfl, hitems⟩
  rw [Value.wellFormed_array_iff] at hv
  exact satisfies_array_iff.2 fun w hw => h w (hv w hw) (hitems w hw)

theorem satisfiesEach (h : List.Forall₂ Entails ss ts) {vs : List Value}
    (hvs : ∀ v ∈ vs, WellFormed v) (hss : SatisfiesEach ss vs) : SatisfiesEach ts vs := by
  induction h generalizing vs with
  | nil => exact hss
  | cons hst _ ih =>
    cases vs with
    | nil => exact hss.elim
    | cons v vs =>
      obtain ⟨hv, hvs⟩ := List.forall_mem_cons.1 hvs
      exact ⟨hst v hv hss.1, ih hvs hss.2⟩

theorem tuple (h : List.Forall₂ Entails ss ts) : (tuple ss).Entails (tuple ts) := by
  rintro _ hv ⟨form, items, rfl, hitems⟩
  rw [Value.wellFormed_array_iff] at hv
  exact satisfies_tuple_iff.2 (satisfiesEach h hv hitems)

theorem union (h : ∀ s ∈ ss, ∃ t ∈ ts, s.Entails t) : (union ss).Entails (union ts) := by
  intro v hv hss
  obtain ⟨s, hs, hsv⟩ := satisfiesSome_iff_exists_mem.1 hss
  obtain ⟨t, ht, hst⟩ := h s hs
  exact satisfiesSome_iff_exists_mem.2 ⟨t, ht, hst v hv hsv⟩

/-- Each field on the right is asked less of than a field on the left that looks at the same entry. -/
theorem object {fs gs : List (Value × Shape)}
    (h : ∀ g ∈ gs, ∃ f ∈ fs, f.2.Entails g.2 ∧
      ∀ es : List (Value × Value), WellFormedEntries es → Value.lookup f.1 es = Value.lookup g.1 es) :
    (object fs).Entails (object gs) := by
  rintro _ hv ⟨form, entries, rfl, hfields⟩
  rw [Value.wellFormed_object_iff] at hv
  rw [satisfiesFields_iff_forall_mem] at hfields
  refine satisfies_object_iff.2 (satisfiesFields_iff_forall_mem.2 fun g hg => ?_)
  obtain ⟨f, hf, hfg, hkey⟩ := h g hg
  have hentry : WellFormed ((Value.lookup g.1 entries).getD .absent) := by
    cases hfound : Value.lookup g.1 entries with
    | none => rfl
    | some w => exact hv.lookup hfound
  refine hfg _ hentry ?_
  rw [← hkey entries hv]
  exact hfields f hf

end Entails

/-! ## Replacement of parts -/

/-- Whether a tree becomes another when `t` is put in the place of `s` at some of its positions. -/
inductive Replaces (s t : Shape) : Shape → Shape → Prop
  | here : Replaces s t s t
  | keep (c : Shape) : Replaces s t c c
  | optional {c c' : Shape} (h : Replaces s t c c') : Replaces s t (.optional c) (.optional c')
  | array {c c' : Shape} (h : Replaces s t c c') : Replaces s t (.array c) (.array c')
  | tuple {cs cs' : List Shape} (hlen : cs.length = cs'.length)
      (h : ∀ (i : Nat) (hi : i < cs.length) (hi' : i < cs'.length), Replaces s t cs[i] cs'[i]) :
      Replaces s t (.tuple cs) (.tuple cs')
  | union {cs cs' : List Shape} (hlen : cs.length = cs'.length)
      (h : ∀ (i : Nat) (hi : i < cs.length) (hi' : i < cs'.length), Replaces s t cs[i] cs'[i]) :
      Replaces s t (.union cs) (.union cs')
  | object {fs fs' : List (Value × Shape)} (hlen : fs.length = fs'.length)
      (hkey : ∀ (i : Nat) (hi : i < fs.length) (hi' : i < fs'.length), fs[i].1 = fs'[i].1)
      (h : ∀ (i : Nat) (hi : i < fs.length) (hi' : i < fs'.length),
        Replaces s t fs[i].2 fs'[i].2) :
      Replaces s t (.object fs) (.object fs')

namespace Replaces

variable {s t c c' : Shape}

theorem symm (h : Replaces s t c c') : Replaces t s c' c := by
  induction h with
  | here => exact .here
  | keep c => exact .keep c
  | optional _ ih => exact .optional ih
  | array _ ih => exact .array ih
  | tuple hlen _ ih => exact .tuple hlen.symm fun i hi hi' => ih i hi' hi
  | union hlen _ ih => exact .union hlen.symm fun i hi hi' => ih i hi' hi
  | object hlen hkey _ ih =>
    exact .object hlen.symm (fun i hi hi' => (hkey i hi' hi).symm) fun i hi hi' => ih i hi' hi

theorem isProper (ht : t.isProper = true) (h : Replaces s t c c') (hc : c.isProper = true) :
    c'.isProper = true := by
  induction h with
  | here => exact ht
  | keep c => exact hc
  | optional _ ih => exact ih hc
  | array _ ih => exact ih hc
  | tuple hlen _ ih | union hlen _ ih =>
    rw [Shape.isProper, allLiterals, allLiteralsList_iff] at hc ⊢
    refine List.forall_mem_iff_getElem.2 fun i hi => ?_
    exact ih i (hlen ▸ hi) hi (hc _ (List.getElem_mem _))
  | object hlen _ _ ih =>
    rw [Shape.isProper, allLiterals, allLiteralsFields_iff] at hc ⊢
    refine List.forall_mem_iff_getElem.2 fun i hi => ?_
    exact ih i (hlen ▸ hi) hi (hc _ (List.getElem_mem _))

theorem entails (hst : s.Entails t) (h : Replaces s t c c') : c.Entails c' := by
  induction h with
  | here => exact hst
  | keep c => exact .refl c
  | optional _ ih => exact .optional ih
  | array _ ih => exact .array ih
  | tuple hlen _ ih => exact .tuple (List.forall₂_iff_get.2 ⟨hlen, ih⟩)
  | union hlen _ ih =>
    refine .union (List.forall_mem_iff_getElem.2 fun i hi => ?_)
    exact ⟨_, List.getElem_mem (hlen ▸ hi), ih i hi (hlen ▸ hi)⟩
  | object hlen hkey _ ih =>
    refine .object (List.forall_mem_iff_getElem.2 fun i hi => ?_)
    have hi' := hlen ▸ hi
    exact ⟨_, List.getElem_mem hi', ih i hi' hi, fun es _ => by rw [hkey i hi' hi]⟩

end Replaces

/-- Where a part gives way to a wider one the whole gets no narrower, and where it gives way to one
that accepts the same, every verdict stays. -/
theorem isValid_of_replaces {s t c c' : Shape} (hs : s.isProper = true) (ht : t.isProper = true)
    (hc : c.isProper = true) (h : Replaces s t c c')
    (hst : ∀ v, WellFormed v → s.isValid host v = .ok true → t.isValid host v = .ok true) :
    (∀ v, WellFormed v → c.isValid host v = .ok true → c'.isValid host v = .ok true) ∧
      ((∀ v, WellFormed v → t.isValid host v = .ok true → s.isValid host v = .ok true) →
        ∀ v, WellFormed v → c'.isValid host v = c.isValid host v) := by
  have hc' := h.isProper ht hc
  have hwider := h.entails ((entails_iff_isValid host hs ht).2 hst)
  refine ⟨(entails_iff_isValid host hc hc').1 hwider, fun hts v hv => ?_⟩
  have hback := h.symm.entails ((entails_iff_isValid host ht hs).2 hts)
  exact (isValid_decides hc' v).eq_of_iff (isValid_decides hc v) ⟨hback v hv, hwider v hv⟩

/-- A field that takes the number one or nothing is widened to any number or nothing, and the same
shape in an array beside it stays. What has no such field is accepted before and after. -/
theorem isValid_of_replaces_one_of_two :
    let s : Shape := .optional (.literal (.int 1))
    let t : Shape := .optional .number
    let c : Shape := .object [(.ofString "first", s), (.ofString "all", .array s)]
    let c' : Shape := .object [(.ofString "first", t), (.ofString "all", .array s)]
    let v : Value := .object .plain [(.ofString "all", .list [.int 1])]
    Replaces s t c c' ∧ c.isValid .shallow v = .ok true ∧ c'.isValid .shallow v = .ok true := by
  intro s t c c' v
  have hreplaces : Replaces s t c c' := by
    refine .object rfl (fun i hi hi' => ?_) fun i hi hi' => ?_
    · match i with
      | 0 | 1 => rfl
    · match i with
      | 0 => exact .here
      | 1 => exact .keep _
  have hwider : s.Entails t := by
    rintro w _ (habsent | hone)
    · exact .inl habsent
    · exact .inr (Value.kind?_eq_of_jsonEq hone)
  have hverdict : c.isValid .shallow v = .ok true := rfl
  have hst := (entails_iff_isValid .shallow (s := s) (t := t) rfl rfl).1 hwider
  exact ⟨hreplaces, hverdict, (isValid_of_replaces rfl rfl rfl hreplaces hst).1 v rfl hverdict⟩

end Shape

end DataShape
