-- SUMMARY: The metaschema of the keywords in use, and the exports of strict shapes, which succeed and meet it.
import Mathlib.Data.List.Nodup
import DataShape.Proofs.Definition.RoundTrip
import DataShape.Proofs.JsonSchema.Required
import DataShape.Proofs.Shape.Flaw
import DataShape.Proofs.Value.Loose

/-!
# The metaschema

What the metaschema of the 2020-12 dialect says of documents with no keywords
but the dialect and the ten in use. The export of a strict shape meets it, so
that a check against the metaschema has nothing to find there: lists of
documents are not empty, lengths are not negative, and required keys are texts
and distinct.
-/

namespace DataShape.JsonSchema

variable {host : Host}

open Shape (Occurs)

/-- Whether a text is the name of a type. -/
def IsTypeName (name : Text) : Prop :=
  name = Text.ofString "integer" ∨ ∃ kind : JsonKind, name = Text.ofString kind.name

mutual

inductive MeetsMetaschema : Value → Prop
  | bool (b : Bool) : MeetsMetaschema (.bool b)
  | object {keywords : List (Value × Value)} (h : ∀ e ∈ keywords, IsKeyword e) :
      MeetsMetaschema (.object .plain keywords)

/-- Whether an entry is a keyword over an argument that it takes. -/
inductive IsKeyword : Value × Value → Prop
  | dialect : IsKeyword (keyword "$schema" (.ofString dialect))
  | type {name : Text} (h : IsTypeName name) : IsKeyword (keyword "type" (.str name))
  | types {names : List Text} (hne : names ≠ []) (hnodup : names.Nodup)
      (h : ∀ name ∈ names, IsTypeName name) :
      IsKeyword (keyword "type" (.list (names.map .str)))
  | const (v : Value) : IsKeyword (keyword "const" v)
  | items {d : Value} (h : MeetsMetaschema d) : IsKeyword (keyword "items" d)
  | prefixItems {ds : List Value} (hne : ds ≠ []) (h : ∀ d ∈ ds, MeetsMetaschema d) :
      IsKeyword (keyword "prefixItems" (.list ds))
  | minItems {v : Value} (n : Nat) (h : v.SameNumber (.int n)) : IsKeyword (keyword "minItems" v)
  | maxItems {v : Value} (n : Nat) (h : v.SameNumber (.int n)) : IsKeyword (keyword "maxItems" v)
  | anyOf {ds : List Value} (hne : ds ≠ []) (h : ∀ d ∈ ds, MeetsMetaschema d) :
      IsKeyword (keyword "anyOf" (.list ds))
  | not {d : Value} (h : MeetsMetaschema d) : IsKeyword (keyword "not" d)
  | properties {es : List (Value × Value)} (hkeys : Value.HasTextKeys es)
      (h : ∀ e ∈ es, MeetsMetaschema e.2) : IsKeyword (keyword "properties" (.object .plain es))
  | required {names : List Text} (hnodup : names.Nodup) :
      IsKeyword (keyword "required" (.list (names.map .str)))

end

theorem isKeyword_typeIs (kind : JsonKind) : IsKeyword (typeIs kind) :=
  .type (.inr ⟨kind, rfl⟩)

/-! ## Parts of rendered documents -/

theorem forall_mem_renderList {p : Value → Prop} {ss : List Shape} {path : Pointer} {i : Nat}
    {ds : List Value} (h : renderList host ss path i = .ok ds)
    (hp : ∀ s ∈ ss, ∀ path ks, render host s path = .ok ks → p (.object .plain ks)) :
    ∀ d ∈ ds, p d := by
  refine (forall_mem_renderList_iff (q := fun _ => True) h ?_).2 fun _ _ => trivial
  exact fun s hs path ks hks => iff_of_true (hp s hs path ks hks) trivial

theorem forall_mem_renderFields {p : Value × Value → Prop} {fs : List (Value × Shape)}
    {path : Pointer} {ps : List (Value × Value)} (h : renderFields host fs path = .ok ps)
    (hp : ∀ f ∈ fs, ∀ path ks, render host f.2 path = .ok ks → p (f.1, .object .plain ks)) :
    ∀ e ∈ ps, p e := by
  refine (forall_mem_renderFields_iff (q := fun _ => True) h ?_).2 fun _ _ => trivial
  exact fun f hf path ks hks => iff_of_true (hp f hf path ks hks) trivial

theorem hasTextKeys_of_isStrictFields {fs : List (Value × Shape)}
    (h : Shape.isStrictFields fs = true) : Value.HasTextKeys fs :=
  fun f hf => (Shape.isStrictFields_iff.1 h f hf).1

/-! ## Records with texts for keys -/

theorem hasTextKeys_of_isStrict {s : Shape} (hs : s.isStrict = true) {fs : List (Value × Shape)}
    (h : Occurs (.object fs) s) : Value.HasTextKeys fs := by
  induction h with
  | here => exact hasTextKeys_of_isStrictFields hs
  | optional _ ih => exact ih hs
  | array _ ih => exact ih hs
  | tuple hmem _ ih | union hmem _ ih =>
    exact ih (Shape.isStrictList_iff.1 (Bool.and_eq_true_iff.1 hs).2 _ hmem)
  | object hmem _ ih => exact ih (Shape.isStrictFields_iff.1 hs _ hmem).2

section
variable {s : Shape} (h : ∀ fs, Occurs (.object fs) s → Value.HasTextKeys fs)
include h

theorem allNodes_requiresTexts_of_hasTextKeys : s.AllNodes RequiresTexts := by
  intro t ht
  cases t with
  | object fs => exact requiresTexts_object_iff.2 fun f hf _ => h fs ht f hf
  | _ => trivial

theorem allNodes_showsKeys_of_hasTextKeys : s.AllNodes (Shape.ShowsKeys host) := by
  intro t ht
  cases t with
  | object fs =>
    intro f hf
    obtain ⟨key, hkey⟩ := Value.kind?_eq_string_iff.1 (h fs ht f hf)
    rw [hkey]
    rfl
  | _ => trivial

end

/-! ## The metaschema is met -/

theorem exists_texts {vs : List Value} (h : ∀ v ∈ vs, v.kind? = some .string) :
    ∃ texts : List Text, vs = texts.map .str := by
  induction vs with
  | nil => exact ⟨[], rfl⟩
  | cons v vs ih =>
    rw [List.forall_mem_cons] at h
    obtain ⟨t, rfl⟩ := Value.kind?_eq_string_iff.1 h.1
    obtain ⟨ts, rfl⟩ := ih h.2
    exact ⟨t :: ts, rfl⟩

/-- Among distinct keys, those of required fields are distinct texts if they are texts. -/
theorem exists_texts_of_requiresTexts {fs : List (Value × Shape)}
    (hdistinct : Value.distinctKeys fs = true) (h : RequiresTexts (.object fs)) :
    ∃ names : List Text, names.Nodup ∧ requiredKeys fs = names.map .str := by
  rw [Value.distinctKeys_iff_pairwise] at hdistinct
  have hapart := hdistinct.sublist (List.filter_sublist (p := fun f => !f.2.acceptsAbsent))
  have hnodup := Value.nodup_keys (List.forall_mem_map.1 h)
    (Value.distinctKeys_iff_pairwise.2 hapart)
  obtain ⟨names, hnames⟩ := exists_texts h
  change (requiredKeys fs).Nodup at hnodup
  rw [hnames] at hnodup
  exact ⟨names, List.Nodup.of_map _ hnodup, hnames⟩

theorem isKeyword_objectKeywords {fs : List (Value × Shape)} {ps : List (Value × Value)}
    (hps : IsKeyword (keyword "properties" (.object .plain ps)))
    (hfs : IsKeyword (keyword "required" (.list (requiredKeys fs)))) :
    ∀ e ∈ objectKeywords fs ps, IsKeyword e := by
  unfold objectKeywords
  simp only [List.cons_append, List.nil_append, List.forall_mem_cons]
  refine ⟨isKeyword_typeIs _, hps, ?_⟩
  split
  · exact List.forall_mem_nil _
  · rw [List.forall_mem_singleton]
    exact hfs

theorem meetsMetaschema_renderList {ss : List Shape} {path : Pointer} {i : Nat} {ds : List Value}
    (h : renderList host ss path i = .ok ds)
    (hss : ∀ s ∈ ss, ∀ path ks, render host s path = .ok ks → ∀ e ∈ ks, IsKeyword e) :
    ∀ d ∈ ds, MeetsMetaschema d := by
  refine forall_mem_renderList h ?_
  intro s hs path ks hks
  exact .object (hss s hs path ks hks)

/-- The export of a strict shape with distinct field keys meets the metaschema. -/
theorem isKeyword_of_mem_render {s : Shape} (hs : s.isStrict = true) (hs' : s.isWellFormed = true)
    {path : Pointer} {ks : List (Value × Value)} (h : render host s path = .ok ks) :
    ∀ e ∈ ks, IsKeyword e := by
  induction s using Shape.inductionOnParts generalizing path ks with
  | null | boolean | number | string =>
    cases h
    exact List.forall_mem_singleton.2 (isKeyword_typeIs _)
  | literal v =>
    obtain ⟨w, _, rfl⟩ := Except.map_eq_ok.1 h
    exact List.forall_mem_singleton.2 (.const w)
  | optional s ih => exact ih hs hs' h
  | array s ih =>
    obtain ⟨items, hitems, rfl⟩ := Except.map_eq_ok.1 h
    rw [List.forall_mem_cons, List.forall_mem_singleton]
    exact ⟨isKeyword_typeIs _, .items (.object (ih hs hs' hitems))⟩
  | tuple ss ih =>
    obtain ⟨rfl, rfl⟩ | ⟨ds, hds, rfl⟩ := render_tuple_eq_ok h
    · cases hs
    · simp only [Shape.isStrict, Bool.and_eq_true, decide_eq_true_eq, Shape.isStrictList_iff] at hs
      have hformed := Shape.isWellFormedList_iff.1 hs'
      have hne := ne_nil_of_renderList hds (by omega)
      have hparts := meetsMetaschema_renderList hds fun s hmem _ _ hks =>
        ih s hmem (hs.2 s hmem) (hformed s hmem) hks
      have hcount : (Value.int ss.length).SameNumber (.int ss.length) :=
        Value.sameNumber_int_iff.2 rfl
      simp only [List.forall_mem_cons]
      exact ⟨isKeyword_typeIs _, .prefixItems hne hparts, .minItems _ hcount, .maxItems _ hcount,
        List.forall_mem_nil _⟩
  | union ss ih =>
    obtain ⟨rfl, rfl⟩ | ⟨ds, hds, rfl⟩ := render_union_eq_ok h
    · cases hs
    · simp only [Shape.isStrict, Bool.and_eq_true, decide_eq_true_eq, Shape.isStrictList_iff] at hs
      have hformed := Shape.isWellFormedList_iff.1 hs'
      have hne := ne_nil_of_renderList hds (by omega)
      have hparts := meetsMetaschema_renderList hds fun s hmem _ _ hks =>
        ih s hmem (hs.2 s hmem) (hformed s hmem) hks
      exact List.forall_mem_singleton.2 (.anyOf hne hparts)
  | object fs ih =>
    obtain ⟨ps, hps, rfl⟩ := Except.map_eq_ok.1 h
    simp only [Shape.isWellFormed, Bool.and_eq_true, Shape.isWellFormedFields_iff] at hs'
    have hfields := Shape.isStrictFields_iff.1 hs
    have htexts := hasTextKeys_of_isStrictFields hs
    obtain ⟨names, hnodup, hnames⟩ :=
      exists_texts_of_requiresTexts hs'.1 (requiresTexts_object_iff.2 fun f hmem _ => htexts f hmem)
    refine isKeyword_objectKeywords (.properties ?_ ?_) (hnames ▸ .required hnodup)
    · refine forall_mem_renderFields hps ?_
      intro f hmem _ ks hks
      exact htexts f hmem
    · refine forall_mem_renderFields hps ?_
      intro f hmem _ ks hks
      exact .object (ih f hmem (hfields f hmem).2 (hs'.2 f hmem).2 hks)
  | foreign v => cases h
  | sealed s ih => cases h

/-- A strict shape that can be written is exported, and the document meets the metaschema when the
shape has distinct field keys. -/
theorem exists_ofShape {s node : Shape} (hnode : s.top = .ok node)
    (hwritable : node.isWritable = true) (hstrict : node.isStrict = true) :
    ∃ d, ofShape host s = .ok d ∧ (node.isWellFormed = true → MeetsMetaschema d) := by
  have htexts : ∀ fs, Occurs (.object fs) node → Value.HasTextKeys fs :=
    fun _ => hasTextKeys_of_isStrict hstrict
  obtain ⟨ks, hks⟩ :=
    exists_render_iff.2 ⟨hwritable, @allNodes_showsKeys_of_hasTextKeys host _ htexts⟩
  have hkeywords := (judgesRequired_badRequired?.render_iff hks).2
    (allNodes_requiresTexts_of_hasTextKeys htexts)
  have hcheck : badRequired? (ofKeywords ks) = none := hkeywords
  refine ⟨ofKeywords ks, ?_, ?_⟩
  · rw [ofShape, rendered_of_top hnode, hks, raising_eq_ok_iff]
    exact checked_eq_ok_iff.2 ⟨hcheck, rfl⟩
  · intro hformed
    apply MeetsMetaschema.object
    rw [List.forall_mem_cons]
    exact ⟨.dialect, isKeyword_of_mem_render hstrict hformed hks⟩

end DataShape.JsonSchema
