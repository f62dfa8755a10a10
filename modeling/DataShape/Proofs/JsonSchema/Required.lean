-- SUMMARY: What is said of a rendered document by its required keys, told from the records of the shape.
import DataShape.Proofs.JsonSchema.Agreement
import DataShape.Proofs.Shape.Occurrence

/-!
# Required keys

Judgements on documents that find nothing to say of what is rendered but about
required keys. Such a judgement walks the document and meets the records of the
shape there, since it does not look into constants: so it can be told from the
shape. The check after an export is one of them.
-/

namespace DataShape.JsonSchema

variable {host : Host}

open Shape (AllNodes Occurs)

/-! ## Parts of rendered documents -/

section
variable {path : Pointer}

theorem forall_mem_renderList_iff {p : Value → Prop} {q : Shape → Prop} {ss : List Shape} {i : Nat}
    {ds : List Value} (h : renderList host ss path i = .ok ds)
    (hpq : ∀ s ∈ ss, ∀ path ks, render host s path = .ok ks → (p (.object .plain ks) ↔ q s)) :
    (∀ d ∈ ds, p d) ↔ ∀ s ∈ ss, q s := by
  induction ss generalizing i ds with
  | nil =>
    cases h
    simp
  | cons s ss ih =>
    obtain ⟨ks, rest, hks, hrest, rfl⟩ := renderList_cons_eq_ok h
    rw [List.forall_mem_cons] at hpq
    rw [List.forall_mem_cons, List.forall_mem_cons, hpq.1 _ ks hks, ih hrest hpq.2]

theorem forall_mem_renderFields_iff {p : Value × Value → Prop} {q : Value × Shape → Prop}
    {fs : List (Value × Shape)} {ps : List (Value × Value)} (h : renderFields host fs path = .ok ps)
    (hpq : ∀ f ∈ fs, ∀ path ks, render host f.2 path = .ok ks →
      (p (f.1, .object .plain ks) ↔ q f)) :
    (∀ e ∈ ps, p e) ↔ ∀ f ∈ fs, q f := by
  induction fs generalizing ps with
  | nil =>
    cases h
    simp
  | cons f fs ih =>
    obtain ⟨ks, rest, hks, hrest, rfl⟩ := renderFields_cons_eq_ok h
    rw [List.forall_mem_cons] at hpq
    rw [List.forall_mem_cons, List.forall_mem_cons, hpq.1 _ ks hks, ih hrest hpq.2]

theorem ne_nil_of_renderList {ss : List Shape} {i : Nat} {ds : List Value}
    (h : renderList host ss path i = .ok ds) (hss : 1 ≤ ss.length) : ds ≠ [] := by
  rw [← length_of_renderList h] at hss
  exact List.ne_nil_of_length_pos hss

end

/-! ## Judgements by required keys -/

/-- Whether a node is no record, or has required keys with a property. -/
def RequiredKeys (r : List Value → Prop) : Shape → Prop
  | .object fs => r (requiredKeys fs)
  | _ => True

/-- Whether a judgement `p` on documents, which is `q` on their keywords, comes to judging the
documents inside and, by `r`, the required keys of what is rendered. -/
structure JudgesRequired (p : Value → Prop) (q : List (Value × Value) → Prop)
    (r : List Value → Prop) : Prop where
  document : ∀ ks, p (.object .plain ks) ↔ q ks
  type : ∀ kind, q [typeIs kind]
  const : ∀ v, q [keyword "const" v]
  nothing : q [keyword "not" (.object .plain [])]
  noItems : q [typeIs .array, keyword "maxItems" (.int 0)]
  items : ∀ d, q [typeIs .array, keyword "items" d] ↔ p d
  prefixItems : ∀ ds (n : Nat), ds ≠ [] →
    (q [typeIs .array, keyword "prefixItems" (.list ds), keyword "minItems" (.int n),
      keyword "maxItems" (.int n)] ↔ ∀ d ∈ ds, p d)
  anyOf : ∀ ds, ds ≠ [] → (q [keyword "anyOf" (.list ds)] ↔ ∀ d ∈ ds, p d)
  properties : ∀ ps, q [typeIs .object, keyword "properties" (.object .plain ps)] ↔
    ∀ e ∈ ps, p e.2
  required : ∀ ps keys, q [typeIs .object, keyword "properties" (.object .plain ps),
    keyword "required" (.list keys)] ↔ (∀ e ∈ ps, p e.2) ∧ r keys
  noRequired : r []

namespace JudgesRequired

variable {p : Value → Prop} {q : List (Value × Value) → Prop} {r : List Value → Prop}

theorem objectKeywords_iff (h : JudgesRequired p q r) (fs : List (Value × Shape))
    (ps : List (Value × Value)) :
    q (objectKeywords fs ps) ↔ (∀ e ∈ ps, p e.2) ∧ r (requiredKeys fs) := by
  unfold objectKeywords
  cases requiredKeys fs with
  | nil => exact (h.properties ps).trans (and_iff_left h.noRequired).symm
  | cons key keys => exact h.required ps (key :: keys)

theorem render_iff (h : JudgesRequired p q r) {s : Shape} {path : Pointer}
    {ks : List (Value × Value)} (hks : render host s path = .ok ks) :
    q ks ↔ s.AllNodes (RequiredKeys r) := by
  induction s using Shape.inductionOnParts generalizing path ks with
  | null | boolean | number | string =>
    cases hks
    refine iff_of_true (h.type _) ?_
    rintro _ ⟨⟩
    trivial
  | literal v =>
    obtain ⟨w, -, rfl⟩ := Except.map_eq_ok.1 hks
    refine iff_of_true (h.const w) ?_
    rintro _ ⟨⟩
    trivial
  | optional s ih =>
    rw [Shape.allNodes_optional_iff, ih hks]
    exact (and_iff_right trivial).symm
  | array s ih =>
    obtain ⟨items, hitems, rfl⟩ := Except.map_eq_ok.1 hks
    rw [h.items, h.document, ih hitems, Shape.allNodes_array_iff]
    exact (and_iff_right trivial).symm
  | tuple ss ih =>
    rw [Shape.allNodes_tuple_iff, and_iff_right (show RequiredKeys r (.tuple ss) from trivial)]
    cases ss with
    | nil =>
      cases hks
      exact iff_of_true h.noItems (List.forall_mem_nil _)
    | cons s ss =>
      obtain ⟨ds, hds, rfl⟩ := Except.map_eq_ok.1 hks
      rw [h.prefixItems _ _ (ne_nil_of_renderList hds (Nat.succ_pos _))]
      exact forall_mem_renderList_iff hds fun t ht _ ks hks => (h.document ks).trans (ih t ht hks)
  | union ss ih =>
    rw [Shape.allNodes_union_iff, and_iff_right (show RequiredKeys r (.union ss) from trivial)]
    cases ss with
    | nil =>
      cases hks
      exact iff_of_true h.nothing (List.forall_mem_nil _)
    | cons s ss =>
      obtain ⟨ds, hds, rfl⟩ := Except.map_eq_ok.1 hks
      rw [h.anyOf _ (ne_nil_of_renderList hds (Nat.succ_pos _))]
      exact forall_mem_renderList_iff hds fun t ht _ ks hks => (h.document ks).trans (ih t ht hks)
  | object fs ih =>
    obtain ⟨ps, hps, rfl⟩ := Except.map_eq_ok.1 hks
    rw [h.objectKeywords_iff, and_comm, Shape.allNodes_object_iff]
    refine and_congr_right' ?_
    exact forall_mem_renderFields_iff hps fun f hf _ ks hks => (h.document ks).trans (ih f hf hks)
  | foreign v => cases hks
  | sealed s ih => cases hks

end JudgesRequired

/-! ## The check of required keys -/

/-- Whether a node is no record, or requires texts only. -/
abbrev RequiresTexts : Shape → Prop := RequiredKeys fun keys => ∀ key ∈ keys, key.kind? = some .string

theorem requiresTexts_object_iff {fs : List (Value × Shape)} :
    RequiresTexts (.object fs) ↔
      ∀ f ∈ fs, f.2.acceptsAbsent = false → f.1.kind? = some .string := by
  simp [RequiredKeys, requiredKeys]

theorem badRequiredList?_eq_none_iff {ds : List Value} :
    badRequiredList? ds = none ↔ ∀ d ∈ ds, badRequired? d = none := by
  induction ds with
  | nil => simp [badRequiredList?]
  | cons d ds ih => simp [badRequiredList?, ih]

theorem badRequiredProperty?_eq_none_iff {ps : List (Value × Value)} :
    badRequiredProperty? ps = none ↔ ∀ e ∈ ps, badRequired? e.2 = none := by
  induction ps with
  | nil => simp [badRequiredProperty?]
  | cons e ps ih => simp [badRequiredProperty?, ih]

theorem firstNotText?_eq_none_iff {keys : List Value} :
    firstNotText? keys = none ↔ ∀ key ∈ keys, key.kind? = some .string := by
  simp [firstNotText?]

theorem judgesRequired_badRequired? :
    JudgesRequired (fun d => badRequired? d = none) (fun ks => badRequiredKeyword? ks = none)
      fun keys => ∀ key ∈ keys, key.kind? = some .string where
  document _ := Iff.rfl
  type _ := rfl
  const _ := rfl
  nothing := rfl
  noItems := rfl
  items d := by
    change (badRequired? d).or none = none ↔ _
    rw [Option.or_none]
  prefixItems ds _ _ := by
    change (badRequiredList? ds).or none = none ↔ _
    rw [Option.or_none, badRequiredList?_eq_none_iff]
  anyOf ds _ := by
    change (badRequiredList? ds).or none = none ↔ _
    rw [Option.or_none, badRequiredList?_eq_none_iff]
  properties ps := by
    change (badRequiredProperty? ps).or none = none ↔ _
    rw [Option.or_none, badRequiredProperty?_eq_none_iff]
  required ps keys := by
    change (badRequiredProperty? ps).or ((firstNotText? keys).or none) = none ↔ _
    rw [Option.or_none, Option.or_eq_none_iff, badRequiredProperty?_eq_none_iff,
      firstNotText?_eq_none_iff]
  noRequired := List.forall_mem_nil _

/-- Whether a record inside a shape requires a field under a key that is no text. -/
def RequiresOther (s : Shape) : Prop :=
  ∃ fs, Occurs (.object fs) s ∧ ∃ f ∈ fs, f.2.acceptsAbsent = false ∧ f.1.kind? ≠ some .string

theorem not_allNodes_requiresTexts_iff {s : Shape} :
    ¬ s.AllNodes RequiresTexts ↔ RequiresOther s := by
  constructor
  · intro h
    obtain ⟨t, h⟩ := not_forall.1 h
    obtain ⟨ht, hnot⟩ := Classical.not_imp.1 h
    cases t with
    | object fs => exact ⟨fs, ht, by simpa [requiresTexts_object_iff] using hnot⟩
    | _ => exact absurd trivial hnot
  · rintro ⟨fs, hfs, f, hf, hrequired, hkey⟩ h
    exact hkey (requiresTexts_object_iff.1 (h _ hfs) f hf hrequired)

section
variable {key : Value}

theorem exists_mem_of_badRequiredList? {ss : List Shape} {path : Pointer} {i : Nat}
    {ds : List Value} (h : renderList host ss path i = .ok ds)
    (hkey : badRequiredList? ds = some key) :
    ∃ s ∈ ss, ∃ path ks, render host s path = .ok ks ∧ badRequiredKeyword? ks = some key := by
  induction ss generalizing i ds with
  | nil =>
    cases h
    cases hkey
  | cons s ss ih =>
    obtain ⟨ks, rest, hks, hrest, rfl⟩ := renderList_cons_eq_ok h
    rw [badRequiredList?, Option.or_eq_some_iff] at hkey
    obtain hkey | ⟨-, hkey⟩ := hkey
    · exact ⟨s, List.mem_cons_self, _, ks, hks, hkey⟩
    · obtain ⟨t, ht, hfound⟩ := ih hrest hkey
      exact ⟨t, List.mem_cons_of_mem s ht, hfound⟩

theorem exists_mem_of_badRequiredProperty? {fs : List (Value × Shape)} {path : Pointer}
    {ps : List (Value × Value)} (h : renderFields host fs path = .ok ps)
    (hkey : badRequiredProperty? ps = some key) :
    ∃ f ∈ fs, ∃ path ks, render host f.2 path = .ok ks ∧ badRequiredKeyword? ks = some key := by
  induction fs generalizing ps with
  | nil =>
    cases h
    cases hkey
  | cons f fs ih =>
    obtain ⟨ks, rest, hks, hrest, rfl⟩ := renderFields_cons_eq_ok h
    rw [badRequiredProperty?, Option.or_eq_some_iff] at hkey
    obtain hkey | ⟨-, hkey⟩ := hkey
    · exact ⟨f, List.mem_cons_self, _, ks, hks, hkey⟩
    · obtain ⟨g, hg, hfound⟩ := ih hrest hkey
      exact ⟨g, List.mem_cons_of_mem f hg, hfound⟩

theorem badRequiredKeyword?_objectKeywords {fs : List (Value × Shape)}
    {ps : List (Value × Value)} (hkey : badRequiredKeyword? (objectKeywords fs ps) = some key) :
    badRequiredProperty? ps = some key ∨ firstNotText? (requiredKeys fs) = some key := by
  unfold objectKeywords at hkey
  cases hkeys : requiredKeys fs with
  | nil =>
    rw [hkeys] at hkey
    change (badRequiredProperty? ps).or none = some key at hkey
    rw [Option.or_none] at hkey
    exact .inl hkey
  | cons k ks =>
    rw [hkeys] at hkey
    change (badRequiredProperty? ps).or ((firstNotText? (k :: ks)).or none) = some key at hkey
    rw [Option.or_none, Option.or_eq_some_iff] at hkey
    exact hkey.imp_right And.right

/-- What the check finds is a key of a record inside the shape. -/
theorem exists_record_of_badRequired? {s : Shape} {path : Pointer} {ks : List (Value × Value)}
    (h : render host s path = .ok ks) (hkey : badRequiredKeyword? ks = some key) :
    ∃ fs, Occurs (.object fs) s ∧ ∃ f ∈ fs, f.1 = key := by
  induction s using Shape.inductionOnParts generalizing path ks with
  | null | boolean | number | string =>
    cases h
    cases hkey
  | literal v =>
    obtain ⟨w, -, rfl⟩ := Except.map_eq_ok.1 h
    cases hkey
  | optional s ih =>
    obtain ⟨fs, hfs, hmem⟩ := ih h hkey
    exact ⟨fs, .optional hfs, hmem⟩
  | array s ih =>
    obtain ⟨items, hitems, rfl⟩ := Except.map_eq_ok.1 h
    change (badRequiredKeyword? items).or none = some key at hkey
    rw [Option.or_none] at hkey
    obtain ⟨fs, hfs, hmem⟩ := ih hitems hkey
    exact ⟨fs, .array hfs, hmem⟩
  | tuple ss ih =>
    obtain ⟨rfl, rfl⟩ | ⟨ds, hds, rfl⟩ := render_tuple_eq_ok h
    · cases hkey
    change (badRequiredList? ds).or none = some key at hkey
    rw [Option.or_none] at hkey
    obtain ⟨s, hs, _, ks, hks, hkey⟩ := exists_mem_of_badRequiredList? hds hkey
    obtain ⟨fs, hfs, hmem⟩ := ih s hs hks hkey
    exact ⟨fs, .tuple hs hfs, hmem⟩
  | union ss ih =>
    obtain ⟨rfl, rfl⟩ | ⟨ds, hds, rfl⟩ := render_union_eq_ok h
    · cases hkey
    change (badRequiredList? ds).or none = some key at hkey
    rw [Option.or_none] at hkey
    obtain ⟨s, hs, _, ks, hks, hkey⟩ := exists_mem_of_badRequiredList? hds hkey
    obtain ⟨fs, hfs, hmem⟩ := ih s hs hks hkey
    exact ⟨fs, .union hs hfs, hmem⟩
  | object fs ih =>
    obtain ⟨ps, hps, rfl⟩ := Except.map_eq_ok.1 h
    obtain hkey | hkey := badRequiredKeyword?_objectKeywords hkey
    · obtain ⟨f, hf, _, ks, hks, hkey⟩ := exists_mem_of_badRequiredProperty? hps hkey
      obtain ⟨gs, hgs, hmem⟩ := ih f hf hks hkey
      exact ⟨gs, .object hf hgs, hmem⟩
    · obtain ⟨f, hf, hfkey⟩ := List.mem_map.1 (List.mem_of_find?_eq_some hkey)
      exact ⟨fs, .here, f, List.mem_of_mem_filter hf, hfkey⟩
  | foreign v => cases h
  | sealed s _ => cases h

end

end DataShape.JsonSchema
