-- SUMMARY: Exported documents accept exactly the JSON data that conforms to their shape.
import DataShape.JsonSchema
import DataShape.Proofs.JsonSchema.Meaning
import DataShape.Proofs.Shape.Absence

/-!
# Agreement of documents with conformance

The walk hands absence down into the shapes of fields, and a document does not
speak of absence at all. The two agree because a document only ever meets data:
there an optional shape asks what its element asks, and a field that is not
there is refused by `required` exactly when its shape does not accept absence.
-/

namespace DataShape.JsonSchema

variable {host : Host}

open Shape (Satisfies SatisfiesEach SatisfiesSome SatisfiesFields)

/-! ## What the rendered documents accept -/

section
variable {form : ObjectForm} {v : Value}

theorem hasTypeOf_kind_iff {kind : JsonKind} :
    HasTypeOf (.ofString kind.name) v ↔ v.kind? = some kind := by
  have hinj : ∀ k : JsonKind, Text.ofString kind.name = Text.ofString k.name → k = kind := by
    intro k
    cases kind <;> cases k <;> decide
  have hinteger : Text.ofString kind.name ≠ Text.ofString "integer" := by
    cases kind <;> decide
  constructor
  · rintro (⟨k, hk, hname⟩ | ⟨hname, _⟩)
    · rw [hk, hinj k hname]
    · exact absurd hname hinteger
  · intro h
    exact .inl ⟨kind, h, rfl⟩

/-- What the other keywords say of the items is said of an array. -/
theorem hasTypeOf_array_and_iff {p : List Value → Prop} :
    HasTypeOf (.ofString JsonKind.array.name) v ∧
      (∀ form items, v = .array form items → p items) ↔
    ∃ form items, v = .array form items ∧ p items := by
  rw [hasTypeOf_kind_iff, Value.kind?_eq_array_iff]
  constructor
  · rintro ⟨⟨form, items, rfl⟩, hitems⟩
    exact ⟨form, items, rfl, hitems form items rfl⟩
  · rintro ⟨form, items, rfl, hitems⟩
    refine ⟨⟨form, items, rfl⟩, ?_⟩
    rintro _ _ ⟨rfl, rfl⟩
    exact hitems

theorem hasTypeOf_object_and_iff {p : List (Value × Value) → Prop} :
    HasTypeOf (.ofString JsonKind.object.name) v ∧
      (∀ form entries, v = .object form entries → p entries) ↔
    ∃ form entries, v = .object form entries ∧ p entries := by
  rw [hasTypeOf_kind_iff, Value.kind?_eq_object_iff]
  constructor
  · rintro ⟨⟨form, entries, rfl⟩, hentries⟩
    exact ⟨form, entries, rfl, hentries form entries rfl⟩
  · rintro ⟨form, entries, rfl, hentries⟩
    refine ⟨⟨form, entries, rfl⟩, ?_⟩
    rintro _ _ ⟨rfl, rfl⟩
    exact hentries

theorem hasLength_int_iff {r : Int → Int → Prop} {n : Int} :
    HasLength r (.int n) v ↔ ∀ form items, v = .array form items → r items.length n := by
  constructor
  · intro h form items hv
    exact h form items n hv (Value.sameNumber_int_iff.2 rfl)
  · intro h form items m hv hm
    rw [← Value.sameNumber_int_iff.1 hm]
    exact h form items hv

theorem hasKeys_list_iff {keys : List Value} :
    HasKeys (.list keys) v ↔ ∀ form entries, v = .object form entries →
      ∀ key ∈ keys, (Value.lookup key entries).isSome = true := by
  cases v <;> simp [HasKeys, Value.list]

theorem accepts_type_iff {kind : JsonKind} :
    Accepts (.object form [typeIs kind]) v ↔ v.kind? = some kind := by
  change HasTypeOf (.ofString kind.name) v ∧ True ↔ _
  rw [and_true, hasTypeOf_kind_iff]

theorem accepts_const_iff {w : Value} :
    Accepts (.object form [keyword "const" w]) v ↔ v.Same w := by
  change v.Same w ∧ True ↔ _
  rw [and_true]

theorem accepts_not_anything_iff :
    Accepts (.object form [keyword "not" (.object .plain [])]) v ↔ False := by
  change ¬ True ∧ True ↔ False
  rw [and_true, not_true]

theorem accepts_anyOf_iff {members : List Value} :
    Accepts (.object form [keyword "anyOf" (.list members)]) v ↔ AcceptsSome members v := by
  change AcceptsSome members v ∧ True ↔ _
  rw [and_true]

theorem accepts_items_iff {d : Value} :
    Accepts (.object form [typeIs .array, keyword "items" d]) v ↔
      ∃ form items, v = .array form items ∧ ∀ w ∈ items, Accepts d w := by
  change HasTypeOf (.ofString JsonKind.array.name) v ∧
    (∀ form items, v = .array form items → ∀ w ∈ items.drop 0, Accepts d w) ∧ True ↔ _
  rw [and_true]
  exact hasTypeOf_array_and_iff

theorem accepts_maxItems_zero_iff :
    Accepts (.object form [typeIs .array, keyword "maxItems" (.int 0)]) v ↔
      ∃ form items, v = .array form items ∧ items = [] := by
  change HasTypeOf (.ofString JsonKind.array.name) v ∧ HasLength (· ≤ ·) (.int 0) v ∧ True ↔ _
  rw [and_true, hasLength_int_iff, hasTypeOf_array_and_iff]
  refine exists_congr fun form => exists_congr fun items => and_congr_right fun _ => ?_
  rw [← List.length_eq_zero_iff]
  omega

theorem accepts_prefixItems_iff {ds : List Value} :
    Accepts (.object form [typeIs .array, keyword "prefixItems" (.list ds),
      keyword "minItems" (.int ds.length), keyword "maxItems" (.int ds.length)]) v ↔
      ∃ form items, v = .array form items ∧ items.length = ds.length ∧ AcceptsEach ds items := by
  change HasTypeOf (.ofString JsonKind.array.name) v ∧
    (∀ form items, v = .array form items → AcceptsEach ds items) ∧
    HasLength (· ≥ ·) (.int ds.length) v ∧ HasLength (· ≤ ·) (.int ds.length) v ∧ True ↔ _
  simp only [and_true, hasLength_int_iff, ← forall_and]
  rw [hasTypeOf_array_and_iff]
  refine exists_congr fun form => exists_congr fun items => and_congr_right fun _ => ?_
  constructor
  · rintro ⟨hitems, hge, hle⟩
    exact ⟨by omega, hitems⟩
  · rintro ⟨hlen, hitems⟩
    exact ⟨hitems, by omega, by omega⟩

/-- Without a required key the keyword is left out, and it would have said nothing. -/
theorem accepts_objectKeywords_iff {fs : List (Value × Shape)} {ps : List (Value × Value)} :
    Accepts (.object form (objectKeywords fs ps)) v ↔
      ∃ form entries, v = .object form entries ∧ AcceptsEntries ps entries ∧
        ∀ key ∈ requiredKeys fs, (Value.lookup key entries).isSome = true := by
  have hsplit : Accepts (.object form (objectKeywords fs ps)) v ↔
      HasTypeOf (.ofString JsonKind.object.name) v ∧
        (∀ form entries, v = .object form entries → AcceptsEntries ps entries) ∧
        HasKeys (.list (requiredKeys fs)) v := by
    unfold objectKeywords
    cases requiredKeys fs with
    | nil =>
      have hnone : HasKeys (.list []) v ↔ True := by simp [hasKeys_list_iff]
      rw [hnone]
      exact Iff.rfl
    | cons key keys =>
      rw [← and_true (HasKeys _ _)]
      exact Iff.rfl
  simp only [hsplit, hasKeys_list_iff, ← forall_and]
  exact hasTypeOf_object_and_iff

end

/-! ## What is rendered -/

section
variable {path : Pointer} {ks : List (Value × Value)}

theorem render_tuple_eq_ok {ss : List Shape} (h : render host (.tuple ss) path = .ok ks) :
    (ss = [] ∧ ks = [typeIs .array, keyword "maxItems" (.int 0)]) ∨
      ∃ ds, renderList host ss path 0 = .ok ds ∧
        ks = [typeIs .array, keyword "prefixItems" (.list ds),
          keyword "minItems" (.int ss.length), keyword "maxItems" (.int ss.length)] := by
  cases ss with
  | nil => exact .inl ⟨rfl, (Except.ok.inj h).symm⟩
  | cons s ss =>
    obtain ⟨ds, hds, hks⟩ := Except.map_eq_ok.1 h
    exact .inr ⟨ds, hds, hks.symm⟩

theorem render_union_eq_ok {ss : List Shape} (h : render host (.union ss) path = .ok ks) :
    (ss = [] ∧ ks = [keyword "not" (.object .plain [])]) ∨
      ∃ ds, renderList host ss path 0 = .ok ds ∧ ks = [keyword "anyOf" (.list ds)] := by
  cases ss with
  | nil => exact .inl ⟨rfl, (Except.ok.inj h).symm⟩
  | cons s ss =>
    obtain ⟨ds, hds, hks⟩ := Except.map_eq_ok.1 h
    exact .inr ⟨ds, hds, hks.symm⟩

theorem renderList_cons_eq_ok {s : Shape} {ss : List Shape} {i : Nat} {ds : List Value}
    (h : renderList host (s :: ss) path i = .ok ds) :
    ∃ ks rest, render host s (path.index i) = .ok ks ∧ renderList host ss path (i + 1) = .ok rest ∧
      ds = .object .plain ks :: rest := by
  obtain ⟨ks, hks, h⟩ := Except.bind_eq_ok.1 h
  obtain ⟨rest, hrest, h⟩ := Except.bind_eq_ok.1 h
  exact ⟨ks, rest, hks, hrest, (Except.ok.inj h).symm⟩

theorem renderFields_cons_eq_ok {f : Value × Shape} {fs : List (Value × Shape)}
    {ps : List (Value × Value)} (h : renderFields host (f :: fs) path = .ok ps) :
    ∃ ks rest, render host f.2 (path.child f.1.display) = .ok ks ∧
      renderFields host fs path = .ok rest ∧ ps = (f.1, .object .plain ks) :: rest := by
  obtain ⟨here, hentry, h⟩ := Except.bind_eq_ok.1 h
  obtain ⟨-, rfl⟩ := Pointer.entry_eq_ok_iff.1 hentry
  obtain ⟨ks, hks, h⟩ := Except.bind_eq_ok.1 h
  obtain ⟨rest, hrest, h⟩ := Except.bind_eq_ok.1 h
  exact ⟨ks, rest, hks, hrest, (Except.ok.inj h).symm⟩

theorem length_of_renderList {ss : List Shape} {i : Nat} {ds : List Value}
    (h : renderList host ss path i = .ok ds) : ds.length = ss.length := by
  induction ss generalizing i ds with
  | nil => rw [← Except.ok.inj h, List.length_nil, List.length_nil]
  | cons s ss ih =>
    obtain ⟨ks, rest, _, hrest, rfl⟩ := renderList_cons_eq_ok h
    rw [List.length_cons, List.length_cons, ih hrest]

end

mutual

theorem isWritable_of_render (s : Shape) {path : Pointer} {ks : List (Value × Value)}
    (h : render host s path = .ok ks) : s.isWritable = true := by
  cases s with
  | literal v =>
    obtain ⟨w, hw, _⟩ := Except.map_eq_ok.1 h
    exact ((Value.toPlain_eq_ok_iff v w path).1 hw).1
  | optional s => exact isWritable_of_render s h
  | array s =>
    obtain ⟨items, hitems, _⟩ := Except.map_eq_ok.1 h
    exact isWritable_of_render s hitems
  | tuple ss =>
    obtain ⟨rfl, _⟩ | ⟨ds, hds, _⟩ := render_tuple_eq_ok h
    · rfl
    · exact isWritable_of_renderList ss hds
  | union ss =>
    obtain ⟨rfl, _⟩ | ⟨ds, hds, _⟩ := render_union_eq_ok h
    · rfl
    · exact isWritable_of_renderList ss hds
  | object fs =>
    obtain ⟨ps, hps, _⟩ := Except.map_eq_ok.1 h
    exact isWritable_of_renderFields fs hps
  | foreign v => cases h
  | sealed s => cases h
  | _ => rfl
termination_by structural s

theorem isWritable_of_renderList (ss : List Shape) {path : Pointer} {i : Nat} {ds : List Value}
    (h : renderList host ss path i = .ok ds) : Shape.allLiteralsList Value.isJson ss = true := by
  cases ss with
  | nil => rfl
  | cons s ss =>
    obtain ⟨ks, rest, hks, hrest, _⟩ := renderList_cons_eq_ok h
    exact Bool.and_eq_true_iff.2 ⟨isWritable_of_render s hks, isWritable_of_renderList ss hrest⟩
termination_by structural ss

theorem isWritable_of_renderFields (fs : List (Value × Shape)) {path : Pointer}
    {ps : List (Value × Value)} (h : renderFields host fs path = .ok ps) :
    Shape.allLiteralsFields Value.isJson fs = true := by
  cases fs with
  | nil => rfl
  | cons f fs =>
    obtain ⟨ks, rest, hks, hrest, _⟩ := renderFields_cons_eq_ok h
    exact Bool.and_eq_true_iff.2 ⟨isWritable_of_render f.2 hks, isWritable_of_renderFields fs hrest⟩
termination_by structural fs

end

/-! ## Agreement -/

theorem forall_mem_requiredKeys_cons {f : Value × Shape} {fs : List (Value × Shape)}
    {p : Value → Prop} :
    (∀ key ∈ requiredKeys (f :: fs), p key) ↔
      (f.2.acceptsAbsent = false → p f.1) ∧ ∀ key ∈ requiredKeys fs, p key := by
  cases habsent : f.2.acceptsAbsent <;> simp [requiredKeys, habsent]

/-- A field of a record and the two keywords that speak of it agree, whether the entry is there or
not. -/
theorem satisfies_field_iff {s : Shape} {d : Value} {found? : Option Value}
    (hwritable : s.isWritable = true)
    (hentry : ∀ w, found? = some w → (Accepts d w ↔ s.Satisfies w)) :
    s.Satisfies (found?.getD .absent) ↔
      (∀ w, found? = some w → Accepts d w) ∧ (s.acceptsAbsent = false → found?.isSome = true) := by
  cases found? with
  | some w => simp [hentry]
  | none =>
    have hkind : s.allLiterals (fun x => x.kind?.isSome) = true :=
      Shape.allLiterals_mono (fun _ => Value.kind?_isSome_of_isJson) s hwritable
    simp [Shape.satisfies_absent_iff_of_kinds hkind]

mutual

/-- A document accepts the data that satisfies its shape. -/
theorem accepts_render_iff (s : Shape) {path : Pointer} {ks : List (Value × Value)}
    (h : render host s path = .ok ks) (hs : s.isWellFormed = true) {form : ObjectForm} {v : Value}
    (hv : v.isJson = true) (hv' : v.isWellFormed = true) :
    Accepts (.object form ks) v ↔ s.Satisfies v := by
  cases s with
  | literal x =>
    obtain ⟨w, hw, rfl⟩ := Except.map_eq_ok.1 h
    obtain ⟨hx, rfl⟩ := (Value.toPlain_eq_ok_iff x w path).1 hw
    rw [accepts_const_iff, Value.same_plain_iff, ← Value.jsonEq_iff_same v x hv hx hv' hs]
    exact Iff.rfl
  | optional s =>
    -- Erasing the optional loses nothing: absence, which it adds, is no JSON data.
    have hpresent : v ≠ .absent := by
      rintro rfl
      cases hv
    have helement : Accepts (.object form ks) v ↔ s.Satisfies v := accepts_render_iff s h hs hv hv'
    simpa [Satisfies, hpresent] using helement
  | array s =>
    obtain ⟨items, hitems, rfl⟩ := Except.map_eq_ok.1 h
    rw [accepts_items_iff]
    refine exists_congr fun form => exists_congr fun ws => and_congr_right ?_
    rintro rfl
    refine forall₂_congr fun w hw => ?_
    exact accepts_render_iff s hitems hs (Value.isJsonList_iff.1 hv w hw)
      (Value.isWellFormedList_iff.1 hv' w hw)
  | tuple ss =>
    obtain ⟨rfl, rfl⟩ | ⟨ds, hds, rfl⟩ := render_tuple_eq_ok h
    · rw [accepts_maxItems_zero_iff]
      refine exists_congr fun form => exists_congr fun ws => and_congr_right fun _ => ?_
      constructor
      · rintro rfl
        trivial
      · intro hitems
        exact List.length_eq_zero_iff.1 hitems.length_eq
    · rw [← length_of_renderList hds, accepts_prefixItems_iff]
      refine exists_congr fun form => exists_congr fun ws => and_congr_right ?_
      rintro rfl
      constructor
      · rintro ⟨hlen, hitems⟩
        rw [length_of_renderList hds] at hlen
        exact (acceptsEach_renderList_iff ss hds hs hlen hv hv').1 hitems
      · intro hitems
        have hlen := hitems.length_eq
        rw [length_of_renderList hds]
        exact ⟨hlen, (acceptsEach_renderList_iff ss hds hs hlen hv hv').2 hitems⟩
  | union ss =>
    obtain ⟨rfl, rfl⟩ | ⟨ds, hds, rfl⟩ := render_union_eq_ok h
    · exact accepts_not_anything_iff
    · rw [accepts_anyOf_iff]
      exact acceptsSome_renderList_iff ss hds hs hv hv'
  | object fs =>
    obtain ⟨ps, hps, rfl⟩ := Except.map_eq_ok.1 h
    rw [accepts_objectKeywords_iff]
    refine exists_congr fun form => exists_congr fun entries => and_congr_right ?_
    rintro rfl
    simp only [Shape.isWellFormed, Value.isWellFormed, Bool.and_eq_true] at hs hv'
    exact acceptsEntries_renderFields_iff fs hps hs.2 hv hv'.2
  | foreign x => cases h
  | sealed s => cases h
  | _ =>
    cases h
    exact accepts_type_iff
termination_by structural s

theorem acceptsEach_renderList_iff (ss : List Shape) {path : Pointer} {i : Nat} {ds : List Value}
    (h : renderList host ss path i = .ok ds) (hss : Shape.isWellFormedList ss = true)
    {vs : List Value} (hlen : vs.length = ss.length) (hvs : Value.isJsonList vs = true)
    (hvs' : Value.isWellFormedList vs = true) :
    AcceptsEach ds vs ↔ SatisfiesEach ss vs := by
  cases ss with
  | nil =>
    cases h
    rw [List.length_eq_zero_iff.1 hlen]
    exact Iff.rfl
  | cons s ss =>
    cases vs with
    | nil => cases hlen
    | cons v vs =>
      obtain ⟨ks, rest, hks, hrest, rfl⟩ := renderList_cons_eq_ok h
      simp only [Shape.isWellFormedList, Value.isJsonList, Value.isWellFormedList,
        Bool.and_eq_true] at hss hvs hvs'
      exact and_congr (accepts_render_iff s hks hss.1 hvs.1 hvs'.1)
        (acceptsEach_renderList_iff ss hrest hss.2 (Nat.succ.inj hlen) hvs.2 hvs'.2)
termination_by structural ss

theorem acceptsSome_renderList_iff (ss : List Shape) {path : Pointer} {i : Nat} {ds : List Value}
    (h : renderList host ss path i = .ok ds) (hss : Shape.isWellFormedList ss = true) {v : Value}
    (hv : v.isJson = true) (hv' : v.isWellFormed = true) :
    AcceptsSome ds v ↔ SatisfiesSome ss v := by
  cases ss with
  | nil =>
    cases h
    exact Iff.rfl
  | cons s ss =>
    obtain ⟨ks, rest, hks, hrest, rfl⟩ := renderList_cons_eq_ok h
    simp only [Shape.isWellFormedList, Bool.and_eq_true] at hss
    exact or_congr (accepts_render_iff s hks hss.1 hv hv')
      (acceptsSome_renderList_iff ss hrest hss.2 hv hv')
termination_by structural ss

theorem acceptsEntries_renderFields_iff (fs : List (Value × Shape)) {path : Pointer}
    {ps : List (Value × Value)} (h : renderFields host fs path = .ok ps)
    (hfs : Shape.isWellFormedFields fs = true) {entries : List (Value × Value)}
    (hentries : Value.isJsonEntries entries = true)
    (hentries' : Value.isWellFormedEntries entries = true) :
    (AcceptsEntries ps entries ∧
      ∀ key ∈ requiredKeys fs, (Value.lookup key entries).isSome = true) ↔
      SatisfiesFields fs entries := by
  cases fs with
  | nil =>
    cases h
    simp [AcceptsEntries, requiredKeys, SatisfiesFields]
  | cons f fs =>
    obtain ⟨ks, rest, hks, hrest, rfl⟩ := renderFields_cons_eq_ok h
    simp only [Shape.isWellFormedFields, Bool.and_eq_true] at hfs
    have hentry : ∀ w, Value.lookup f.1 entries = some w →
        (Accepts (.object .plain ks) w ↔ f.2.Satisfies w) := by
      intro w hw
      have hmem := Value.mem_of_lookup (Value.isJsonEntries_iff.1 hentries).1 hw
      exact accepts_render_iff f.2 hks hfs.1.2 ((Value.isJsonEntries_iff.1 hentries).2 _ hmem)
        (Value.isWellFormedEntries_iff.1 hentries' _ hmem).2
    have hfield := satisfies_field_iff (isWritable_of_render f.2 hks) hentry
    have hothers := acceptsEntries_renderFields_iff fs hrest hfs.2 hentries hentries'
    simp only [AcceptsEntries, SatisfiesFields, forall_mem_requiredKeys_cons, hfield, ← hothers]
    exact and_and_and_comm
termination_by structural fs

end

/-! ## Exported documents -/

theorem rendered_of_top {s node : Shape} (hnode : s.top = .ok node) :
    rendered host s = (render host node .root).map ofKeywords := by
  rw [rendered, hnode]
  rfl

theorem checked_eq_ok_iff {d e : Value} : checked d = .ok e ↔ badRequired? d = none ∧ d = e := by
  unfold checked
  cases badRequired? d <;> simp

theorem ofShape_eq_ok_iff {s : Shape} {d : Value} :
    ofShape host s = .ok d ↔ rendered host s = .ok d ∧ badRequired? d = none := by
  rw [ofShape, raising_eq_ok_iff, Except.bind_eq_ok]
  simp only [checked_eq_ok_iff]
  constructor
  · rintro ⟨e, he, hrequired, rfl⟩
    exact ⟨he, hrequired⟩
  · rintro ⟨hd, hrequired⟩
    exact ⟨d, hd, hrequired, rfl⟩

theorem ofShape_eq_ok {s : Shape} {document : Value} (h : ofShape host s = .ok document) :
    ∃ node ks, s.top = .ok node ∧ render host node .root = .ok ks ∧ document = ofKeywords ks := by
  obtain ⟨node, hnode, hrendered⟩ := Except.bind_eq_ok.1 (ofShape_eq_ok_iff.1 h).1
  obtain ⟨ks, hks, hrendered⟩ := Except.bind_eq_ok.1 hrendered
  cases hrendered
  exact ⟨node, ks, hnode, hks, rfl⟩

theorem accepts_ofKeywords_iff {ks : List (Value × Value)} {v : Value} :
    Accepts (ofKeywords ks) v ↔ Accepts (.object .plain ks) v := by
  change True ∧ AllHold ks (prefixCount ks) v ↔ AllHold ks (prefixCount ks) v
  rw [true_and]

/-- On JSON data the check of a shape that can be exported always comes to an end, with the verdict
of the document. -/
theorem accepts_ofShape_iff_isValid {s : Shape} {document : Value}
    (h : ofShape host s = .ok document) (hs : s.isWellFormed = true) {v : Value}
    (hv : v.isJson = true) (hv' : v.isWellFormed = true) :
    ∃ b, s.isValid host v = .ok b ∧ (Accepts document v ↔ b = true) := by
  obtain ⟨node, ks, hnode, hks, rfl⟩ := ofShape_eq_ok h
  have hproper := Shape.isProper_of_allLiterals (isWritable_of_render node hks)
  obtain ⟨b, hb, hsatisfies⟩ := Shape.conforms_decides node hproper v
  refine ⟨b, Shape.isValid_eq_ok hnode hb, ?_⟩
  rw [accepts_ofKeywords_iff, hsatisfies]
  exact accepts_render_iff node hks (Shape.isWellFormed_of_top hnode hs) hv hv'

/-- A record with a number, and a tag that is a pair, null or not there. Its document takes a pair
with a number equal by value, and no pair with a number for the boolean. -/
theorem accepts_ofShape_tagged_record :
    let s : Shape := .sealed (.object [(.ofString "id", .number), (.ofString "tag",
      .union [.literal (.array .tuple [.bool true, .int 1]), .optional .null])])
    let document : Value := .object .plain [keyword "$schema" (.ofString dialect), typeIs .object,
      keyword "properties" (.object .plain [(.ofString "id", .object .plain [typeIs .number]),
        (.ofString "tag", .object .plain [keyword "anyOf" (.list [
          .object .plain [keyword "const" (.list [.bool true, .int 1])],
          .object .plain [typeIs .null]])])]),
      keyword "required" (.list [.ofString "id"])]
    let tagged (tag : List Value) : Value :=
      .object .plain [(.ofString "tag", .list tag), (.ofString "id", .int 2)]
    ofShape .shallow s = .ok document ∧
      Accepts document (.object .plain [(.ofString "id", .int 2)]) ∧
      Accepts document (tagged [.bool true, .float (.finite false 1023 0)]) ∧
      ¬ Accepts document (tagged [.int 1, .int 1]) ∧
      ¬ Accepts document (.object .plain [(.ofString "tag", .null)]) := by
  intro s document tagged
  have hdocument : ofShape .shallow s = .ok document := rfl
  have hverdict : ∀ v b, v.isJson = true → v.isWellFormed = true → s.isValid .shallow v = .ok b →
      (Accepts document v ↔ b = true) := by
    intro v b hv hv' hb
    obtain ⟨c, hc, hverdict⟩ := accepts_ofShape_iff_isValid hdocument (by decide +kernel) hv hv'
    rw [hb] at hc
    rwa [Except.ok.inj hc]
  refine ⟨hdocument, ?_, ?_, ?_, ?_⟩
  · exact (hverdict _ true rfl rfl rfl).2 rfl
  · exact (hverdict _ true rfl rfl rfl).2 rfl
  · exact fun h => Bool.false_ne_true ((hverdict _ false rfl rfl rfl).1 h)
  · exact fun h => Bool.false_ne_true ((hverdict _ false rfl rfl rfl).1 h)

end DataShape.JsonSchema
