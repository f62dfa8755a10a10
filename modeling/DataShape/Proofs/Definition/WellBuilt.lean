-- SUMMARY: Shapes built from documents are well built, and so can be checked, described and exported without fault.
import DataShape.Proofs.Definition.Language
import DataShape.Proofs.JsonSchema.Metaschema

/-!
# Well-built shapes

A shape can hold anything, but one that a definition document describes holds
no degenerate part at any depth. That is all the later operations need: the
walk over a value, the way back to a document, and the export.
-/

namespace DataShape.Shape

/-- Nothing but the ten forms with plain values in literals, no degenerate part, and no more height
than a limit. -/
structure WellBuilt (limit : Int) (s : Shape) : Prop where
  plain : s.allLiterals Value.isPlain = true
  strict : s.isStrict = true
  height_le : s.height ≤ limit

theorem heightList_le_iff {ss : List Shape} {n : Nat} :
    heightList ss ≤ n ↔ ∀ s ∈ ss, s.height ≤ n := by
  induction ss with
  | nil => simp [heightList]
  | cons s ss ih => simp only [heightList, Nat.max_le, ih, List.forall_mem_cons]

theorem heightFields_le_iff {fs : List (Value × Shape)} {n : Nat} :
    heightFields fs ≤ n ↔ ∀ f ∈ fs, f.2.height ≤ n := by
  induction fs with
  | nil => simp [heightFields]
  | cons f fs ih => simp only [heightFields, Nat.max_le, ih, List.forall_mem_cons]

namespace WellBuilt

variable {s : Shape} {ss : List Shape} {n : Nat}

theorem mono {limit limit' : Int} (h : s.WellBuilt limit) (hle : limit ≤ limit') :
    s.WellBuilt limit' :=
  ⟨h.plain, h.strict, Int.le_trans h.height_le hle⟩

theorem isWritable {limit : Int} (h : s.WellBuilt limit) : s.isWritable = true :=
  allLiterals_mono (fun _ => Value.isJson_of_isPlain) s h.plain

theorem primitive (p : Definition.Primitive) : p.shape.WellBuilt 1 := by
  cases p <;> exact ⟨rfl, rfl, Int.le_refl 1⟩

theorem literal {v : Value} (h : v.isPlain = true) : (Shape.literal v).WellBuilt 1 :=
  ⟨h, rfl, Int.le_refl 1⟩

theorem optional (h : s.WellBuilt n) : (Shape.optional s).WellBuilt (n + 1 : Nat) := by
  refine ⟨h.plain, h.strict, ?_⟩
  have hheight := h.height_le
  simp only [Shape.height]
  omega

theorem array (h : s.WellBuilt n) : (Shape.array s).WellBuilt (n + 1 : Nat) := by
  refine ⟨h.plain, h.strict, ?_⟩
  have hheight := h.height_le
  simp only [Shape.height]
  omega

theorem heightList_le (h : ∀ s ∈ ss, s.WellBuilt n) : heightList ss ≤ n := by
  rw [heightList_le_iff]
  intro s hs
  exact Int.ofNat_le.1 (h s hs).height_le

theorem tuple (hlen : 1 ≤ ss.length) (h : ∀ s ∈ ss, s.WellBuilt n) :
    (Shape.tuple ss).WellBuilt (n + 1 : Nat) := by
  refine ⟨allLiteralsList_iff.2 fun s hs => (h s hs).plain, ?_, ?_⟩
  · simp only [Shape.isStrict, Bool.and_eq_true, decide_eq_true_eq, isStrictList_iff]
    exact ⟨hlen, fun s hs => (h s hs).strict⟩
  · have hheight := heightList_le h
    simp only [Shape.height]
    omega

theorem union (hlen : 2 ≤ ss.length) (h : ∀ s ∈ ss, s.WellBuilt n) :
    (Shape.union ss).WellBuilt (n + 1 : Nat) := by
  refine ⟨allLiteralsList_iff.2 fun s hs => (h s hs).plain, ?_, ?_⟩
  · simp only [Shape.isStrict, Bool.and_eq_true, decide_eq_true_eq, isStrictList_iff]
    exact ⟨hlen, fun s hs => (h s hs).strict⟩
  · have hheight := heightList_le h
    simp only [Shape.height]
    omega

theorem object {fs : List (Value × Shape)} (hkeys : Value.HasTextKeys fs)
    (h : ∀ f ∈ fs, f.2.WellBuilt n) : (Shape.object fs).WellBuilt (n + 1 : Nat) := by
  refine ⟨allLiteralsFields_iff.2 fun f hf => (h f hf).plain, ?_, ?_⟩
  · exact isStrictFields_iff.2 fun f hf => ⟨hkeys f hf, (h f hf).strict⟩
  · have hheight : heightFields fs ≤ n :=
      heightFields_le_iff.2 fun f hf => Int.ofNat_le.1 (h f hf).height_le
    simp only [Shape.height]
    omega

end WellBuilt

end DataShape.Shape

namespace DataShape.Definition

variable {host : Host}

/-! ## Meanings -/

theorem meaningList_eq_map (ds : List Value) : meaningList ds = ds.map meaning := by
  induction ds with
  | nil => rfl
  | cons d ds ih => rw [meaningList, ih, List.map_cons]

theorem meaningEntries_eq_map (es : List (Value × Value)) :
    meaningEntries es = es.map fun e => (e.1, meaning e.2) := by
  induction es with
  | nil => rfl
  | cons e es ih => rw [meaningEntries, ih, List.map_cons]

theorem nesting_le_nestingList {ds : List Value} {d : Value} (h : d ∈ ds) :
    nesting d ≤ nestingList ds := by
  induction h with
  | head ds => exact Nat.le_max_left _ _
  | tail _ _ ih => exact Nat.le_trans ih (Nat.le_max_right _ _)

theorem nesting_le_nestingEntries {es : List (Value × Value)} {e : Value × Value} (h : e ∈ es) :
    nesting e.2 ≤ nestingEntries es := by
  induction h with
  | head es => exact Nat.le_max_left _ _
  | tail _ _ ih => exact Nat.le_trans ih (Nat.le_max_right _ _)

theorem wellBuilt_meaningList {ds : List Value}
    (h : ∀ d ∈ ds, (meaning d).WellBuilt (nesting d)) :
    ∀ s ∈ meaningList ds, s.WellBuilt (nestingList ds) := by
  rw [meaningList_eq_map, List.forall_mem_map]
  intro d hd
  exact (h d hd).mono (Int.ofNat_le.2 (nesting_le_nestingList hd))

theorem wellBuilt_meaningEntries {es : List (Value × Value)}
    (h : ∀ e ∈ es, (meaning e.2).WellBuilt (nesting e.2)) :
    ∀ f ∈ meaningEntries es, f.2.WellBuilt (nestingEntries es) := by
  rw [meaningEntries_eq_map, List.forall_mem_map]
  intro e he
  exact (h e he).mono (Int.ofNat_le.2 (nesting_le_nestingEntries he))

theorem IsDefinition.wellBuilt {d : Value} (h : IsDefinition d) :
    (meaning d).WellBuilt (nesting d) := by
  induction h using IsDefinition.induction with
  | null => exact ⟨rfl, rfl, Int.le_refl 1⟩
  | primitive p =>
    have hp : meaning (.str p.name) = p.shape := by simp [meaning]
    rw [hp]
    exact .primitive p
  | literal form v h =>
    simp only [meaning, nesting, Tag.ofKey?_name]
    exact .literal (Value.isPlain_plain h)
  | optional form d _ ih =>
    simp only [meaning, nesting, Tag.ofKey?_name]
    exact .optional ih
  | array form d _ ih =>
    simp only [meaning, nesting, Tag.ofKey?_name]
    exact .array ih
  | tuple form form' ds hlen _ ih =>
    simp only [meaning, nesting, Tag.ofKey?_name]
    refine .tuple ?_ (wellBuilt_meaningList ih)
    rwa [meaningList_eq_map, List.length_map]
  | union form form' ds hlen _ ih =>
    simp only [meaning, nesting, Tag.ofKey?_name]
    refine .union ?_ (wellBuilt_meaningList ih)
    rwa [meaningList_eq_map, List.length_map]
  | noFields form =>
    simp only [meaning, Tag.ofKey?_name]
    exact ⟨rfl, rfl, Int.le_refl 1⟩
  | fields form form' es hkeys _ ih =>
    simp only [meaning, nesting, Tag.ofKey?_name]
    refine .object ?_ (wellBuilt_meaningEntries ih)
    rw [meaningEntries_eq_map, Value.HasTextKeys, List.forall_mem_map]
    exact hkeys

theorem isWellFormed_of_entry {form : ObjectForm} {key v : Value}
    (h : (Value.object form [(key, v)]).isWellFormed = true) : v.isWellFormed = true := by
  simp only [Value.isWellFormed, Value.isWellFormedEntries, Bool.and_eq_true] at h
  exact h.2.1.2

theorem isWellFormed_meaningList {ds : List Value} (hds : Value.isWellFormedList ds = true)
    (h : ∀ d ∈ ds, d.isWellFormed = true → (meaning d).isWellFormed = true) :
    Shape.isWellFormedList (meaningList ds) = true := by
  rw [meaningList_eq_map, Shape.isWellFormedList_iff, List.forall_mem_map]
  intro d hd
  exact h d hd (Value.isWellFormedList_iff.1 hds d hd)

theorem IsDefinition.isWellFormed_meaning {d : Value} (h : IsDefinition d)
    (hd : d.isWellFormed = true) : (meaning d).isWellFormed = true := by
  induction h using IsDefinition.induction with
  | null => rfl
  | primitive p => cases p <;> rfl
  | literal form v _ =>
    simp only [meaning, Tag.ofKey?_name]
    exact Value.isWellFormed_plain (isWellFormed_of_entry hd)
  | optional form d _ ih =>
    simp only [meaning, Tag.ofKey?_name]
    exact ih (isWellFormed_of_entry hd)
  | array form d _ ih =>
    simp only [meaning, Tag.ofKey?_name]
    exact ih (isWellFormed_of_entry hd)
  | tuple form form' ds _ _ ih =>
    simp only [meaning, Tag.ofKey?_name]
    exact isWellFormed_meaningList (isWellFormed_of_entry hd) ih
  | union form form' ds _ _ ih =>
    simp only [meaning, Tag.ofKey?_name]
    exact isWellFormed_meaningList (isWellFormed_of_entry hd) ih
  | noFields form =>
    simp only [meaning, Tag.ofKey?_name]
    rfl
  | fields form form' es _ _ ih =>
    have hes := isWellFormed_of_entry hd
    simp only [Value.isWellFormed, Bool.and_eq_true, Value.isWellFormedEntries_iff] at hes
    simp only [meaning, Tag.ofKey?_name, Shape.isWellFormed, meaningEntries_eq_map,
      Value.distinctKeys_map, Bool.and_eq_true, Shape.isWellFormedFields_iff, List.forall_mem_map]
    exact ⟨hes.1, fun e he => ⟨(hes.2 e he).1, ih e he (hes.2 e he).2⟩⟩

/-! ## What is built -/

/-- What a document builds, at whatever limit, is well built, and no later operation on it fails. -/
theorem wellBuilt_of_toShape {limit : Int} {document : Value} {s : Shape}
    (h : toShape host limit document = .ok s) :
    ∃ rt, s = .sealed rt ∧ rt.WellBuilt limit ∧
      (∀ v, ∃ b, s.isValid host v = .ok b) ∧
      (∃ d, ofShape host s = .ok d) ∧
      ∃ d, JsonSchema.ofShape host s = .ok d ∧
        (document.isWellFormed = true → JsonSchema.MeetsMetaschema d) := by
  obtain ⟨hdocument, hnesting, rfl⟩ := (toShape_eq_ok_iff document limit s).1 h
  have hbuilt := hdocument.wellBuilt.mono hnesting
  have htexts : ∀ fs, Shape.Occurs (.object fs) (meaning document) → Value.HasTextKeys fs :=
    fun _ => JsonSchema.hasTextKeys_of_isStrict hbuilt.strict
  refine ⟨meaning document, rfl, hbuilt, ?_, ?_, ?_⟩
  · intro v
    have hproper := Shape.isProper_of_allLiterals hbuilt.plain
    obtain ⟨b, hb, -⟩ := Shape.conforms_decides (meaning document) hproper v
    exact ⟨b, Shape.isValid_eq_ok rfl hb⟩
  · obtain ⟨d, hd⟩ := exists_describe_iff.2
      ⟨hbuilt.isWritable, JsonSchema.allNodes_showsKeys_of_hasTextKeys htexts⟩
    exact ⟨d, raising_eq_ok_iff.2 hd⟩
  · obtain ⟨d, hd, hmeets⟩ := JsonSchema.exists_ofShape (s := .sealed (meaning document)) rfl
      hbuilt.isWritable hbuilt.strict
    exact ⟨d, hd, fun hformed => hmeets (hdocument.isWellFormed_meaning hformed)⟩

/-- A record with an optional pair, whose literal is a tuple in a read-only mapping, at its lowest
limit. The literal comes out plain, and the export requires nothing. -/
theorem wellBuilt_of_toShape_optional_pair :
    let point (form : ArrayForm) (form' : ObjectForm) : Value :=
      .object form' [(.str "x", .array form [.int 1])]
    let document : Value := .object .readOnly [(.str Tag.object.name, .object .readOnly
      [(.str "at", tagged .optional (tagged .tuple (.array .tuple
        [.null, tagged .literal (point .tuple .readOnly)])))])]
    let rt : Shape := .object [(.str "at", .optional (.tuple
      [.null, .literal (point .list .plain)]))]
    toShape .shallow 4 document = .ok (.sealed rt) ∧ rt.WellBuilt 4 ∧
      (∃ b, (Shape.sealed rt).isValid .shallow (.reference 0) = .ok b) ∧
      (∃ d, ofShape .shallow (.sealed rt) = .ok d) ∧
      ∃ d, JsonSchema.ofShape .shallow (.sealed rt) = .ok d ∧ JsonSchema.MeetsMetaschema d := by
  intro point document rt
  have hbuild : toShape .shallow 4 document = .ok (.sealed rt) := rfl
  obtain ⟨rt', hrt, hbuilt, hvalid, hdescribe, d, hd, hmeets⟩ := wellBuilt_of_toShape hbuild
  obtain rfl := Shape.sealed.inj hrt
  exact ⟨hbuild, hbuilt, hvalid _, hdescribe, d, hd, hmeets (by decide +kernel)⟩

end DataShape.Definition
