-- SUMMARY: The canonical form of a definition document: what describing the shape that it builds gives back.
import DataShape.Proofs.Definition.Preservation

/-!
# Canonical documents

Several spellings build one shape: null for its name, tuples for lists, any
mapping for a plain one, nothing for no fields. Describing the shape picks one
of them, and changes no more than that. What it picks is taken at the same
limits as the document and builds the same shape, so that picking once is
enough.
-/

namespace DataShape.Definition

variable {host : Host}

mutual

/-- The document with `null` by its name, lists for all arrays, plain objects for all mappings, no
entries for no fields, and the plain form of the data of literals. -/
def canonical : Value → Value
  | .null => .str Primitive.null.name
  | .object _ [(key, payload)] =>
    match Tag.ofKey? key, payload with
    | some .literal, v => tagged .literal v.plain
    | some .optional, d => tagged .optional (canonical d)
    | some .array, d => tagged .array (canonical d)
    | some .tuple, .array _ ds => tagged .tuple (.list (canonicalList ds))
    | some .union, .array _ ds => tagged .union (.list (canonicalList ds))
    | some .object, .object _ es => tagged .object (.object .plain (canonicalEntries es))
    | some .object, .null => tagged .object (.object .plain [])
    | _, v => .object .plain [(key, v)]
  | d => d
termination_by structural d => d

def canonicalList : List Value → List Value
  | [] => []
  | d :: ds => canonical d :: canonicalList ds
termination_by structural ds => ds

def canonicalEntries : List (Value × Value) → List (Value × Value)
  | [] => []
  | (key, d) :: es => (key, canonical d) :: canonicalEntries es
termination_by structural es => es

end

/-! ## Heights of meanings -/

theorem heightList_meaningList {ds : List Value} (h : ∀ d ∈ ds, (meaning d).height = nesting d) :
    Shape.heightList (meaningList ds) = nestingList ds := by
  induction ds with
  | nil => rfl
  | cons d ds ih =>
    obtain ⟨hd, hds⟩ := List.forall_mem_cons.1 h
    rw [meaningList, Shape.heightList, nestingList, hd, ih hds]

theorem heightFields_meaningEntries {es : List (Value × Value)}
    (h : ∀ e ∈ es, (meaning e.2).height = nesting e.2) :
    Shape.heightFields (meaningEntries es) = nestingEntries es := by
  induction es with
  | nil => rfl
  | cons e es ih =>
    obtain ⟨he, hes⟩ := List.forall_mem_cons.1 h
    rw [meaningEntries, Shape.heightFields, nestingEntries, he, ih hes]

/-- A shape is as high as the definitions of its document are nested. -/
theorem IsDefinition.height_meaning {d : Value} (h : IsDefinition d) :
    (meaning d).height = nesting d := by
  induction h using IsDefinition.induction with
  | null => rfl
  | primitive p => cases p <;> rfl
  | literal form v _ =>
    simp only [meaning, Tag.ofKey?_name]
    rfl
  | optional form d _ ih | array form d _ ih =>
    simp only [meaning, nesting, Tag.ofKey?_name, Shape.height, ih]
  | tuple form form' ds _ _ ih | union form form' ds _ _ ih =>
    simp only [meaning, nesting, Tag.ofKey?_name, Shape.height, heightList_meaningList ih]
  | noFields form =>
    simp only [meaning, Tag.ofKey?_name]
    rfl
  | fields form form' es _ _ ih =>
    simp only [meaning, nesting, Tag.ofKey?_name, Shape.height, heightFields_meaningEntries ih]

/-! ## Describing meanings -/

theorem describeList_meaningList {ds : List Value}
    (h : ∀ d ∈ ds, ∀ path, describe host (meaning d) path = .ok (canonical d)) (path : Pointer)
    (i : Nat) : describeList host (meaningList ds) path i = .ok (canonicalList ds) := by
  induction ds generalizing i with
  | nil => rfl
  | cons d ds ih =>
    obtain ⟨hd, hds⟩ := List.forall_mem_cons.1 h
    rw [meaningList, describeList, hd, ih hds]
    rfl

theorem describeFields_meaningEntries {es : List (Value × Value)} (hkeys : Value.HasTextKeys es)
    (h : ∀ e ∈ es, ∀ path, describe host (meaning e.2) path = .ok (canonical e.2))
    (path : Pointer) : describeFields host (meaningEntries es) path = .ok (canonicalEntries es) := by
  induction es with
  | nil => rfl
  | cons e es ih =>
    obtain ⟨key, d⟩ := e
    obtain ⟨t, rfl⟩ := Value.kind?_eq_string_iff.1 (hkeys _ List.mem_cons_self)
    have hrest : Value.HasTextKeys es := (List.forall_mem_cons.1 hkeys).2
    obtain ⟨he, hes⟩ := List.forall_mem_cons.1 h
    rw [meaningEntries, describeFields, Pointer.entry_text, ih hrest hes]
    simp only [bind, Except.bind, he]
    rfl

/-- The shape of a document is described by the canonical document. -/
theorem IsDefinition.describe_meaning {d : Value} (h : IsDefinition d) (path : Pointer) :
    describe host (meaning d) path = .ok (canonical d) := by
  induction h using IsDefinition.induction generalizing path with
  | null => rfl
  | primitive p => cases p <;> rfl
  | literal form v h =>
    have hplain := (Value.toPlain_eq_self_iff v.plain (path.child Tag.literal.name)).2
      (Value.isPlain_plain h)
    simp only [meaning, canonical, Tag.ofKey?_name, describe, hplain]
    rfl
  | optional form d _ ih | array form d _ ih =>
    simp only [meaning, canonical, Tag.ofKey?_name, describe, ih]
    rfl
  | tuple form form' ds _ _ ih | union form form' ds _ _ ih =>
    simp only [meaning, canonical, Tag.ofKey?_name, describe, describeList_meaningList ih]
    rfl
  | noFields form =>
    simp only [meaning, canonical, Tag.ofKey?_name]
    rfl
  | fields form form' es hkeys _ ih =>
    simp only [meaning, canonical, Tag.ofKey?_name, describe,
      describeFields_meaningEntries hkeys ih]
    rfl

end DataShape.Definition

namespace DataShape.Shape

/-- Where all literals are plain there is nothing to make plain. -/
theorem withPlainLiterals_eq_self (s : Shape) :
    s.allLiterals Value.isPlain = true → s.withPlainLiterals = s := by
  induction s using inductionOnParts with
  | literal v =>
    intro h
    rw [withPlainLiterals, ((Value.isPlain_iff v).1 h).2]
  | optional s ih | array s ih =>
    intro h
    rw [withPlainLiterals, ih h]
  | tuple ss ih | union ss ih =>
    intro h
    have hparts : ss.map withPlainLiterals = ss.map id :=
      List.map_congr_left fun s hs => ih s hs (allLiteralsList_iff.1 h s hs)
    rw [withPlainLiterals, withPlainLiteralsList_eq_map, hparts, List.map_id]
  | object fs ih =>
    intro h
    have hparts : (fs.map fun f => (f.1, f.2.withPlainLiterals)) = fs.map id := by
      refine List.map_congr_left fun f hf => ?_
      rw [ih f hf (allLiteralsFields_iff.1 h f hf)]
      rfl
    rw [withPlainLiterals, withPlainLiteralsFields_eq_map, hparts, List.map_id]
  | _ => exact fun _ => rfl

end DataShape.Shape

namespace DataShape.Definition

variable {host : Host}

/-! ## Building from canonical documents -/

theorem IsDefinition.build_canonical_eq_ok_iff {d : Value} (h : IsDefinition d) {limit : Int}
    {path : Pointer} {depth : Nat} {s : Shape} :
    build limit (canonical d) path depth = .ok s ↔ build limit d path depth = .ok s := by
  have hbuilt := h.wellBuilt
  have hcanonical : describe .shallow (meaning d) path = .ok (canonical d) :=
    h.describe_meaning path
  rw [build_describe hcanonical, build_eq_ok_iff d, h.height_meaning,
    Shape.withPlainLiterals_eq_self _ hbuilt.plain]
  simp only [hbuilt.strict, h, true_and]

theorem IsDefinition.toShape_canonical_eq_ok_iff {d : Value} (h : IsDefinition d) {limit : Int}
    {s : Shape} : toShape host limit (canonical d) = .ok s ↔ toShape host limit d = .ok s := by
  simp only [toShape, raising_eq_ok_iff, Except.map_eq_ok, h.build_canonical_eq_ok_iff]

theorem IsDefinition.canonical_canonical {d : Value} (h : IsDefinition d) :
    canonical (canonical d) = canonical d := by
  have hd : toShape .shallow (nesting d) d = .ok (.sealed (meaning d)) :=
    (toShape_eq_ok_iff d (nesting d) _).2 ⟨h, le_rfl, rfl⟩
  obtain ⟨hcanonical, -, hmeaning⟩ :=
    (toShape_eq_ok_iff _ _ _).1 (h.toShape_canonical_eq_ok_iff.2 hd)
  have htwice : describe .shallow (meaning (canonical d)) .root = .ok (canonical (canonical d)) :=
    hcanonical.describe_meaning .root
  rw [← Shape.sealed.inj hmeaning, h.describe_meaning] at htwice
  exact (Except.ok.inj htwice).symm

/-- What an accepted document builds is described by the canonical document, which is accepted at
the same limits, builds the same shape, and is its own canonical document. -/
theorem ofShape_toShape {limit : Int} {document : Value} {s : Shape}
    (h : toShape host limit document = .ok s) :
    ofShape host s = .ok (canonical document) ∧
      canonical (canonical document) = canonical document ∧
      ∀ limit' t, toShape host limit' (canonical document) = .ok t ↔
        toShape host limit' document = .ok t := by
  obtain ⟨hdocument, -, rfl⟩ := (toShape_eq_ok_iff document limit s).1 h
  refine ⟨?_, hdocument.canonical_canonical, fun limit' t => ?_⟩
  · exact raising_eq_ok_iff.2 (hdocument.describe_meaning .root)
  · exact hdocument.toShape_canonical_eq_ok_iff

/-- A tuple of members in a read-only mapping, with null, no fields, and a tuple for a literal. The
canonical document is taken from the same limit on. -/
theorem ofShape_toShape_spellings :
    let document : Value := .object .readOnly [(.str Tag.union.name, .array .tuple
      [.null, .object .readOnly [(.str Tag.object.name, .null)],
        tagged .literal (.array .tuple [.null])])]
    let written : Value := tagged .union (.list
      [.str "null", tagged .object (.object .plain []), tagged .literal (.list [.null])])
    let s : Shape := .sealed (.union [.null, .object [], .literal (.list [.null])])
    toShape .shallow 2 document = .ok s ∧ canonical document = written ∧
      ofShape .shallow s = .ok written ∧ canonical written = written ∧
      toShape .shallow 2 written = .ok s ∧ ∀ t, toShape .shallow 1 written ≠ .ok t := by
  intro document written s
  have hbuild : toShape .shallow 2 document = .ok s := rfl
  have hwritten : canonical document = written := rfl
  obtain ⟨hdescribe, htwice, hagain⟩ := ofShape_toShape hbuild
  rw [hwritten] at hdescribe htwice hagain
  refine ⟨hbuild, hwritten, hdescribe, htwice, (hagain 2 s).2 hbuild, fun t ht => ?_⟩
  cases (hagain 1 t).1 ht

end DataShape.Definition
