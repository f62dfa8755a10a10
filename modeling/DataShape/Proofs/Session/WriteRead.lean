-- SUMMARY: Writing a shape and loading the text gives the shape as it is read again, whatever is cached.
import DataShape.Proofs.Session.Run
import DataShape.Proofs.Shape.PlainLiterals

/-!
# Writing and loading again

A shape without degenerate parts has a document. If the text of the document
reads as the document, the text loads as the shape, with plain literals and with
what the reader gives for what is not a number. The cache makes no difference,
since whatever a run has stored is what reading the text gives. The two shapes
are equal unless literals show the difference.
-/

namespace DataShape.Definition

variable {host : Host}

/-! ## Documents that are read again -/

/-- Whether a document is, when it is read again, one of the language with the same nesting, and
means its meaning with the literals read again. -/
structure Rereads (d : Value) : Prop where
  isDefinition : IsDefinition d.reread
  nesting_eq : nesting d.reread = nesting d
  meaning_eq : meaning d.reread = (meaning d).rereadLiterals

theorem nestingList_rereadList {ds : List Value} (h : ∀ d ∈ ds, Rereads d) :
    nestingList (Value.rereadList ds) = nestingList ds := by
  induction ds with
  | nil => rfl
  | cons d ds ih =>
    obtain ⟨hd, hds⟩ := List.forall_mem_cons.1 h
    rw [Value.rereadList, nestingList, nestingList, hd.nesting_eq, ih hds]

theorem meaningList_rereadList {ds : List Value} (h : ∀ d ∈ ds, Rereads d) :
    meaningList (Value.rereadList ds) = Shape.rereadLiteralsList (meaningList ds) := by
  induction ds with
  | nil => rfl
  | cons d ds ih =>
    obtain ⟨hd, hds⟩ := List.forall_mem_cons.1 h
    rw [Value.rereadList, meaningList, meaningList, Shape.rereadLiteralsList, hd.meaning_eq, ih hds]

theorem nestingEntries_rereadEntries {es : List (Value × Value)} (h : ∀ e ∈ es, Rereads e.2) :
    nestingEntries (Value.rereadEntries es) = nestingEntries es := by
  induction es with
  | nil => rfl
  | cons e es ih =>
    obtain ⟨he, hes⟩ := List.forall_mem_cons.1 h
    rw [Value.rereadEntries, nestingEntries, nestingEntries, he.nesting_eq, ih hes]

theorem meaningEntries_rereadEntries {es : List (Value × Value)} (h : ∀ e ∈ es, Rereads e.2) :
    meaningEntries (Value.rereadEntries es) = Shape.rereadLiteralsFields (meaningEntries es) := by
  induction es with
  | nil => rfl
  | cons e es ih =>
    obtain ⟨he, hes⟩ := List.forall_mem_cons.1 h
    rw [Value.rereadEntries, meaningEntries, meaningEntries, Shape.rereadLiteralsFields,
      he.meaning_eq, ih hes]

theorem isDefinition_rereadList {ds : List Value} (h : ∀ d ∈ ds, Rereads d) :
    ∀ d ∈ Value.rereadList ds, IsDefinition d := by
  rw [Value.rereadList_eq_map, List.forall_mem_map]
  exact fun d hd => (h d hd).isDefinition

theorem length_rereadList (ds : List Value) : (Value.rereadList ds).length = ds.length := by
  rw [Value.rereadList_eq_map, List.length_map]

theorem IsDefinition.rereads {d : Value} (h : IsDefinition d) : Rereads d := by
  induction h using IsDefinition.induction with
  | null => exact ⟨.null, rfl, rfl⟩
  | primitive p => exact ⟨.primitive p, rfl, by cases p <;> rfl⟩
  | literal form v hjson =>
    have hreread : v.reread.isJson = true := (Value.isJson_reread v).trans hjson
    refine ⟨.composite (.literal hreread), ?_, ?_⟩
    · simp only [Value.reread, Value.rereadEntries, nesting, Tag.ofKey?_name]
    · simp only [Value.reread, Value.rereadEntries, meaning, Tag.ofKey?_name, Value.plain_reread,
        Shape.rereadLiterals]
  | optional form d _ ih | array form d _ ih =>
    refine ⟨.composite (by constructor; exact ih.isDefinition), ?_, ?_⟩
    · simp only [Value.reread, Value.rereadEntries, nesting, Tag.ofKey?_name, ih.nesting_eq]
    · simp only [Value.reread, Value.rereadEntries, meaning, Tag.ofKey?_name, ih.meaning_eq,
        Shape.rereadLiterals]
  | tuple form form' ds hlen _ ih | union form form' ds hlen _ ih =>
    rw [← length_rereadList] at hlen
    refine ⟨.composite (by constructor; exacts [hlen, isDefinition_rereadList ih]), ?_, ?_⟩
    · simp only [Value.reread, Value.rereadEntries, nesting, Tag.ofKey?_name,
        nestingList_rereadList ih]
    · simp only [Value.reread, Value.rereadEntries, meaning, Tag.ofKey?_name,
        meaningList_rereadList ih, Shape.rereadLiterals]
  | noFields form => exact ⟨.composite .noFields, rfl, rfl⟩
  | fields form form' es hkeys _ ih =>
    have hkeys' : Value.HasTextKeys (Value.rereadEntries es) := by
      rw [Value.rereadEntries_eq_map]
      exact List.forall_mem_map.2 hkeys
    have hes : ∀ e ∈ Value.rereadEntries es, IsDefinition e.2 := by
      rw [Value.rereadEntries_eq_map]
      exact List.forall_mem_map.2 fun e he => (ih e he).isDefinition
    refine ⟨.composite (.fields hkeys' hes), ?_, ?_⟩
    · simp only [Value.reread, Value.rereadEntries, nesting, Tag.ofKey?_name,
        nestingEntries_rereadEntries ih]
    · simp only [Value.reread, Value.rereadEntries, meaning, Tag.ofKey?_name,
        meaningEntries_rereadEntries ih, Shape.rereadLiterals]

/-- A shape without degenerate parts has a document. Read again, it is built into the shape read
again, at every limit that the height of the shape allows. -/
theorem exists_ofShape {s rt : Shape} (htop : s.top = .ok rt) (hwritable : rt.isWritable = true)
    (hstrict : rt.isStrict = true) :
    ∃ document, ofShape host s = .ok document ∧ ∀ limit : Int, rt.height ≤ limit →
      toShape host limit document.reread = .ok (.sealed rt.reread) := by
  have htexts : ∀ fs, Shape.Occurs (.object fs) rt → Value.HasTextKeys fs :=
    fun _ => JsonSchema.hasTextKeys_of_isStrict hstrict
  obtain ⟨document, hdescribe⟩ := exists_describe_iff.2
    ⟨hwritable, @JsonSchema.allNodes_showsKeys_of_hasTextKeys host _ htexts⟩
  have hdocument : ofShape host s = .ok document := by
    rw [ofShape_of_top htop, hdescribe]
    rfl
  refine ⟨document, hdocument, fun limit hheight => ?_⟩
  have hbuild : toShape host limit document = .ok (.sealed rt.withPlainLiterals) :=
    (toShape_ofShape_eq_ok_iff htop hdocument limit _).2 ⟨hstrict, hheight, rfl⟩
  obtain ⟨hdefinition, hnesting, hmeaning⟩ := (toShape_eq_ok_iff document limit _).1 hbuild
  have hreread := hdefinition.rereads
  refine (toShape_eq_ok_iff document.reread limit _).2 ⟨hreread.isDefinition, ?_, ?_⟩
  · rw [hreread.nesting_eq]
    exact hnesting
  · rw [hreread.meaning_eq, ← Shape.sealed.inj hmeaning]

end DataShape.Definition

namespace DataShape.Session

/-- Whatever a run has left in the cache, what is loaded from the text of a shape is the shape read
again, if the text reads as the document it was written for. -/
theorem exists_roundTrip {s : Session} (hs : s.cache = .empty) (ops : List Operation)
    {shape rt : Shape} (htop : shape.top = .ok rt) (hwritable : rt.isWritable = true)
    (hstrict : rt.isStrict = true) (hheight : rt.height ≤ (s.run ops).config.definitionDepthLimit)
    (hreread : ∀ document, Definition.ofShape s.host shape = .ok document →
      ∃ text, Yaml.write s.host document = .ok text ∧
        Yaml.read s.host text = .ok document.reread) :
    ∃ text loaded, Definition.write s.host shape = .ok text ∧
      ((s.run ops).roundTrip shape).result = .ok (text, loaded) ∧
      loaded.shape = .sealed rt.reread := by
  obtain ⟨document, hdocument, hbuild⟩ :=
    @Definition.exists_ofShape s.host _ _ htop hwritable hstrict
  obtain ⟨text, htext, hread⟩ := hreread document hdocument
  have hwrite : Definition.write s.host shape = .ok text := by
    simp only [Definition.write, hdocument, htext]
    rfl
  have hload : ((s.run ops).load text).result.map Loaded.shape = .ok (.sealed rt.reread) := by
    rw [load_run_shape_eq_read hs]
    simp only [Definition.read, hread, hbuild _ hheight]
    rfl
  obtain ⟨loaded, hresult, hloaded⟩ := Except.map_eq_ok.1 hload
  refine ⟨text, loaded, hwrite, ?_, hloaded⟩
  simp only [roundTrip, host_run, hwrite, hresult]

/-- Whatever a run has left in the cache, writing a shape and loading the text gives the shape with
plain literals, what is not a number in them being the reader's own, if the text reads as the
document it was written for. Inside its seal that is an equal shape exactly when neither a tuple
occurs in a literal nor something that is not a number and is not the reader's own. -/
theorem roundTrip_run_shape {s : Session} (hs : s.cache = .empty) (ops : List Operation)
    {shape rt : Shape} (htop : shape.top = .ok rt) (hformed : rt.isWellFormed = true)
    (hwritable : rt.isWritable = true) (hstrict : rt.isStrict = true)
    (hheight : rt.height ≤ (s.run ops).config.definitionDepthLimit)
    (hreread : ∀ document, Definition.ofShape s.host shape = .ok document →
      ∃ text, Yaml.write s.host document = .ok text ∧
        Yaml.read s.host text = .ok document.reread) :
    ∃ text loaded, Definition.write s.host shape = .ok text ∧
      ((s.run ops).roundTrip shape).result = .ok (text, loaded) ∧
      loaded.shape = .sealed rt.reread ∧
      (rt.reread.eq rt = true ↔ rt.hasNoTupleOrMadeNaN = true) := by
  obtain ⟨text, loaded, hwrite, hload, hshape⟩ :=
    exists_roundTrip hs ops htop hwritable hstrict hheight hreread
  exact ⟨text, loaded, hwrite, hload, hshape, Shape.reread_eq_iff hwritable hstrict hformed⟩

/-- A union of a tuple and a NaN in a record, written when a shape is cached already. The tuple comes
back as a list, so the shapes are not equal. -/
theorem roundTrip_run_shape_tuple_or_nan :
    let rt (form : ArrayForm) (which : NotANumber) : Shape := .object [(.ofString "at",
      .union [.literal (.array form [.int 1]), .literal (.float (.nan which))])]
    let document (which : NotANumber) : Value := Definition.tagged .object (.object .plain
      [(.ofString "at", Definition.tagged .union (.list
        [Definition.tagged .literal (.list [.int 1]),
          Definition.tagged .literal (.float (.nan which))]))])
    let text : Text :=
      "object:\n  at:\n    union:\n    - literal:\n      - 1\n    - literal: .nan\n"
    let session := (start .shallow).run [.load "array: string"]
    Definition.ofShape .shallow (rt .tuple (.made 7)) = .ok (document (.made 7)) ∧
      Yaml.write .shallow (document (.made 7)) = .ok text ∧
      Yaml.read .shallow text = .ok (document .word) ∧
      (∃ loaded, (session.roundTrip (rt .tuple (.made 7))).result = .ok (text, loaded) ∧
        loaded.shape = .sealed (rt .list .word)) ∧
      (rt .list .word).eq (rt .tuple (.made 7)) = false := by
  intro rt document text session
  have hdocument : Definition.ofShape .shallow (rt .tuple (.made 7)) = .ok (document (.made 7)) :=
    rfl
  have htext : Yaml.write .shallow (document (.made 7)) = .ok text := by decide +kernel
  have hread : Yaml.read .shallow text = .ok (document .word) := by decide +kernel
  have hreread : ∀ d, Definition.ofShape .shallow (rt .tuple (.made 7)) = .ok d →
      ∃ t, Yaml.write .shallow d = .ok t ∧ Yaml.read .shallow t = .ok d.reread := by
    intro d hd
    rw [hdocument] at hd
    obtain rfl := Except.ok.inj hd
    exact ⟨text, htext, hread⟩
  have hstart : (start .shallow).cache = .empty := rfl
  have htop : (rt .tuple (.made 7)).top = .ok (rt .tuple (.made 7)) := rfl
  obtain ⟨t, loaded, hwrite, hload, hshape, hequal⟩ := roundTrip_run_shape hstart
    [.load "array: string"] htop rfl rfl rfl (by decide +kernel) hreread
  have ht : t = text := by
    change Definition.write .shallow _ = _ at hwrite
    simp only [Definition.write, hdocument, htext] at hwrite
    exact (Except.ok.inj hwrite).symm
  rw [ht] at hload
  refine ⟨hdocument, htext, hread, ⟨loaded, hload, hshape⟩, ?_⟩
  exact Bool.eq_false_iff.2 fun h => absurd (hequal.1 h) (by decide)

/-- What the reader gives for what is not a number is equal to itself when it is read again. And
what is loaded is sealed, so it is not equal to a bare shape, also where no literal occurs. -/
theorem not_roundTrip_equal_iff_no_tuple_or_nan :
    let word : Value := .float (.nan .word)
    let fresh := start .shallow
    (word.isNaN = true ∧ ∃ text loaded,
      (fresh.roundTrip (.literal word)).result = .ok (text, loaded) ∧
        loaded.shape = .sealed (.literal word) ∧
        (Shape.literal word).eq (.literal word) = true) ∧
      ∃ text loaded, (fresh.roundTrip .null).result = .ok (text, loaded) ∧
        loaded.shape.eq .null = false := by
  intro word fresh
  have hstart : fresh.cache = .empty := rfl
  constructor
  · refine ⟨rfl, ?_⟩
    have htop : (Shape.literal word).top = .ok (.literal word) := rfl
    have hreread : ∀ d, Definition.ofShape .shallow (.literal word) = .ok d →
        ∃ t, Yaml.write .shallow d = .ok t ∧ Yaml.read .shallow t = .ok d.reread := by
      rintro _ ⟨⟩
      exact ⟨"literal: .nan\n", by decide +kernel, by decide +kernel⟩
    obtain ⟨text, loaded, -, hload, hshape⟩ :=
      exists_roundTrip hstart [] htop rfl rfl (by decide +kernel) hreread
    exact ⟨text, loaded, hload, hshape, rfl⟩
  · have htop : Shape.null.top = .ok .null := rfl
    have hreread : ∀ d, Definition.ofShape .shallow .null = .ok d →
        ∃ t, Yaml.write .shallow d = .ok t ∧ Yaml.read .shallow t = .ok d.reread := by
      rintro _ ⟨⟩
      exact ⟨"'null'\n", by decide +kernel, by decide +kernel⟩
    obtain ⟨text, loaded, -, hload, hshape⟩ :=
      exists_roundTrip hstart [] htop rfl rfl (by decide +kernel) hreread
    exact ⟨text, loaded, hload, by rw [hshape]; rfl⟩

end DataShape.Session
