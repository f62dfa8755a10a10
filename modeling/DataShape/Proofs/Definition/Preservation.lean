-- SUMMARY: Writing a shape as a document and building it again keeps the verdict on every value.
import DataShape.Proofs.Definition.WellBuilt
import DataShape.Proofs.Value.PlainForm

/-!
# Preservation

What comes back from a document has plain literals where the shape held tuples
or read-only mappings. A literal is compared as JSON, which does not see the
form of a container, and every other form of a shape only passes on what its
parts say. So no value is told apart by the two shapes.
-/

namespace DataShape.Shape

theorem withPlainLiteralsList_eq_map (ss : List Shape) :
    withPlainLiteralsList ss = ss.map withPlainLiterals := by
  induction ss with
  | nil => rfl
  | cons s ss ih => rw [withPlainLiteralsList, ih, List.map_cons]

theorem withPlainLiteralsFields_eq_map (fs : List (Value × Shape)) :
    withPlainLiteralsFields fs = fs.map fun f => (f.1, f.2.withPlainLiterals) := by
  induction fs with
  | nil => rfl
  | cons f fs ih => rw [withPlainLiteralsFields, ih, List.map_cons]

/-! ## Lists of parts -/

section
variable {g : Shape → Shape} {ss : List Shape}

theorem conformsEach_map (h : ∀ s ∈ ss, ∀ v, (g s).conforms v = s.conforms v)
    (vs : List Value) : conformsEach (ss.map g) vs = conformsEach ss vs := by
  induction ss generalizing vs with
  | nil => rfl
  | cons s ss ih =>
    obtain ⟨hs, hss⟩ := List.forall_mem_cons.1 h
    cases vs with
    | nil => rfl
    | cons v vs => simp only [List.map_cons, conformsEach, hs v, ih hss vs]

theorem conformsSome_map (h : ∀ s ∈ ss, ∀ v, (g s).conforms v = s.conforms v) (v : Value) :
    conformsSome (ss.map g) v = conformsSome ss v := by
  induction ss with
  | nil => rfl
  | cons s ss ih =>
    obtain ⟨hs, hss⟩ := List.forall_mem_cons.1 h
    simp only [List.map_cons, conformsSome, hs v, ih hss]

theorem conformsFields_map {fs : List (Value × Shape)}
    (h : ∀ f ∈ fs, ∀ v, (g f.2).conforms v = f.2.conforms v) (entries : List (Value × Value)) :
    conformsFields (fs.map fun f => (f.1, g f.2)) entries = conformsFields fs entries := by
  induction fs with
  | nil => rfl
  | cons f fs ih =>
    obtain ⟨hf, hfs⟩ := List.forall_mem_cons.1 h
    simp only [List.map_cons, conformsFields, hf, ih hfs]

end

/-! ## Whole trees -/

/-- Whatever stands in a tree, plain literals change no outcome of the walk. -/
theorem conforms_withPlainLiterals (s : Shape) :
    ∀ v, s.withPlainLiterals.conforms v = s.conforms v := by
  induction s using inductionOnParts with
  | literal x =>
    intro v
    rw [withPlainLiterals, conforms, conforms, Value.jsonEq_plain]
  | optional s ih =>
    intro v
    cases v with
    | absent => rfl
    | _ => exact ih _
  | array s ih =>
    intro v
    cases v with
    | array form items =>
      have htest : s.withPlainLiterals.conforms = s.conforms := funext ih
      rw [withPlainLiterals, conforms, conforms, htest]
    | _ => rfl
  | tuple ss ih =>
    intro v
    rw [withPlainLiterals, withPlainLiteralsList_eq_map]
    cases v with
    | array form items => simp only [conforms, List.length_map, conformsEach_map ih]
    | _ => rfl
  | union ss ih =>
    intro v
    rw [withPlainLiterals, withPlainLiteralsList_eq_map]
    exact conformsSome_map ih v
  | object fs ih =>
    intro v
    rw [withPlainLiterals, withPlainLiteralsFields_eq_map]
    cases v with
    | object form entries => exact conformsFields_map ih entries
    | _ => rfl
  | _ =>
    intro v
    rfl

end DataShape.Shape

namespace DataShape.Definition

variable {host : Host}

/-- What is built from the document of a shape. -/
theorem eq_of_toShape_ofShape {s rt t : Shape} {document : Value} {limit : Int}
    (htop : s.top = .ok rt) (hs : ofShape host s = .ok document)
    (ht : toShape host limit document = .ok t) : t = .sealed rt.withPlainLiterals := by
  exact ((toShape_ofShape_eq_ok_iff htop hs limit t).1 ht).2.2

/-- A shape and what is built from its document give one verdict on every value, and neither
fails. -/
theorem isValid_toShape_ofShape {s t : Shape} {document : Value} {limit : Int}
    (hs : ofShape host s = .ok document) (ht : toShape host limit document = .ok t) (v : Value) :
    ∃ b, t.isValid host v = .ok b ∧ s.isValid host v = .ok b := by
  obtain ⟨rt, htop, -⟩ := Except.bind_eq_ok.1 (raising_eq_ok_iff.1 hs)
  obtain ⟨hdocument, -, rfl⟩ := (toShape_eq_ok_iff document limit t).1 ht
  have hbuilt := hdocument.wellBuilt
  obtain ⟨b, hb, -⟩ := Shape.conforms_decides _ (Shape.isProper_of_allLiterals hbuilt.plain) v
  have hmeaning : meaning document = rt.withPlainLiterals :=
    Shape.sealed.inj (eq_of_toShape_ofShape htop hs ht)
  have hrt : rt.conforms v = .ok b := by
    rw [← Shape.conforms_withPlainLiterals, ← hmeaning]
    exact hb
  exact ⟨b, Shape.isValid_eq_ok rfl hb, Shape.isValid_eq_ok htop hrt⟩

/-- A union of a pair in a read-only mapping and a number that is not a number. The pair is written
as a list in a plain mapping and still accepts the tuple; the number still accepts nothing. -/
theorem isValid_toShape_ofShape_pair_or_nan :
    let point (form : ArrayForm) (form' : ObjectForm) : Value :=
      .object form' [(.str "at", .array form [.int 1])]
    let s : Shape := .union [.literal (point .tuple .readOnly), .literal (.float (.nan .word))]
    let document : Value := tagged .union (.list
      [tagged .literal (point .list .plain), tagged .literal (.float (.nan .word))])
    let t : Shape := .sealed
      (.union [.literal (point .list .plain), .literal (.float (.nan .word))])
    ofShape .shallow s = .ok document ∧ toShape .shallow 2 document = .ok t ∧
      t.isValid .shallow (point .tuple .plain) = .ok true ∧
      t.isValid .shallow (.float (.nan .word)) = .ok false ∧
      t.isValid .shallow (.float (.nan .word)) = s.isValid .shallow (.float (.nan .word)) := by
  intro point s document t
  have hs : ofShape .shallow s = .ok document := rfl
  have ht : toShape .shallow 2 document = .ok t := rfl
  obtain ⟨b, hb, hb'⟩ := isValid_toShape_ofShape hs ht (.float (.nan .word))
  exact ⟨hs, ht, rfl, rfl, hb.trans hb'.symm⟩

end DataShape.Definition
