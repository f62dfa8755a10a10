-- SUMMARY: Reading back what describing a shape writes: which documents are taken, at which limits, and what comes out.
import DataShape.Definition.Build
import DataShape.Definition.Describe
import DataShape.Proofs.Value.Plain

/-!
# Describing and building

A shape is described as it is, while a document is read strictly. The document
of a shape is read back at a limit exactly when the shape has no degenerate
part and is not higher than the limit, and what comes back is the shape with
the plain form of each literal.
-/

namespace DataShape.Shape

mutual

/-- Whether tuples have an element, unions two members, and fields texts for keys. -/
def isStrict : Shape → Bool
  | .optional s => isStrict s
  | .array s => isStrict s
  | .tuple ss => 1 ≤ ss.length && isStrictList ss
  | .union ss => 2 ≤ ss.length && isStrictList ss
  | .object fs => isStrictFields fs
  | _ => true
termination_by structural s => s

def isStrictList : List Shape → Bool
  | [] => true
  | s :: ss => isStrict s && isStrictList ss
termination_by structural ss => ss

def isStrictFields : List (Value × Shape) → Bool
  | [] => true
  | (key, s) :: fs => key.kind? = some .string && isStrict s && isStrictFields fs
termination_by structural fs => fs

end

theorem isStrictList_iff {ss : List Shape} :
    isStrictList ss = true ↔ ∀ s ∈ ss, s.isStrict = true := by
  induction ss with
  | nil => simp [isStrictList]
  | cons s ss ih => simp [isStrictList, ih]

theorem isStrictFields_iff {fs : List (Value × Shape)} :
    isStrictFields fs = true ↔
      ∀ f ∈ fs, f.1.kind? = some .string ∧ f.2.isStrict = true := by
  induction fs with
  | nil => simp [isStrictFields]
  | cons f fs ih =>
    simp only [isStrictFields, Bool.and_eq_true, decide_eq_true_eq, ih, List.forall_mem_cons]

mutual

/-- The shape with the plain form of the value of each literal. -/
def withPlainLiterals : Shape → Shape
  | .literal v => .literal v.plain
  | .optional s => .optional (withPlainLiterals s)
  | .array s => .array (withPlainLiterals s)
  | .tuple ss => .tuple (withPlainLiteralsList ss)
  | .union ss => .union (withPlainLiteralsList ss)
  | .object fs => .object (withPlainLiteralsFields fs)
  | s => s
termination_by structural s => s

def withPlainLiteralsList : List Shape → List Shape
  | [] => []
  | s :: ss => withPlainLiterals s :: withPlainLiteralsList ss
termination_by structural ss => ss

def withPlainLiteralsFields : List (Value × Shape) → List (Value × Shape)
  | [] => []
  | (key, s) :: fs => (key, withPlainLiterals s) :: withPlainLiteralsFields fs
termination_by structural fs => fs

end

theorem height_pos (s : Shape) : 0 < s.height := by
  cases s <;> simp [height]

end DataShape.Shape

namespace DataShape.Definition

variable {host : Host}

/-! ## Building from a tagged payload -/

@[simp] theorem Tag.ofKey?_name (tag : Tag) : Tag.ofKey? (.str tag.name) = some tag := by
  cases tag <;> decide

@[simp] theorem Primitive.ofName?_name (p : Primitive) : Primitive.ofName? p.name = some p := by
  cases p <;> decide

theorem build_of_lt {limit : Int} {depth : Nat} (h : limit < depth) (document : Value)
    (path : Pointer) : build limit document path depth = .error ⟨.tooDeep limit, some path⟩ := by
  rw [build.eq_def, if_pos h]

section
variable {limit : Int} {depth : Nat} (h : depth ≤ limit) (payload : Value) (path : Pointer)
include h

theorem build_primitive (p : Primitive) :
    build limit (.str p.name) path depth = .ok p.shape := by
  rw [build.eq_def, if_neg (by omega)]
  simp only [Primitive.ofName?_name]

theorem build_literal :
    build limit (tagged .literal payload) path depth =
      (payload.toPlain (path.child Tag.literal.name)).map .literal := by
  rw [build.eq_def, if_neg (by omega)]
  simp only [tagged, Tag.ofKey?_name, Value.display]

theorem build_optional :
    build limit (tagged .optional payload) path depth =
      (build limit payload (path.child Tag.optional.name) (depth + 1)).map .optional := by
  rw [build.eq_def, if_neg (by omega)]
  simp only [tagged, Tag.ofKey?_name, Value.display]

theorem build_array :
    build limit (tagged .array payload) path depth =
      (build limit payload (path.child Tag.array.name) (depth + 1)).map .array := by
  rw [build.eq_def, if_neg (by omega)]
  simp only [tagged, Tag.ofKey?_name, Value.display]

theorem build_tuple (items : List Value) :
    build limit (tagged .tuple (.list items)) path depth =
      if items.length < 1 then .error ⟨.emptyTuple, some (path.child Tag.tuple.name)⟩
      else (buildList limit items (path.child Tag.tuple.name) 0 (depth + 1)).map .tuple := by
  rw [build.eq_def, if_neg (by omega)]
  cases items with
  | nil => simp only [tagged, Tag.ofKey?_name, Value.display, Value.list]; rfl
  | cons v vs => simp only [tagged, Tag.ofKey?_name, Value.display, Value.list]; rfl

theorem build_union (items : List Value) :
    build limit (tagged .union (.list items)) path depth =
      if items.length < 2 then .error ⟨.smallUnion, some (path.child Tag.union.name)⟩
      else (buildList limit items (path.child Tag.union.name) 0 (depth + 1)).map .union := by
  rw [build.eq_def, if_neg (by omega)]
  match items with
  | [] => simp only [tagged, Tag.ofKey?_name, Value.display, Value.list]; rfl
  | [_] => simp only [tagged, Tag.ofKey?_name, Value.display, Value.list]; rfl
  | _ :: _ :: _ =>
    rw [if_neg (by simp only [List.length_cons]; omega)]
    simp only [tagged, Tag.ofKey?_name, Value.display, Value.list]

theorem build_object (fields : List (Value × Value)) :
    build limit (tagged .object (.object .plain fields)) path depth =
      (buildFields limit fields (path.child Tag.object.name) (depth + 1)).map .object := by
  rw [build.eq_def, if_neg (by omega)]
  simp only [tagged, Tag.ofKey?_name, Value.display]

end

/-! ## Building from a described shape

The limit is stated against the depth of the first definition and the height of
the shape together, so that one induction counts the levels on the way down. -/

theorem describeList_length {ss : List Shape} {vs : List Value} {path : Pointer} {i : Nat}
    (h : describeList host ss path i = .ok vs) : vs.length = ss.length := by
  induction ss generalizing vs i with
  | nil => cases h; rfl
  | cons s ss ih =>
    obtain ⟨v, -, h⟩ := Except.bind_eq_ok.1 h
    obtain ⟨ws, hws, h⟩ := Except.bind_eq_ok.1 h
    cases h
    rw [List.length_cons, List.length_cons, ih hws]

theorem build_primitive_eq_ok_iff {limit : Int} {depth : Nat} (h : depth ≤ limit)
    (path : Pointer) (p : Primitive) (t : Shape) :
    build limit (.str p.name) path depth = .ok t ↔
      p.shape.isStrict = true ∧ depth + p.shape.height ≤ limit + 1 ∧
        t = p.shape.withPlainLiterals := by
  rw [build_primitive h]
  cases p <;>
    simp [Shape.isStrict, Shape.height, Shape.withPlainLiterals, Primitive.shape, h, eq_comm]

/-- A part is read one level further down, and the whole is one higher than it. -/
theorem map_eq_ok_iff {α : Type} {r : Except SchemaFault α} {f : α → Shape} {p : Prop}
    {height depth : Nat} {limit : Int} {a : α}
    (h : ∀ b, r = .ok b ↔ p ∧ (depth + 1 : Nat) + height ≤ limit + 1 ∧ b = a) (t : Shape) :
    r.map f = .ok t ↔ p ∧ depth + (height + 1 : Nat) ≤ limit + 1 ∧ t = f a := by
  simp only [Except.map_eq_ok, h]
  constructor
  · rintro ⟨_, ⟨hp, hheight, rfl⟩, rfl⟩
    exact ⟨hp, by omega, rfl⟩
  · rintro ⟨hp, hheight, rfl⟩
    exact ⟨_, ⟨hp, by omega, rfl⟩, rfl⟩

mutual

theorem build_describe {s : Shape} {document : Value} {path : Pointer}
    (hs : describe host s path = .ok document) (limit : Int) (path' : Pointer) (depth : Nat)
    (t : Shape) :
    build limit document path' depth = .ok t ↔
      s.isStrict = true ∧ depth + s.height ≤ limit + 1 ∧ t = s.withPlainLiterals := by
  by_cases hdepth : limit < depth
  · have hpos := s.height_pos
    rw [build_of_lt hdepth]
    constructor
    · intro h; cases h
    · rintro ⟨-, h, -⟩; omega
  have hle : depth ≤ limit := by omega
  have hnext : (depth + 1 : Nat) ≤ limit + 1 := by omega
  cases s with
  | null => cases hs; exact build_primitive_eq_ok_iff hle path' .null t
  | boolean => cases hs; exact build_primitive_eq_ok_iff hle path' .boolean t
  | number => cases hs; exact build_primitive_eq_ok_iff hle path' .number t
  | string => cases hs; exact build_primitive_eq_ok_iff hle path' .string t
  | literal v =>
    obtain ⟨w, hw, rfl⟩ := Except.map_eq_ok.1 hs
    obtain ⟨hjson, rfl⟩ := (Value.toPlain_eq_ok_iff ..).1 hw
    have hagain := (Value.toPlain_eq_ok_iff v.plain v.plain
      (path'.child Tag.literal.name)).2 ⟨by rw [Value.isJson_plain, hjson], by simp⟩
    rw [build_literal hle, hagain]
    simp [Shape.isStrict, Shape.height, Shape.withPlainLiterals, Except.map, hle, eq_comm]
  | optional s =>
    obtain ⟨w, hw, rfl⟩ := Except.map_eq_ok.1 hs
    rw [build_optional hle]
    exact map_eq_ok_iff (build_describe hw limit _ (depth + 1)) t
  | array s =>
    obtain ⟨w, hw, rfl⟩ := Except.map_eq_ok.1 hs
    rw [build_array hle]
    exact map_eq_ok_iff (build_describe hw limit _ (depth + 1)) t
  | tuple ss =>
    obtain ⟨vs, hvs, rfl⟩ := Except.map_eq_ok.1 hs
    rw [build_tuple hle, describeList_length hvs]
    by_cases hlen : ss.length < 1
    · simp [hlen, Shape.isStrict, show ¬ 1 ≤ ss.length by omega]
    · rw [if_neg hlen, map_eq_ok_iff (buildList_describeList hvs hnext _ 0) t]
      simp [Shape.isStrict, Shape.height, Shape.withPlainLiterals, Nat.le_of_not_lt hlen]
  | union ss =>
    obtain ⟨vs, hvs, rfl⟩ := Except.map_eq_ok.1 hs
    rw [build_union hle, describeList_length hvs]
    by_cases hlen : ss.length < 2
    · simp [hlen, Shape.isStrict, show ¬ 2 ≤ ss.length by omega]
    · rw [if_neg hlen, map_eq_ok_iff (buildList_describeList hvs hnext _ 0) t]
      simp [Shape.isStrict, Shape.height, Shape.withPlainLiterals, Nat.le_of_not_lt hlen]
  | object fs =>
    obtain ⟨es, hes, rfl⟩ := Except.map_eq_ok.1 hs
    rw [build_object hle]
    exact map_eq_ok_iff (buildFields_describeFields hes hnext _) t
  | foreign v => cases hs
  | sealed s => cases hs
termination_by structural s

theorem buildList_describeList {ss : List Shape} {vs : List Value} {path : Pointer} {i : Nat}
    (hss : describeList host ss path i = .ok vs) {limit : Int} {depth : Nat}
    (hdepth : depth ≤ limit + 1) (path' : Pointer) (j : Nat) (ts : List Shape) :
    buildList limit vs path' j depth = .ok ts ↔
      Shape.isStrictList ss = true ∧ depth + Shape.heightList ss ≤ limit + 1 ∧
        ts = Shape.withPlainLiteralsList ss := by
  cases ss with
  | nil =>
    cases hss
    simp [buildList, Shape.isStrictList, Shape.heightList, Shape.withPlainLiteralsList, hdepth,
      eq_comm]
  | cons s ss =>
    obtain ⟨v, hv, hss⟩ := Except.bind_eq_ok.1 hss
    obtain ⟨vs, hvs, hss⟩ := Except.bind_eq_ok.1 hss
    cases hss
    simp only [buildList, Except.bind_eq_ok, build_describe hv,
      buildList_describeList hvs hdepth, Shape.isStrictList, Shape.heightList,
      Shape.withPlainLiteralsList, Bool.and_eq_true]
    constructor
    · rintro ⟨_, ⟨hs, hheight, rfl⟩, _, ⟨hss, hheights, rfl⟩, h⟩
      cases h
      exact ⟨⟨hs, hss⟩, by omega, rfl⟩
    · rintro ⟨⟨hs, hss⟩, hheight, rfl⟩
      exact ⟨_, ⟨hs, by omega, rfl⟩, _, ⟨hss, by omega, rfl⟩, rfl⟩
termination_by structural ss

theorem buildFields_describeFields {fs : List (Value × Shape)} {es : List (Value × Value)}
    {path : Pointer} (hfs : describeFields host fs path = .ok es) {limit : Int} {depth : Nat}
    (hdepth : depth ≤ limit + 1) (path' : Pointer) (gs : List (Value × Shape)) :
    buildFields limit es path' depth = .ok gs ↔
      Shape.isStrictFields fs = true ∧ depth + Shape.heightFields fs ≤ limit + 1 ∧
        gs = Shape.withPlainLiteralsFields fs := by
  cases fs with
  | nil =>
    cases hfs
    simp [buildFields, Shape.isStrictFields, Shape.heightFields, Shape.withPlainLiteralsFields,
      hdepth, eq_comm]
  | cons f fs =>
    obtain ⟨key, s⟩ := f
    obtain ⟨here, -, hfs⟩ := Except.bind_eq_ok.1 hfs
    obtain ⟨v, hv, hfs⟩ := Except.bind_eq_ok.1 hfs
    obtain ⟨es, hes, hfs⟩ := Except.bind_eq_ok.1 hfs
    cases hfs
    by_cases hkey : key.kind? = some .string
    · obtain ⟨t, rfl⟩ := Value.kind?_eq_string_iff.1 hkey
      simp only [buildFields, Except.bind_eq_ok, build_describe hv,
        buildFields_describeFields hes hdepth, Shape.isStrictFields, Shape.heightFields,
        Shape.withPlainLiteralsFields, Bool.and_eq_true, hkey, decide_true, true_and]
      constructor
      · rintro ⟨_, ⟨hs, hheight, rfl⟩, _, ⟨hfs, hheights, rfl⟩, h⟩
        cases h
        exact ⟨⟨hs, hfs⟩, by omega, rfl⟩
      · rintro ⟨⟨hs, hfs⟩, hheight, rfl⟩
        exact ⟨_, ⟨hs, by omega, rfl⟩, _, ⟨hfs, by omega, rfl⟩, rfl⟩
    · have hfault : buildFields limit ((key, v) :: es) path' depth =
          .error ⟨.fieldNameNotText key, some path'⟩ := by
        cases key with
        | str t => exact absurd rfl hkey
        | _ => rfl
      simp [hfault, Shape.isStrictFields, hkey]
termination_by structural fs

end

theorem ofShape_of_top {s node : Shape} (hnode : s.top = .ok node) :
    ofShape host s = raising host (describe host node .root) := by
  rw [ofShape, hnode]
  rfl

/-- The document of a shape is read back at exactly the limits that its height allows, if the
shape has no degenerate part, and gives the shape with plain literals. -/
theorem toShape_ofShape_eq_ok_iff {s rt : Shape} {document : Value} (hrt : s.top = .ok rt)
    (hs : ofShape host s = .ok document) (limit : Int) (t : Shape) :
    toShape host limit document = .ok t ↔
      rt.isStrict = true ∧ rt.height ≤ limit ∧ t = .sealed rt.withPlainLiterals := by
  have hdescribe : describe host rt .root = .ok document := by
    rwa [ofShape_of_top hrt, raising_eq_ok_iff] at hs
  simp only [toShape, raising_eq_ok_iff, Except.map_eq_ok, build_describe hdescribe]
  constructor
  · rintro ⟨_, ⟨hstrict, hheight, rfl⟩, rfl⟩
    exact ⟨hstrict, by omega, rfl⟩
  · rintro ⟨hstrict, hheight, rfl⟩
    exact ⟨_, ⟨hstrict, by omega, rfl⟩, rfl⟩

/-- An optional pair in a record, with a tuple for a literal, at the lowest limit. -/
theorem toShape_ofShape_pair :
    let pair (form : ArrayForm) : Shape :=
      .object [(.str "at", .optional (.tuple [.literal (.array form [.int 1]), .number]))]
    let document : Value := tagged .object (.object .plain [(.str "at", tagged .optional
      (tagged .tuple (.list [tagged .literal (.list [.int 1]), .str "number"])))])
    (pair .tuple).top = .ok (pair .tuple) ∧ ofShape .shallow (pair .tuple) = .ok document ∧
      toShape .shallow 4 document = .ok (.sealed (pair .list)) ∧
      ∀ t, toShape .shallow 3 document ≠ .ok t := by
  intro pair document
  have htop : (pair .tuple).top = .ok (pair .tuple) := rfl
  have hdocument : ofShape .shallow (pair .tuple) = .ok document := rfl
  have hround := toShape_ofShape_eq_ok_iff htop hdocument
  refine ⟨htop, hdocument, (hround 4 _).2 ⟨by decide, by decide, rfl⟩, fun t ht => ?_⟩
  exact absurd ((hround 3 t).1 ht).2.1 (by decide)

end DataShape.Definition
