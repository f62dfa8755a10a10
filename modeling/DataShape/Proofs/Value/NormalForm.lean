-- SUMMARY: The conversion to plain values gives a normal form that JSON equality does not see, and tells where there is none.
import DataShape.Proofs.Definition.Places
import DataShape.Proofs.Value.PlainForm
import DataShape.Proofs.Value.Within

/-!
# Normal forms

Plain values are normal forms of the values that JSON can write: converting one
again changes nothing. The conversion goes by forms of containers only, so that
all else stays where it was, and JSON equality, which does not look at those
forms, cannot tell the two apart on either side. Where there is no plain form,
the fault points at a value that stands in the way by itself, unless the host
cannot show the key that it is about.
-/

namespace DataShape.Value

variable {host : Host}

/-! ## What stays -/

/-- Whether two values differ in the forms of their containers only: items in step, the same keys in
the same order, and the same scalars. -/
inductive SameOutline : Value → Value → Prop
  | scalar {v : Value} (h : v.IsScalar) : SameOutline v v
  | array {form form' : ArrayForm} {vs ws : List Value} (h : List.Forall₂ SameOutline vs ws) :
      SameOutline (.array form vs) (.array form' ws)
  | object {form form' : ObjectForm} {es fs : List (Value × Value)}
      (hkeys : es.map (·.1) = fs.map (·.1))
      (h : List.Forall₂ SameOutline (es.map (·.2)) (fs.map (·.2))) :
      SameOutline (.object form es) (.object form' fs)

theorem plain_scalar {v : Value} (hv : v.IsScalar) : v.plain = v := by
  cases v with
  | array form vs => exact absurd rfl hv.1
  | object form es => exact absurd rfl hv.2
  | _ => rfl

theorem sameOutline_plain (v : Value) : SameOutline v v.plain := by
  induction v using inductionOnData with
  | array form vs ih =>
    rw [plain, plainList_eq_map]
    refine .array ?_
    rw [List.forall₂_map_right_iff, List.forall₂_same]
    exact ih
  | object form es ih =>
    rw [plain, plainEntries_eq_map]
    refine .object ?_ ?_
    · rw [List.map_map]
      rfl
    · rw [List.map_map, List.forall₂_map_left_iff, List.forall₂_map_right_iff, List.forall₂_same]
      exact ih
  | scalar v hv =>
    rw [plain_scalar hv]
    exact .scalar hv

/-! ## What equality sees -/

/-- JSON equality does not tell the plain form on the left from the value either. -/
theorem plain_jsonEqual_iff (v : Value) : ∀ w, JsonEqual v.plain w ↔ JsonEqual v w := by
  induction v using inductionOnData with
  | array form vs ih =>
    intro w
    rw [plain, plainList_eq_map, jsonEq_array_iff, jsonEq_array_iff]
    refine exists_congr fun ws => and_congr_right fun _ => ?_
    rw [List.forall₂_map_left_iff, List.forall₂_iff_zip, List.forall₂_iff_zip]
    refine and_congr_right fun _ => forall₂_congr fun v w => imp_congr_right fun hmem => ?_
    exact ih v (List.of_mem_zip hmem).1 w
  | object form es ih =>
    intro w
    rw [plain, plainEntries_eq_map, jsonEq_object_iff, jsonEq_object_iff]
    refine exists_congr fun fs => and_congr_right fun _ => ?_
    rw [MatchEntries, MatchEntries, List.length_map, List.forall_mem_map]
    refine and_congr_right fun _ => forall₂_congr fun e he => ?_
    exact exists_congr fun w => and_congr_right fun _ => ih e he w
  | scalar v hv =>
    intro w
    rw [plain_scalar hv]

/-! ## Where there is no plain form -/

/-- Whether a value has no plain form by itself, and the problem with it: it has no kind, or it is
an object with a key that is no text. -/
def LacksForm (v : Value) (problem : SchemaProblem) : Prop :=
  (v.kind? = none ∧ problem = .noJsonForm v) ∨
    ∃ form es, v = .object form es ∧ ∃ e ∈ es, ¬ e.1.IsText ∧ problem = .keyNotText e.1

theorem lacksForm_of_breaks {limit : Int} {v : Value} {problem : SchemaProblem}
    (h : Definition.Breaks limit .data v problem) : v.LacksForm problem := by
  cases h with
  | noJsonForm hkind => exact .inl ⟨hkind, rfl⟩
  | keyNotText he hkey => exact .inr ⟨_, _, rfl, _, he, hkey, rfl⟩

/-- All that stands in data is data. -/
theorem foldl_part_data (tokens : List Text) : tokens.foldl Definition.Role.part .data = .data :=
  List.foldl_fixed' (fun _ => rfl) tokens

theorem exists_lacksForm_of_toPlain {v : Value} (hv : WellFormed v) {path : Pointer}
    {f : SchemaFault} (h : v.toPlain path = .error f) :
    ∃ (p : Pointer) (tokens : List Text) (w : Value), f.path = some (path ++ p) ∧
      p.tokens? = some tokens ∧ v.resolve? tokens = some w ∧ w.LacksForm f.problem := by
  -- the bound on depth plays no part in data
  have hblames : Definition.Blames 0 .data v path f := Definition.toPlain_blames v hv path f h
  obtain ⟨tokens, w, hpath, hw, hbreaks⟩ := hblames
  rw [foldl_part_data] at hbreaks
  exact ⟨_, tokens, w, hpath, Pointer.tokens?_ofTokens tokens, hw, lacksForm_of_breaks hbreaks⟩

/-- The conversion succeeds where all that stands in a value has a kind and all keys are texts. What
it gives is plain, stays as it is under the conversion, differs from the value in the forms of
containers only, and equals whatever the value equals, on either side. Where it fails, the pointer
leads to what has no plain form by itself, or there is a key that is no text and cannot be shown. -/
theorem toJson_normalizes {v : Value} (hv : WellFormed v) (path : Pointer) :
    ((∃ j, v.toJson host path = .ok j) ↔ v.AllWithin HasKind ∧ v.AllWithin (KeysAre IsText)) ∧
      (∀ j, v.toJson host path = .ok j → (∀ path', j.toJson host path' = .ok j) ∧
        j.isPlain = true ∧ SameOutline v j ∧
          ∀ w, w.jsonEq j = w.jsonEq v ∧ j.jsonEq w = v.jsonEq w) ∧
      (∀ f, v.toJson host path = .error (.schema f) →
        ∃ (p : Pointer) (tokens : List Text) (w : Value), f.path = some (path ++ p) ∧
          p.tokens? = some tokens ∧ v.resolve? tokens = some w ∧ w.LacksForm f.problem) ∧
      ∀ why, v.toJson host path = .error (.unshowable why) →
        ∃ (tokens : List Text) (form : ObjectForm) (es : List (Value × Value)),
          v.resolve? tokens = some (.object form es) ∧
            ∃ e ∈ es, ¬ e.1.IsText ∧ e.1.showFault? host.showing = some why := by
  refine ⟨?_, fun j hj => ?_, fun f hf => ?_, fun why hwhy => ?_⟩
  · simp only [toJson, raising_eq_ok_iff, toPlain_eq_ok_iff, ← isJson_iff_allWithin]
    simp
  · obtain ⟨hjson, rfl⟩ := (toPlain_eq_ok_iff v j path).1 (raising_eq_ok_iff.1 hj)
    have hplain := isPlain_plain hjson
    refine ⟨fun path' => raising_eq_ok_iff.2 ((toPlain_eq_self_iff _ path').2 hplain), hplain,
      sameOutline_plain v, ?_⟩
    exact fun w => ⟨jsonEq_plain w v, Bool.eq_iff_iff.2 (plain_jsonEqual_iff v w)⟩
  · exact exists_lacksForm_of_toPlain hv (raising_eq_schema_iff.1 hf).1
  · obtain ⟨f, hf, hshow⟩ := raising_eq_unshowable_iff.1 hwhy
    obtain ⟨_, tokens, w, -, -, hw, hlacks⟩ := exists_lacksForm_of_toPlain hv hf
    obtain ⟨-, hproblem⟩ | ⟨form, es, rfl, e, he, hkey, hproblem⟩ := hlacks
    · rw [hproblem] at hshow
      cases hshow
    · rw [hproblem] at hshow
      exact ⟨tokens, form, es, hw, e, he, hkey, hshow⟩

/-- A record in other containers with a number in it that equals nothing, and a list with the same
record in it before a key that is no text. -/
theorem toJson_normalizes_record :
    let v : Value := .object .readOnly
      [(.str "b", .array .tuple [.float (.nan .word), .bool true]),
        (.str "a", .object .readOnly [])]
    let j : Value := .object .plain
      [(.str "b", .list [.float (.nan .word), .bool true]), (.str "a", .object .plain [])]
    let u : Value := .object .plain [(.str "a/b", .list [v, .object .readOnly [(.int 1, v)]])]
    WellFormed v ∧ v.toJson .shallow "/in" = .ok j ∧ j.toJson .shallow "/out" = .ok j ∧
      SameOutline v j ∧ (∀ w : Value, w.jsonEq j = w.jsonEq v) ∧ v.jsonEq j = false ∧
      WellFormed u ∧
      u.toJson .shallow "/in" = .error (.schema ⟨.keyNotText (.int 1), some "/in/a~1b/1"⟩) ∧
      ∃ (p : Pointer) (tokens : List Text) (w : Value), ("/in/a~1b/1" : Pointer) = "/in" ++ p ∧
        p.tokens? = some tokens ∧ u.resolve? tokens = some w ∧
        w.LacksForm (.keyNotText (.int 1)) := by
  intro v j u
  have hv : WellFormed v := by decide +kernel
  have hu : WellFormed u := by decide +kernel
  have hj : v.toJson .shallow "/in" = .ok j := rfl
  have hf : u.toJson .shallow "/in" =
      .error (.schema ⟨.keyNotText (.int 1), some "/in/a~1b/1"⟩) :=
    raising_eq_schema_iff.2 ⟨rfl, by decide +kernel⟩
  obtain ⟨hstays, -, houtline, hequal⟩ := (toJson_normalizes hv "/in").2.1 j hj
  obtain ⟨p, tokens, w, hp, htokens, hw, hlacks⟩ := (toJson_normalizes hu "/in").2.2.1 _ hf
  exact ⟨hv, hj, hstays "/out", houtline, fun w => (hequal w).1, by decide +kernel, hu, hf,
    p, tokens, w, Option.some.inj hp, htokens, hw, hlacks⟩

/-- A number with too many digits to be shown for a key: the conversion fails without a word on
where. -/
theorem not_toJson_eq_schema_huge_key :
    let huge : Int := .ofNat (Nat.pow 10 5000)
    let v : Value := .object .plain [(.int huge, .null)]
    WellFormed v ∧ ¬ v.AllWithin (KeysAre IsText) ∧
      v.toJson .shallow .root = .error (.unshowable .tooManyDigits) := by
  intro huge v
  have hshow : (Value.int huge).showFault? Host.shallow.showing = some .tooManyDigits := by
    decide +kernel
  -- stated for any number, so that this one stays folded
  have hfails : ∀ n why, (Value.int n).showFault? Host.shallow.showing = some why →
      let u : Value := .object .plain [(.int n, .null)]
      WellFormed u ∧ ¬ u.AllWithin (KeysAre IsText) ∧
        u.toJson .shallow .root = .error (.unshowable why) := by
    intro n why hwhy u
    refine ⟨rfl, fun htexts => ?_, ?_⟩
    · cases htexts u .here _ List.mem_cons_self
    · exact raising_eq_unshowable_iff.2 ⟨⟨.keyNotText (.int n), some .root⟩, rfl, hwhy⟩
  exact hfails _ _ hshow

end DataShape.Value
