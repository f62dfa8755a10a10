-- SUMMARY: What the places of a definition document are read as, and faults as pointers to places that break a rule.
import DataShape.Proofs.Definition.Language
import DataShape.Proofs.Value.Places

/-!
# Places of faults

What stands at a place of a document is read as a definition, as the payload of
a tag, or as data of a literal, and the tokens on the way there tell which.
Every fault of building points at a place that the document has, and what
stands there breaks a rule by itself.
-/

namespace DataShape.Definition

variable {host : Host}

open Value (WellFormed)

theorem exists_item_of_buildList {limit : Int} {ds : List Value} {path : Pointer} {i depth : Nat}
    {f : SchemaFault} (h : buildList limit ds path i depth = .error f) :
    ∃ (j : Nat) (d : Value), ds[j]? = some d ∧
      build limit d (path.index (i + j)) depth = .error f :=
  Value.exists_item_of_loop (fun ds i => buildList limit ds path i depth)
    (fun d i => build limit d (path.index i) depth) h (fun _ => rfl)
    fun _ _ _ => Except.both_eq_error

theorem exists_entry_of_buildFields {limit : Int} {es : List (Value × Value)} {path : Pointer}
    {depth : Nat} {f : SchemaFault} (h : buildFields limit es path depth = .error f) :
    (∃ key d, (.str key, d) ∈ es ∧ build limit d (path.child key) depth = .error f) ∨
      ∃ e ∈ es, e.1.kind? ≠ some .string ∧ f = ⟨.fieldNameNotText e.1, some path⟩ := by
  apply Value.exists_entry_of_loop (fun es => buildFields limit es path depth)
    (fun key d => build limit d (path.child key) depth)
    (fun key => ⟨.fieldNameNotText key, some path⟩) h rfl fun _ _ _ => Except.both_eq_error
  intro e es hkey
  obtain ⟨key, d⟩ := e
  cases key with
  | str t => exact absurd rfl hkey
  | _ => rfl

/-! ## Roles and rules -/

/-- What a place of a document is read as. Depth counts definitions, that of a payload being the
depth of the definition it belongs to. -/
inductive Role where
  | definition (depth : Nat)
  | payload (tag : Tag) (depth : Nat)
  | data
  | nothing

/-- What a part is read as. Under a definition its token is the tag. -/
def Role.part : Role → Text → Role
  | .definition depth, token =>
    match Tag.ofKey? (.str token) with
    | some .literal => .data
    | some .optional => .definition (depth + 1)
    | some .array => .definition (depth + 1)
    | some tag => .payload tag depth
    | none => .nothing
  | .payload _ depth, _ => .definition (depth + 1)
  | .data, _ => .data
  | .nothing, _ => .nothing

/-- What the place is read as that tokens lead to from the top of a document. -/
def roleAt (tokens : List Text) : Role := tokens.foldl Role.part (.definition 1)

/-- The rules for what stands at a place, each with the problem of what breaks it. -/
inductive Breaks (limit : Int) : Role → Value → SchemaProblem → Prop
  | tooDeep {depth : Nat} {v : Value} (h : limit < depth) :
      Breaks limit (.definition depth) v (.tooDeep limit)
  | unknownName {depth : Nat} {name : Text} (h : ∀ p : Primitive, name ≠ p.name) :
      Breaks limit (.definition depth) (.str name) (.unknownName name)
  | notADefinition {depth : Nat} {v : Value} (hnull : v ≠ .null)
      (hname : v.kind? ≠ some .string) (hobject : v.kind? ≠ some .object) :
      Breaks limit (.definition depth) v (.notADefinition v)
  | notOneKey {depth : Nat} {form : ObjectForm} {es : List (Value × Value)} (h : es.length ≠ 1) :
      Breaks limit (.definition depth) (.object form es) .notOneKey
  | unknownTag {depth : Nat} {form : ObjectForm} {key payload : Value}
      (h : ∀ tag : Tag, key ≠ .str tag.name) :
      Breaks limit (.definition depth) (.object form [(key, payload)]) (.unknownTag key)
  | notAList {tag : Tag} {depth : Nat} {v : Value} (htag : tag = .tuple ∨ tag = .union)
      (h : v.kind? ≠ some .array) : Breaks limit (.payload tag depth) v (.notAList tag v)
  | emptyTuple {depth : Nat} {form : ArrayForm} :
      Breaks limit (.payload .tuple depth) (.array form []) .emptyTuple
  | smallUnion {depth : Nat} {form : ArrayForm} {ds : List Value} (h : ds.length < 2) :
      Breaks limit (.payload .union depth) (.array form ds) .smallUnion
  | fieldsNotMapping {depth : Nat} {v : Value} (hnull : v ≠ .null)
      (hobject : v.kind? ≠ some .object) :
      Breaks limit (.payload .object depth) v (.fieldsNotMapping v)
  | fieldNameNotText {depth : Nat} {form : ObjectForm} {es : List (Value × Value)}
      {e : Value × Value} (he : e ∈ es) (h : e.1.kind? ≠ some .string) :
      Breaks limit (.payload .object depth) (.object form es) (.fieldNameNotText e.1)
  | noJsonForm {v : Value} (h : v.kind? = none) : Breaks limit .data v (.noJsonForm v)
  | keyNotText {form : ObjectForm} {es : List (Value × Value)} {e : Value × Value} (he : e ∈ es)
      (h : e.1.kind? ≠ some .string) : Breaks limit .data (.object form es) (.keyNotText e.1)

/-! ## Faults and places -/

/-- Whether a fault points, from a path on, at a place inside a value that breaks a rule. -/
def Blames (limit : Int) (role : Role) (v : Value) (path : Pointer) (f : SchemaFault) : Prop :=
  ∃ tokens w, f.path = some (path ++ Pointer.ofTokens tokens) ∧ v.resolve? tokens = some w ∧
    Breaks limit (tokens.foldl Role.part role) w f.problem

section
variable {limit : Int} {role : Role} {v : Value} {path : Pointer} {f : SchemaFault}

theorem Blames.here {problem : SchemaProblem} (h : Breaks limit role v problem) :
    Blames limit role v path ⟨problem, some path⟩ := by
  refine ⟨[], v, ?_, rfl, h⟩
  rw [Pointer.ofTokens, List.foldl_nil, Pointer.root, List.append_nil]

theorem Blames.part {token : Text} {w : Value} (hw : v.part? token = some w)
    (h : Blames limit (role.part token) w (path.child token) f) : Blames limit role v path f := by
  obtain ⟨tokens, x, hpath, hx, hbreaks⟩ := h
  refine ⟨token :: tokens, x, ?_, ?_, hbreaks⟩
  · rw [hpath, Pointer.child_append_ofTokens]
  · rw [Value.resolve?, List.foldlM_cons, hw]
    exact hx

end

theorem toPlain_blames {limit : Int} (v : Value) : WellFormed v → ∀ path f,
    v.toPlain path = .error f → Blames limit .data v path f := by
  induction v using Value.inductionOnPlaces with
  | step v ih =>
    intro hv path f h
    cases v with
    | array form items =>
      obtain ⟨j, w, hj, hw⟩ := Value.exists_item_of_toPlainList (Except.map_eq_error.1 h)
      have hpart := Value.part?_item form hj
      rw [Nat.zero_add, Pointer.index_eq_child] at hw
      exact .part hpart (ih _ w hpart (Value.wellFormed_part hv hpart) _ f hw)
    | object form es =>
      obtain ⟨key, w, hmem, hw⟩ | ⟨e, he, hkey, rfl⟩ :=
        Value.exists_entry_of_toPlainEntries (Except.map_eq_error.1 h)
      · have hpart := Value.part?_entry form (Value.wellFormed_object_iff.1 hv) hmem
        exact .part hpart (ih _ w hpart (Value.wellFormed_part hv hpart) _ f hw)
      · exact .here (.keyNotText he hkey)
    | _ =>
      obtain ⟨hkind, rfl⟩ := Value.toPlain_scalar_eq_error (by simp [Value.IsScalar, Value.kind?]) h
      exact .here (.noJsonForm hkind)

/-- Whether building from a value as a definition fails at places that break a rule only. -/
def BlamesAsDefinition (v : Value) : Prop :=
  ∀ limit path depth f, build limit v path depth = .error f →
    Blames limit (.definition depth) v path f

/-- Whether building fails at such places only where a value stands under a tag. -/
def BlamesAsPayload (v : Value) : Prop :=
  ∀ (limit : Int) path (depth : Nat) form (tag : Tag) f, ¬ limit < depth →
    build limit (.object form [(.str tag.name, v)]) path depth = .error f →
    Blames limit ((Role.definition depth).part tag.name) v (path.child tag.name) f

theorem blamesAsDefinition_of_parts {v : Value} (hv : WellFormed v)
    (hparts : ∀ token w, v.part? token = some w → BlamesAsPayload w) : BlamesAsDefinition v := by
  intro limit path depth f h
  by_cases hdepth : limit < depth
  · rw [build_of_lt hdepth] at h
    cases h
    exact .here (.tooDeep hdepth)
  have hcases := h
  rw [build.eq_def, if_neg hdepth] at hcases
  cases v with
  | null => cases hcases
  | str name =>
    dsimp only at hcases
    split at hcases
    · cases hcases
    · rename_i hname
      cases hcases
      refine .here (.unknownName fun p hp => ?_)
      rw [Primitive.ofName?_eq_some_iff.2 hp] at hname
      cases hname
  | object form entries =>
    rcases entries with _ | ⟨⟨key, payload⟩, _ | ⟨e, es⟩⟩
    · cases hcases
      exact .here (.notOneKey (by simp))
    · cases htag : Tag.ofKey? key with
      | none =>
        simp only [htag] at hcases
        cases hcases
        refine .here (.unknownTag fun tag hkey => ?_)
        rw [Tag.ofKey?_eq_some_iff.2 hkey] at htag
        cases htag
      | some tag =>
        obtain rfl := Tag.ofKey?_eq_some_iff.1 htag
        have hpart := Value.part?_entry form (Value.wellFormed_object_iff.1 hv)
          List.mem_cons_self
        exact .part hpart (hparts _ payload hpart limit path depth form tag f hdepth h)
    · cases hcases
      exact .here (.notOneKey (by simp))
  | _ =>
    cases hcases
    exact .here (.notADefinition (by simp) (by simp [Value.kind?]) (by simp [Value.kind?]))

theorem blamesAsPayload_of_parts {v : Value} (hv : WellFormed v) (hself : BlamesAsDefinition v)
    (hparts : ∀ token w, v.part? token = some w → BlamesAsDefinition w) : BlamesAsPayload v := by
  intro limit path depth form tag f hdepth h
  rw [build.eq_def, if_neg hdepth] at h
  simp only [Tag.ofKey?_name, Value.display] at h
  rw [Role.part, Tag.ofKey?_name]
  have hitems : ∀ {form ds}, v = .array form ds →
      buildList limit ds (path.child tag.name) 0 (depth + 1) = .error f →
      Blames limit (.payload tag depth) v (path.child tag.name) f := by
    rintro form ds rfl h
    obtain ⟨j, d, hj, hd⟩ := exists_item_of_buildList h
    have hpart := Value.part?_item form hj
    rw [Nat.zero_add, Pointer.index_eq_child] at hd
    exact .part hpart (hparts _ d hpart _ _ _ f hd)
  cases tag with
  | literal => exact toPlain_blames v hv _ f (Except.map_eq_error.1 h)
  | optional => exact hself _ _ _ f (Except.map_eq_error.1 h)
  | array => exact hself _ _ _ f (Except.map_eq_error.1 h)
  | tuple =>
    cases v with
    | array form ds =>
      cases ds with
      | nil =>
        cases h
        exact .here .emptyTuple
      | cons d ds => exact hitems rfl (Except.map_eq_error.1 h)
    | _ =>
      cases h
      exact .here (.notAList (.inl rfl) (by simp [Value.kind?]))
  | union =>
    cases v with
    | array form ds =>
      rcases ds with _ | ⟨d, _ | ⟨d', ds⟩⟩
      · cases h
        exact .here (.smallUnion (by decide))
      · cases h
        exact .here (.smallUnion (Nat.lt_succ_self 1))
      · exact hitems rfl (Except.map_eq_error.1 h)
    | _ =>
      cases h
      exact .here (.notAList (.inr rfl) (by simp [Value.kind?]))
  | object =>
    cases v with
    | null => cases h
    | object form es =>
      obtain ⟨key, d, hmem, hd⟩ | ⟨e, he, hkey, rfl⟩ :=
        exists_entry_of_buildFields (Except.map_eq_error.1 h)
      · have hpart := Value.part?_entry form (Value.wellFormed_object_iff.1 hv) hmem
        exact .part hpart (hparts _ d hpart _ _ _ f hd)
      · exact .here (.fieldNameNotText he hkey)
    | _ =>
      cases h
      exact .here (.fieldsNotMapping (by simp) (by simp [Value.kind?]))

theorem build_blames (v : Value) : WellFormed v → BlamesAsDefinition v ∧ BlamesAsPayload v := by
  induction v using Value.inductionOnPlaces with
  | step v ih =>
    intro hv
    have hparts := fun token w hpart => ih token w hpart (Value.wellFormed_part hv hpart)
    have hself := blamesAsDefinition_of_parts hv fun token w hpart => (hparts token w hpart).2
    exact ⟨hself, blamesAsPayload_of_parts hv hself fun token w hpart => (hparts token w hpart).1⟩

/-- A document that is refused is refused with a pointer to a place that it has, and what stands
there breaks a rule by itself. -/
theorem toShape_blames {limit : Int} {document : Value} {f : SchemaFault}
    (hformed : WellFormed document) (h : toShape host limit document = .error (.schema f)) :
    ∃ p tokens v, f.path = some p ∧ p.tokens? = some tokens ∧ document.resolve? tokens = some v ∧
      Breaks limit (roleAt tokens) v f.problem := by
  obtain ⟨hdefinition, -⟩ := build_blames document hformed
  obtain ⟨tokens, v, hpath, hv, hbreaks⟩ :=
    hdefinition limit .root 1 f (Except.map_eq_error.1 (raising_eq_schema_iff.1 h).1)
  exact ⟨_, tokens, v, hpath, Pointer.tokens?_ofTokens tokens, hv, hbreaks⟩

/-- A set in the data of a literal, below a field whose name holds both signs that are escaped, one
without a name, and a key that is a digit. -/
theorem toShape_blames_odd_names :
    let data : Value := .object .plain [(.str "0", .array .tuple [.int 1, .set []])]
    let document : Value := tagged .object (.object .plain [(.str "a/b~1", tagged .tuple (.list
      [.null, tagged .object (.object .readOnly [(.str "", tagged .literal data)])]))])
    let p : Pointer := "/object/a~1b~01/tuple/1/object//literal/0/1"
    let tokens : List Text := ["object", "a/b~1", "tuple", "1", "object", "", "literal", "0", "1"]
    WellFormed document ∧
      toShape .shallow 4 document = .error (.schema ⟨.noJsonForm (.set []), some p⟩) ∧
      p.tokens? = some tokens ∧ roleAt tokens = .data ∧
      ∃ v, document.resolve? tokens = some v ∧ Breaks 4 .data v (.noJsonForm (.set [])) := by
  intro data document p tokens
  have hformed : WellFormed document := by decide +kernel
  have hfault : toShape .shallow 4 document =
      .error (.schema ⟨.noJsonForm (.set []), some p⟩) := rfl
  have htokens : p.tokens? = some tokens := by decide +kernel
  obtain ⟨p', tokens', v, hp, htokens', hv, hbreaks⟩ := toShape_blames hformed hfault
  obtain rfl := Option.some.inj hp
  obtain rfl := Option.some.inj (htokens'.symm.trans htokens)
  exact ⟨hformed, hfault, htokens, rfl, v, hv, hbreaks⟩

end DataShape.Definition
