-- SUMMARY: The language of definition documents, what each document means, and building as its decision procedure.
import DataShape.Proofs.Definition.RoundTrip
import DataShape.Proofs.Value.Keys

/-!
# The definition language

A document of the language is a primitive name, or a mapping with one tag over
a payload of the form that the tag asks for. Its nesting counts definitions
only: the payload of a literal is data, however deep. A document is built at
exactly the limits that its nesting allows, and always into the same shape.
-/

namespace DataShape.Definition

variable {host : Host}

mutual

inductive IsDefinition : Value → Prop
  | null : IsDefinition .null
  | primitive (p : Primitive) : IsDefinition (.str p.name)
  | composite {form : ObjectForm} {tag : Tag} {payload : Value} (h : IsPayload tag payload) :
      IsDefinition (.object form [(.str tag.name, payload)])

/-- Whether a value may stand under a tag. -/
inductive IsPayload : Tag → Value → Prop
  | literal {v : Value} (h : v.isJson = true) : IsPayload .literal v
  | optional {d : Value} (h : IsDefinition d) : IsPayload .optional d
  | array {d : Value} (h : IsDefinition d) : IsPayload .array d
  | tuple {form : ArrayForm} {ds : List Value} (hlen : 1 ≤ ds.length)
      (h : ∀ d ∈ ds, IsDefinition d) : IsPayload .tuple (.array form ds)
  | union {form : ArrayForm} {ds : List Value} (hlen : 2 ≤ ds.length)
      (h : ∀ d ∈ ds, IsDefinition d) : IsPayload .union (.array form ds)
  | noFields : IsPayload .object .null
  | fields {form : ObjectForm} {es : List (Value × Value)} (hkeys : Value.HasTextKeys es)
      (h : ∀ e ∈ es, IsDefinition e.2) : IsPayload .object (.object form es)

end

mutual

/-- How deep definitions are nested in a document; one for what is no definition. -/
def nesting : Value → Nat
  | .object _ [(key, payload)] =>
    match Tag.ofKey? key, payload with
    | some .literal, _ => 1
    | some .optional, d => nesting d + 1
    | some .array, d => nesting d + 1
    | some .tuple, .array _ ds => nestingList ds + 1
    | some .union, .array _ ds => nestingList ds + 1
    | some .object, .object _ es => nestingEntries es + 1
    | _, _ => 1
  | _ => 1
termination_by structural d => d

def nestingList : List Value → Nat
  | [] => 0
  | d :: ds => max (nesting d) (nestingList ds)
termination_by structural ds => ds

def nestingEntries : List (Value × Value) → Nat
  | [] => 0
  | (_, d) :: es => max (nesting d) (nestingEntries es)
termination_by structural es => es

end

mutual

/-- The shape that a document of the language defines. -/
def meaning : Value → Shape
  | .str name =>
    match Primitive.ofName? name with
    | some p => p.shape
    | none => .null
  | .object _ [(key, payload)] =>
    match Tag.ofKey? key, payload with
    | some .literal, v => .literal v.plain
    | some .optional, d => .optional (meaning d)
    | some .array, d => .array (meaning d)
    | some .tuple, .array _ ds => .tuple (meaningList ds)
    | some .union, .array _ ds => .union (meaningList ds)
    | some .object, .object _ es => .object (meaningEntries es)
    | some .object, .null => .object []
    | _, _ => .null
  | _ => .null
termination_by structural d => d

def meaningList : List Value → List Shape
  | [] => []
  | d :: ds => meaning d :: meaningList ds
termination_by structural ds => ds

def meaningEntries : List (Value × Value) → List (Value × Shape)
  | [] => []
  | (key, d) :: es => (key, meaning d) :: meaningEntries es
termination_by structural es => es

end

/-! ## Tags and payloads -/

theorem Tag.ofKey?_eq_some_iff {key : Value} {tag : Tag} :
    Tag.ofKey? key = some tag ↔ key = .str tag.name := by
  constructor
  · intro h
    cases key with
    | str t =>
      have hname := List.find?_some h
      simpa using hname
    | _ => cases h
  · rintro rfl
    exact Tag.ofKey?_name tag

theorem Primitive.ofName?_eq_some_iff {t : Text} {p : Primitive} :
    Primitive.ofName? t = some p ↔ t = Text.ofString p.name := by
  constructor
  · intro h
    have hname := List.find?_some h
    simpa using hname
  · rintro rfl
    exact Primitive.ofName?_name p

theorem isDefinition_str_iff {t : Text} :
    IsDefinition (.str t) ↔ ∃ p, Primitive.ofName? t = some p := by
  constructor
  · rintro ⟨⟩
    exact ⟨_, Primitive.ofName?_name _⟩
  · rintro ⟨p, hp⟩
    obtain rfl := Primitive.ofName?_eq_some_iff.1 hp
    exact .primitive p

theorem isDefinition_entry_iff {form : ObjectForm} {key payload : Value} :
    IsDefinition (.object form [(key, payload)]) ↔
      ∃ tag, Tag.ofKey? key = some tag ∧ IsPayload tag payload := by
  constructor
  · rintro ⟨⟩
    exact ⟨_, Tag.ofKey?_name _, ‹_›⟩
  · rintro ⟨tag, htag, h⟩
    obtain rfl := Tag.ofKey?_eq_some_iff.1 htag
    exact .composite h

section
variable {v : Value}

theorem isPayload_literal_iff : IsPayload .literal v ↔ v.isJson = true :=
  ⟨fun | .literal h => h, .literal⟩

theorem isPayload_optional_iff : IsPayload .optional v ↔ IsDefinition v :=
  ⟨fun | .optional h => h, .optional⟩

theorem isPayload_array_iff : IsPayload .array v ↔ IsDefinition v :=
  ⟨fun | .array h => h, .array⟩

theorem isPayload_tuple_iff {form : ArrayForm} {ds : List Value} :
    IsPayload .tuple (.array form ds) ↔ 1 ≤ ds.length ∧ ∀ d ∈ ds, IsDefinition d :=
  ⟨fun | .tuple hlen h => ⟨hlen, h⟩, fun ⟨hlen, h⟩ => .tuple hlen h⟩

theorem isPayload_union_iff {form : ArrayForm} {ds : List Value} :
    IsPayload .union (.array form ds) ↔ 2 ≤ ds.length ∧ ∀ d ∈ ds, IsDefinition d :=
  ⟨fun | .union hlen h => ⟨hlen, h⟩, fun ⟨hlen, h⟩ => .union hlen h⟩

theorem isPayload_fields_iff {form : ObjectForm} {es : List (Value × Value)} :
    IsPayload .object (.object form es) ↔
      Value.HasTextKeys es ∧ ∀ e ∈ es, IsDefinition e.2 :=
  ⟨fun | .fields hkeys h => ⟨hkeys, h⟩, fun ⟨hkeys, h⟩ => .fields hkeys h⟩

end

/-- Induction over the definitions in a document, passing over the payloads between them. -/
@[elab_as_elim]
theorem IsDefinition.induction {motive : (d : Value) → IsDefinition d → Prop}
    (null : motive .null .null)
    (primitive : ∀ p : Primitive, motive (.str p.name) (.primitive p))
    (literal : ∀ form v (h : v.isJson = true),
      motive (.object form [(.str Tag.literal.name, v)]) (.composite (.literal h)))
    (optional : ∀ form d (h : IsDefinition d), motive d h →
      motive (.object form [(.str Tag.optional.name, d)]) (.composite (.optional h)))
    (array : ∀ form d (h : IsDefinition d), motive d h →
      motive (.object form [(.str Tag.array.name, d)]) (.composite (.array h)))
    (tuple : ∀ form form' ds (hlen : 1 ≤ ds.length) (h : ∀ d ∈ ds, IsDefinition d),
      (∀ d hd, motive d (h d hd)) →
      motive (.object form [(.str Tag.tuple.name, .array form' ds)]) (.composite (.tuple hlen h)))
    (union : ∀ form form' ds (hlen : 2 ≤ ds.length) (h : ∀ d ∈ ds, IsDefinition d),
      (∀ d hd, motive d (h d hd)) →
      motive (.object form [(.str Tag.union.name, .array form' ds)]) (.composite (.union hlen h)))
    (noFields : ∀ form,
      motive (.object form [(.str Tag.object.name, .null)]) (.composite .noFields))
    (fields : ∀ form form' es (hkeys : Value.HasTextKeys es) (h : ∀ e ∈ es, IsDefinition e.2),
      (∀ e he, motive e.2 (h e he)) →
      motive (.object form [(.str Tag.object.name, .object form' es)])
        (.composite (.fields hkeys h)))
    {d : Value} (h : IsDefinition d) : motive d h :=
  @IsDefinition.rec motive
    (fun tag payload h => ∀ form, motive (.object form [(.str tag.name, payload)]) (.composite h))
    null primitive (fun _ ih => ih _) (fun h form => literal form _ h)
    (fun h ih form => optional form _ h ih) (fun h ih form => array form _ h ih)
    (fun hlen h ih form => tuple form _ _ hlen h ih)
    (fun hlen h ih form => union form _ _ hlen h ih) noFields
    (fun hkeys h ih form => fields form _ _ hkeys h ih) d h

theorem nesting_pos (d : Value) : 0 < nesting d := by
  rw [nesting.eq_def]
  split
  · split <;> exact Nat.succ_pos _
  · exact Nat.one_pos

/-! ## Building -/

mutual

/-- Building takes the documents of the language that are not nested too deep, counted from the
depth it starts at. -/
theorem build_eq_ok_iff (document : Value) {limit : Int} {path : Pointer} {depth : Nat}
    {s : Shape} :
    build limit document path depth = .ok s ↔
      IsDefinition document ∧ depth + nesting document ≤ limit + 1 ∧ s = meaning document := by
  by_cases hdepth : limit < depth
  · have hpos := nesting_pos document
    rw [build_of_lt hdepth]
    constructor
    · intro h; cases h
    · rintro ⟨-, h, -⟩; omega
  have hle : depth ≤ limit := by omega
  cases document with
  | null =>
    rw [build.eq_def, if_neg hdepth]
    simp [nesting, meaning, IsDefinition.null, hle, eq_comm]
  | str t =>
    rw [build.eq_def, if_neg hdepth, isDefinition_str_iff]
    cases hname : Primitive.ofName? t with
    | none => simp [hname]
    | some p => simp [nesting, meaning, hname, hle, eq_comm]
  | object form entries =>
    rcases entries with _ | ⟨⟨key, payload⟩, _ | ⟨e, es⟩⟩
    · have hno : ¬ IsDefinition (.object form []) := nofun
      rw [build.eq_def, if_neg hdepth]
      simp [hno]
    · rw [isDefinition_entry_iff]
      cases htag : Tag.ofKey? key with
      | none =>
        rw [build.eq_def, if_neg hdepth]
        simp [htag]
      | some tag =>
        simp only [Option.some.injEq, exists_eq_left']
        exact build_entry_eq_ok_iff payload hle htag
    · have hno : ¬ IsDefinition (.object form ((key, payload) :: e :: es)) := nofun
      rw [build.eq_def, if_neg hdepth]
      simp [hno]
  | _ =>
    rw [build.eq_def, if_neg hdepth]
    exact ⟨nofun, fun h => nomatch h.1⟩
-- The payload of an optional shape or an array is a document itself and no smaller: the second
-- component puts it after its entry.
termination_by (sizeOf document, 0)

/-- What stands under a tag is taken as far as it is a payload of the tag. -/
theorem build_entry_eq_ok_iff (payload : Value) {limit : Int} {path : Pointer} {depth : Nat}
    (hle : depth ≤ limit) {form : ObjectForm} {key : Value} {tag : Tag}
    (htag : Tag.ofKey? key = some tag) {s : Shape} :
    build limit (.object form [(key, payload)]) path depth = .ok s ↔
      IsPayload tag payload ∧ depth + nesting (.object form [(key, payload)]) ≤ limit + 1 ∧
        s = meaning (.object form [(key, payload)]) := by
  have hnext : (depth + 1 : Nat) ≤ limit + 1 := by omega
  rw [build.eq_def, if_neg (by omega)]
  simp only [htag]
  cases tag with
  | literal =>
    simp only [Except.map_eq_ok, Value.toPlain_eq_ok_iff, isPayload_literal_iff, nesting, meaning,
      htag]
    constructor
    · rintro ⟨_, ⟨hjson, rfl⟩, rfl⟩
      exact ⟨hjson, by omega, rfl⟩
    · rintro ⟨hjson, -, rfl⟩
      exact ⟨_, ⟨hjson, rfl⟩, rfl⟩
  | optional =>
    simp only [isPayload_optional_iff, nesting, meaning, htag]
    exact map_eq_ok_iff (fun _ => build_eq_ok_iff payload) s
  | array =>
    simp only [isPayload_array_iff, nesting, meaning, htag]
    exact map_eq_ok_iff (fun _ => build_eq_ok_iff payload) s
  | tuple =>
    cases payload with
    | array form ds =>
      rw [isPayload_tuple_iff]
      cases ds with
      | nil => simp
      | cons d ds =>
        have hlen : 1 ≤ (d :: ds).length := by simp
        simp only [hlen, true_and, nesting, meaning, htag]
        exact map_eq_ok_iff (fun _ => buildList_eq_ok_iff (d :: ds) hnext) s
    | _ => exact ⟨nofun, fun h => nomatch h.1⟩
  | union =>
    cases payload with
    | array form ds =>
      rw [isPayload_union_iff]
      rcases ds with _ | ⟨d, _ | ⟨d', ds⟩⟩
      · simp
      · simp
      · have hlen : 2 ≤ (d :: d' :: ds).length := by simp
        simp only [hlen, true_and, nesting, meaning, htag]
        exact map_eq_ok_iff (fun _ => buildList_eq_ok_iff (d :: d' :: ds) hnext) s
    | _ => exact ⟨nofun, fun h => nomatch h.1⟩
  | object =>
    cases payload with
    | null => simp [IsPayload.noFields, nesting, meaning, htag, hle, eq_comm]
    | object form es =>
      simp only [isPayload_fields_iff, nesting, meaning, htag]
      exact map_eq_ok_iff (fun _ => buildFields_eq_ok_iff es hnext) s
    | _ => exact ⟨nofun, fun h => nomatch h.1⟩
termination_by (sizeOf payload, 1)

theorem buildList_eq_ok_iff (documents : List Value) {limit : Int} {path : Pointer} {i depth : Nat}
    (hdepth : depth ≤ limit + 1) {ss : List Shape} :
    buildList limit documents path i depth = .ok ss ↔
      (∀ d ∈ documents, IsDefinition d) ∧ depth + nestingList documents ≤ limit + 1 ∧
        ss = meaningList documents := by
  cases documents with
  | nil => simp [buildList, nestingList, meaningList, hdepth, eq_comm]
  | cons d ds =>
    simp only [buildList, Except.bind_eq_ok, build_eq_ok_iff d, buildList_eq_ok_iff ds hdepth,
      List.forall_mem_cons, nestingList, meaningList]
    constructor
    · rintro ⟨_, ⟨hd, hnesting, rfl⟩, _, ⟨hds, hnestings, rfl⟩, h⟩
      cases h
      exact ⟨⟨hd, hds⟩, by omega, rfl⟩
    · rintro ⟨⟨hd, hds⟩, hnesting, rfl⟩
      exact ⟨_, ⟨hd, by omega, rfl⟩, _, ⟨hds, by omega, rfl⟩, rfl⟩
termination_by (sizeOf documents, 0)

theorem buildFields_eq_ok_iff (fields : List (Value × Value)) {limit : Int} {path : Pointer}
    {depth : Nat} (hdepth : depth ≤ limit + 1) {fs : List (Value × Shape)} :
    buildFields limit fields path depth = .ok fs ↔
      (Value.HasTextKeys fields ∧ ∀ e ∈ fields, IsDefinition e.2) ∧
        depth + nestingEntries fields ≤ limit + 1 ∧ fs = meaningEntries fields := by
  cases fields with
  | nil => simp [buildFields, nestingEntries, meaningEntries, Value.HasTextKeys, hdepth, eq_comm]
  | cons e es =>
    obtain ⟨key, d⟩ := e
    by_cases hkey : key.kind? = some .string
    · obtain ⟨t, rfl⟩ := Value.kind?_eq_string_iff.1 hkey
      simp only [buildFields, Except.bind_eq_ok, build_eq_ok_iff d,
        buildFields_eq_ok_iff es hdepth, Value.HasTextKeys, List.forall_mem_cons, hkey, true_and,
        nestingEntries, meaningEntries]
      constructor
      · rintro ⟨_, ⟨hd, hnesting, rfl⟩, _, ⟨⟨hkeys, hes⟩, hnestings, rfl⟩, h⟩
        cases h
        exact ⟨⟨hkeys, hd, hes⟩, by omega, rfl⟩
      · rintro ⟨⟨hkeys, hd, hes⟩, hnesting, rfl⟩
        exact ⟨_, ⟨hd, by omega, rfl⟩, _, ⟨⟨hkeys, hes⟩, by omega, rfl⟩, rfl⟩
    · have hfault : buildFields limit ((key, d) :: es) path depth =
          .error ⟨.fieldNameNotText key, some path⟩ := by
        cases key with
        | str t => exact absurd rfl hkey
        | _ => rfl
      simp [hfault, Value.HasTextKeys, hkey]
termination_by (sizeOf fields, 0)

end

theorem toShape_eq_ok_iff (document : Value) (limit : Int) (s : Shape) :
    toShape host limit document = .ok s ↔
      IsDefinition document ∧ nesting document ≤ limit ∧ s = .sealed (meaning document) := by
  simp only [toShape, raising_eq_ok_iff, Except.map_eq_ok, build_eq_ok_iff]
  constructor
  · rintro ⟨_, ⟨h, hnesting, rfl⟩, rfl⟩
    exact ⟨h, by omega, rfl⟩
  · rintro ⟨h, hnesting, rfl⟩
    exact ⟨_, ⟨h, by omega, rfl⟩, rfl⟩

/-- Exactly the documents of the language are accepted, each from the limit that is its nesting
on, and into one shape at all of those. -/
theorem toShape_threshold (document : Value) :
    (∀ limit : Int, (∃ s, toShape host limit document = .ok s) ↔
      IsDefinition document ∧ nesting document ≤ limit) ∧
    ∃ s, ∀ (limit : Int) (t : Shape), toShape host limit document = .ok t ↔
      (IsDefinition document ∧ nesting document ≤ limit) ∧ t = s := by
  have hiff : ∀ limit s, toShape host limit document = .ok s ↔
      IsDefinition document ∧ nesting document ≤ limit ∧ s = .sealed (meaning document) :=
    toShape_eq_ok_iff document
  constructor
  · intro limit
    constructor
    · rintro ⟨s, hs⟩
      obtain ⟨h, hnesting, -⟩ := (hiff limit s).1 hs
      exact ⟨h, hnesting⟩
    · rintro ⟨h, hnesting⟩
      exact ⟨_, (hiff limit _).2 ⟨h, hnesting, rfl⟩⟩
  · refine ⟨.sealed (meaning document), fun limit t => ?_⟩
    rw [hiff, and_assoc]

/-- The payload of a literal does not count. -/
example : toShape host 1 (tagged .literal (.list [.list []])) =
    .ok (.sealed (.literal (.list [.list []]))) := rfl

end DataShape.Definition
