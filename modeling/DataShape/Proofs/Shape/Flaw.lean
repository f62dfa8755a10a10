-- SUMMARY: The first flaw of a value or of a shape, in the order in which conversions go through it.
import DataShape.Definition.Describe
import DataShape.JsonSchema
import DataShape.Proofs.Shape.Occurrence
import DataShape.Proofs.Value.Plain

/-!
# Flaws

A conversion to plain data goes through a tree in order and fails at the first
thing that has no plain form, or under a key that cannot be shown. What it finds
there does not depend on the conversion: only the place it reports does.

Describing a shape as a definition and rendering a document of the dialect are
two walks of their own. Both stop at the first flaw of the shape, and neither
finds any other fault, so both succeed on the shapes without a flaw.
-/

namespace DataShape

/-! ## Problems -/

section
variable {α β γ : Type}

/-- The problem that a result is about. -/
def problem? : Except SchemaFault α → Option SchemaProblem
  | .ok _ => none
  | .error f => some f.problem

theorem problem?_eq_none_iff {x : Except SchemaFault α} : problem? x = none ↔ ∃ a, x = .ok a := by
  cases x <;> simp [problem?]

theorem problem?_eq_some_iff {x : Except SchemaFault α} {problem : SchemaProblem} :
    problem? x = some problem ↔ ∃ path, x = .error ⟨problem, path⟩ := by
  cases x with
  | ok a => simp [problem?]
  | error f =>
    obtain ⟨problem', path⟩ := f
    simp [problem?]

theorem problem?_map (x : Except SchemaFault α) (f : α → β) : problem? (x.map f) = problem? x := by
  cases x <;> rfl

/-- Of two conversions one after the other, the first that fails decides. -/
theorem problem?_both (x : Except SchemaFault α) (y : Except SchemaFault β) (f : α → β → γ) :
    problem? (do let a ← x; let b ← y; return f a b) = (problem? x).or (problem? y) := by
  cases x with
  | error e => rfl
  | ok a => cases y <;> rfl

end

namespace Value

/-! ## Flaws of values -/

mutual

/-- The first value inside that has no JSON kind, or the first key that is no text. -/
def flaw? : Value → Option SchemaProblem
  | .array _ items => flawInItems? items
  | .object _ entries => flawInEntries? entries
  | v => if v.kind?.isSome then none else some (.noJsonForm v)
termination_by structural v => v

def flawInItems? : List Value → Option SchemaProblem
  | [] => none
  | v :: vs => (flaw? v).or (flawInItems? vs)
termination_by structural vs => vs

/-- A key counts before the value under it. -/
def flawInEntries? : List (Value × Value) → Option SchemaProblem
  | [] => none
  | (.str _, v) :: es => (flaw? v).or (flawInEntries? es)
  | (key, _) :: _ => some (.keyNotText key)
termination_by structural es => es

end

mutual

theorem problem?_toPlain (v : Value) (path : Pointer) : problem? (v.toPlain path) = v.flaw? := by
  cases v with
  | array form items => rw [toPlain, flaw?, problem?_map, problem?_toPlainList items]
  | object form entries => rw [toPlain, flaw?, problem?_map, problem?_toPlainEntries entries]
  | _ => rfl
termination_by structural v

theorem problem?_toPlainList (vs : List Value) (path : Pointer) (i : Nat) :
    problem? (toPlainList vs path i) = flawInItems? vs := by
  cases vs with
  | nil => rfl
  | cons v vs =>
    rw [toPlainList, flawInItems?, problem?_both, problem?_toPlain v, problem?_toPlainList vs]
termination_by structural vs

theorem problem?_toPlainEntries (es : List (Value × Value)) (path : Pointer) :
    problem? (toPlainEntries es path) = flawInEntries? es := by
  cases es with
  | nil => rfl
  | cons e es =>
    obtain ⟨key, v⟩ := e
    cases key with
    | str t =>
      rw [toPlainEntries, flawInEntries?, problem?_both, problem?_toPlain v,
        problem?_toPlainEntries es]
    | _ => rfl
termination_by structural es

end

theorem flaw?_eq_none_iff (v : Value) : v.flaw? = none ↔ v.isJson = true := by
  rw [← problem?_toPlain v .root, problem?_eq_none_iff]
  constructor
  · rintro ⟨w, hw⟩
    exact ((toPlain_eq_ok_iff v w .root).1 hw).1
  · intro h
    exact ⟨v.plain, (toPlain_eq_ok_iff v v.plain .root).2 ⟨h, rfl⟩⟩

end Value

namespace Shape

variable {host : Host}

/-! ## Flaws of shapes -/

/-- The flaw of a key that no pointer can show. -/
def keyFlaw? (host : Host) (key : Value) : Option SchemaProblem :=
  if key.isShowable host then none else some (.unshownKey key)

mutual

/-- The first node that is no shape, the first key that cannot be shown, or the first flaw of a
literal. -/
def flaw? (host : Host) : Shape → Option SchemaProblem
  | .literal v => v.flaw?
  | .optional s => flaw? host s
  | .array s => flaw? host s
  | .tuple ss => flawInParts? host ss
  | .union ss => flawInParts? host ss
  | .object fs => flawInFields? host fs
  | .foreign v => some (.unknownNode (.foreign v))
  | .sealed s => some (.unknownNode (.sealed s))
  | _ => none
termination_by structural s => s

def flawInParts? (host : Host) : List Shape → Option SchemaProblem
  | [] => none
  | s :: ss => (flaw? host s).or (flawInParts? host ss)
termination_by structural ss => ss

def flawInFields? (host : Host) : List (Value × Shape) → Option SchemaProblem
  | [] => none
  | (key, s) :: fs => (keyFlaw? host key).or ((flaw? host s).or (flawInFields? host fs))
termination_by structural fs => fs

end

/-- Whether a node is no record, or has keys that can be shown. -/
def ShowsKeys (host : Host) : Shape → Prop
  | .object fs => ∀ f ∈ fs, f.1.isShowable host = true
  | _ => True

theorem keyFlaw?_eq_none_iff {key : Value} :
    keyFlaw? host key = none ↔ key.isShowable host = true := by
  simp [keyFlaw?]

theorem flawInParts?_eq_none_iff {ss : List Shape} :
    flawInParts? host ss = none ↔ ∀ s ∈ ss, s.flaw? host = none := by
  induction ss with
  | nil => simp [flawInParts?]
  | cons s ss ih => simp [flawInParts?, ih]

theorem flawInFields?_eq_none_iff {fs : List (Value × Shape)} :
    flawInFields? host fs = none ↔
      ∀ f ∈ fs, f.1.isShowable host = true ∧ f.2.flaw? host = none := by
  induction fs with
  | nil => simp [flawInFields?]
  | cons f fs ih =>
    simp only [flawInFields?, Option.or_eq_none_iff, keyFlaw?_eq_none_iff, ih, List.forall_mem_cons,
      and_assoc]

/-- The shapes without a flaw are those that can be written, with keys that can be shown. -/
theorem flaw?_eq_none_iff {s : Shape} :
    s.flaw? host = none ↔ s.isWritable = true ∧ s.AllNodes (ShowsKeys host) := by
  induction s using inductionOnParts with
  | null | boolean | number | string =>
    refine iff_of_true rfl ⟨rfl, ?_⟩
    rintro _ ⟨⟩
    trivial
  | literal v =>
    rw [allNodes_literal_iff]
    exact (Value.flaw?_eq_none_iff v).trans (and_iff_left trivial).symm
  | optional s ih =>
    rw [allNodes_optional_iff]
    exact ih.trans (and_congr_right' (and_iff_right trivial).symm)
  | array s ih =>
    rw [allNodes_array_iff]
    exact ih.trans (and_congr_right' (and_iff_right trivial).symm)
  | tuple ss ih =>
    rw [allNodes_tuple_iff, and_iff_right (show ShowsKeys host (.tuple ss) from trivial), flaw?,
      flawInParts?_eq_none_iff, isWritable, allLiterals, allLiteralsList_iff, ← forall₂_and]
    exact forall₂_congr ih
  | union ss ih =>
    rw [allNodes_union_iff, and_iff_right (show ShowsKeys host (.union ss) from trivial), flaw?,
      flawInParts?_eq_none_iff, isWritable, allLiterals, allLiteralsList_iff, ← forall₂_and]
    exact forall₂_congr ih
  | object fs ih =>
    rw [allNodes_object_iff, flaw?, flawInFields?_eq_none_iff, isWritable, allLiterals,
      allLiteralsFields_iff, and_left_comm, ← forall₂_and]
    change _ ↔ (∀ f ∈ fs, _) ∧ _
    rw [← forall₂_and]
    exact forall₂_congr fun f hf => and_congr_right' (ih f hf)
  | foreign v => exact iff_of_false nofun fun h => nomatch h.1
  | sealed s _ => exact iff_of_false nofun fun h => nomatch h.1

end Shape

/-! ## Both walks stop at the first flaw -/

theorem problem?_entry {α : Type} {host : Host} {key : Value} {p : Option SchemaProblem}
    {f : Pointer → Except SchemaFault α} (path : Pointer) (h : ∀ here, problem? (f here) = p) :
    problem? (path.entry host key >>= f) = (Shape.keyFlaw? host key).or p := by
  unfold Pointer.entry Shape.keyFlaw?
  split
  · exact h _
  · rfl

namespace Definition

variable {host : Host}

mutual

theorem problem?_describe (s : Shape) (path : Pointer) :
    problem? (describe host s path) = s.flaw? host := by
  cases s with
  | literal v => rw [describe, Shape.flaw?, problem?_map, Value.problem?_toPlain]
  | optional s => rw [describe, Shape.flaw?, problem?_map, problem?_describe s]
  | array s => rw [describe, Shape.flaw?, problem?_map, problem?_describe s]
  | tuple ss => rw [describe, Shape.flaw?, problem?_map, problem?_describeList ss]
  | union ss => rw [describe, Shape.flaw?, problem?_map, problem?_describeList ss]
  | object fs => rw [describe, Shape.flaw?, problem?_map, problem?_describeFields fs]
  | _ => rfl
termination_by structural s

theorem problem?_describeList (ss : List Shape) (path : Pointer) (i : Nat) :
    problem? (describeList host ss path i) = Shape.flawInParts? host ss := by
  cases ss with
  | nil => rfl
  | cons s ss =>
    rw [describeList, Shape.flawInParts?, problem?_both, problem?_describe s,
      problem?_describeList ss]
termination_by structural ss

theorem problem?_describeFields (fs : List (Value × Shape)) (path : Pointer) :
    problem? (describeFields host fs path) = Shape.flawInFields? host fs := by
  cases fs with
  | nil => rfl
  | cons f fs =>
    rw [describeFields, Shape.flawInFields?]
    refine problem?_entry path fun here => ?_
    rw [problem?_both, problem?_describe f.2, problem?_describeFields fs]
termination_by structural fs

end

/-- A shape is described where it can be written and its keys can be shown. -/
theorem exists_describe_iff {s : Shape} {path : Pointer} :
    (∃ d, describe host s path = .ok d) ↔
      s.isWritable = true ∧ s.AllNodes (Shape.ShowsKeys host) := by
  rw [← problem?_eq_none_iff, problem?_describe, Shape.flaw?_eq_none_iff]

end Definition

namespace JsonSchema

variable {host : Host}

mutual

theorem problem?_render (s : Shape) (path : Pointer) :
    problem? (render host s path) = s.flaw? host := by
  cases s with
  | literal v => rw [render, Shape.flaw?, problem?_map, Value.problem?_toPlain]
  | optional s => rw [render, Shape.flaw?, problem?_render s]
  | array s => rw [render, Shape.flaw?, problem?_map, problem?_render s]
  | tuple ss =>
    cases ss with
    | nil => rfl
    | cons s ss =>
      rw [render, Shape.flaw?, problem?_map, problem?_renderList (s :: ss)]
      exact List.cons_ne_nil s ss
  | union ss =>
    cases ss with
    | nil => rfl
    | cons s ss =>
      rw [render, Shape.flaw?, problem?_map, problem?_renderList (s :: ss)]
      exact List.cons_ne_nil s ss
  | object fs => rw [render, Shape.flaw?, problem?_map, problem?_renderFields fs]
  | _ => rfl
termination_by structural s

theorem problem?_renderList (ss : List Shape) (path : Pointer) (i : Nat) :
    problem? (renderList host ss path i) = Shape.flawInParts? host ss := by
  cases ss with
  | nil => rfl
  | cons s ss =>
    rw [renderList, Shape.flawInParts?, problem?_both, problem?_render s, problem?_renderList ss]
termination_by structural ss

theorem problem?_renderFields (fs : List (Value × Shape)) (path : Pointer) :
    problem? (renderFields host fs path) = Shape.flawInFields? host fs := by
  cases fs with
  | nil => rfl
  | cons f fs =>
    rw [renderFields, Shape.flawInFields?]
    refine problem?_entry path fun here => ?_
    rw [problem?_both, problem?_render f.2, problem?_renderFields fs]
termination_by structural fs

end

/-- A shape has a document where it can be written and its keys can be shown. -/
theorem exists_render_iff {s : Shape} {path : Pointer} :
    (∃ ks, render host s path = .ok ks) ↔
      s.isWritable = true ∧ s.AllNodes (Shape.ShowsKeys host) := by
  rw [← problem?_eq_none_iff, problem?_render, Shape.flaw?_eq_none_iff]

end JsonSchema

end DataShape
