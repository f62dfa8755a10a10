-- SUMMARY: The rules by which the metaschema refuses documents, and which of them a rendered document can break.
import DataShape.Proofs.JsonSchema.Metaschema

/-!
# Rules of the metaschema

A check against the metaschema refuses a document for a keyword whose argument
has the wrong form, or holds a document that is refused. The rules here are
those for the keywords that are rendered, on any document. They say nothing of
constants, and nothing of the keys of properties.
-/

namespace DataShape.JsonSchema

variable {host : Host}

/-- Whether a value is a number that counts something. -/
def IsCount (v : Value) : Prop := ∃ n : Nat, v.SameNumber (.int n)

/-- Whether a value is a list of distinct texts. -/
def IsDistinctTexts (v : Value) : Prop := ∃ names : List Text, names.Nodup ∧ v = .list (names.map .str)

mutual

/-- Whether a value is a document that the rules let pass. -/
def ObeysRules : Value → Prop
  | .bool _ => True
  | .object _ keywords => KeywordsObey keywords
  | _ => False
termination_by structural document => document

def KeywordsObey : List (Value × Value) → Prop
  | [] => True
  | (key, argument) :: rest =>
    (match Keyword.ofKey? key with
      | some .items => ObeysRules argument
      | some .not => ObeysRules argument
      | some .prefixItems =>
        match argument with
        | .array _ documents => documents ≠ [] ∧ EachObeys documents
        | _ => False
      | some .anyOf =>
        match argument with
        | .array _ documents => documents ≠ [] ∧ EachObeys documents
        | _ => False
      | some .properties =>
        match argument with
        | .object _ properties => PropertiesObey properties
        | _ => False
      | some .minItems => IsCount argument
      | some .maxItems => IsCount argument
      | some .required => IsDistinctTexts argument
      | _ => True)
    ∧ KeywordsObey rest
termination_by structural keywords => keywords

def EachObeys : List Value → Prop
  | [] => True
  | d :: ds => ObeysRules d ∧ EachObeys ds
termination_by structural documents => documents

def PropertiesObey : List (Value × Value) → Prop
  | [] => True
  | (_, d) :: properties => ObeysRules d ∧ PropertiesObey properties
termination_by structural properties => properties

end

theorem eachObeys_iff {ds : List Value} : EachObeys ds ↔ ∀ d ∈ ds, ObeysRules d := by
  induction ds with
  | nil => simp [EachObeys]
  | cons d ds ih => simp [EachObeys, ih]

theorem propertiesObey_iff {ps : List (Value × Value)} :
    PropertiesObey ps ↔ ∀ e ∈ ps, ObeysRules e.2 := by
  induction ps with
  | nil => simp [PropertiesObey]
  | cons e ps ih => simp only [PropertiesObey, ih, List.forall_mem_cons]

theorem isCount_natCast (n : Nat) : IsCount (.int n) := ⟨n, Value.sameNumber_int_iff.2 rfl⟩

theorem judgesRequired_obeysRules :
    JudgesRequired ObeysRules KeywordsObey fun keys => IsDistinctTexts (.list keys) where
  document _ := Iff.rfl
  type _ := ⟨trivial, trivial⟩
  const _ := ⟨trivial, trivial⟩
  nothing := ⟨trivial, trivial⟩
  noItems := ⟨trivial, isCount_natCast 0, trivial⟩
  items d := by
    change True ∧ ObeysRules d ∧ True ↔ _
    rw [true_and, and_true]
  prefixItems ds n hds := by
    change True ∧ (ds ≠ [] ∧ EachObeys ds) ∧ IsCount (.int n) ∧ IsCount (.int n) ∧ True ↔ _
    simp only [eachObeys_iff, isCount_natCast, and_true, true_and, and_iff_right hds]
  anyOf ds hds := by
    change (ds ≠ [] ∧ EachObeys ds) ∧ True ↔ _
    rw [and_true, and_iff_right hds, eachObeys_iff]
  properties ps := by
    change True ∧ PropertiesObey ps ∧ True ↔ _
    rw [true_and, and_true, propertiesObey_iff]
  required ps keys := by
    change True ∧ PropertiesObey ps ∧ IsDistinctTexts (.list keys) ∧ True ↔ _
    rw [true_and, and_true, propertiesObey_iff]
  noRequired := ⟨[], List.nodup_nil, rfl⟩

theorem isDistinctTexts_requiredKeys_iff {fs : List (Value × Shape)}
    (hdistinct : Value.distinctKeys fs = true) :
    IsDistinctTexts (.list (requiredKeys fs)) ↔ RequiresTexts (.object fs) := by
  constructor
  · rintro ⟨names, -, hnames⟩ key hkey
    obtain ⟨-, hkeys⟩ := Value.array.inj hnames
    rw [hkeys] at hkey
    obtain ⟨name, -, rfl⟩ := List.mem_map.1 hkey
    rfl
  · intro h
    obtain ⟨names, hnodup, hnames⟩ := exists_texts_of_requiresTexts hdistinct h
    exact ⟨names, hnodup, congrArg Value.list hnames⟩

/-- A rendered document breaks a rule exactly where a record of the shape requires a key that is no
text. -/
theorem keywordsObey_render_iff {s : Shape} (hs : s.isWellFormed = true) {path : Pointer}
    {ks : List (Value × Value)} (h : render host s path = .ok ks) :
    KeywordsObey ks ↔ s.AllNodes RequiresTexts := by
  rw [judgesRequired_obeysRules.render_iff h]
  refine forall₂_congr fun t ht => ?_
  cases t with
  | object fs =>
    have hformed := Shape.isWellFormed_of_occurs ht hs
    exact isDistinctTexts_requiredKeys_iff (Bool.and_eq_true_iff.1 hformed).1
  | _ => exact Iff.rfl

end DataShape.JsonSchema
