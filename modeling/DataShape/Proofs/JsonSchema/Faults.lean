-- SUMMARY: Exporting and describing a shape fail alike, and the check after the export fails on required keys only.
import DataShape.Proofs.Definition.RoundTrip
import DataShape.Proofs.JsonSchema.Rules

/-!
# Faults of exports

Rendering and describing stop at the same flaw. The check that follows the
rendering judges the document by the rules of the metaschema: what is rendered
can break only one of them, that required keys are texts. The key that the
check reports was in a pointer before, so it can be shown.
-/

namespace DataShape.JsonSchema

variable {host : Host}

open Shape (Occurs)

/-! ## The document before the check -/

theorem problem?_rendered (s : Shape) :
    problem? (rendered host s) =
      problem? (do Definition.describe host (← s.top) .root) := by
  cases hnode : s.top with
  | error e =>
    rw [rendered, hnode]
    rfl
  | ok node =>
    rw [rendered_of_top hnode, problem?_map, problem?_render]
    exact (Definition.problem?_describe node .root).symm

section
variable {s node : Shape} {d : Value}

theorem obeysRules_rendered_iff (hnode : s.top = .ok node) (hformed : node.isWellFormed = true)
    (h : rendered host s = .ok d) : ObeysRules d ↔ node.AllNodes RequiresTexts := by
  obtain ⟨ks, hks, rfl⟩ := Except.map_eq_ok.1 ((rendered_of_top hnode).symm.trans h)
  rw [← keywordsObey_render_iff hformed hks]
  exact and_iff_right trivial

theorem badRequired?_rendered_eq_none_iff (hnode : s.top = .ok node) (h : rendered host s = .ok d) :
    badRequired? d = none ↔ node.AllNodes RequiresTexts := by
  obtain ⟨ks, hks, rfl⟩ := Except.map_eq_ok.1 ((rendered_of_top hnode).symm.trans h)
  rw [← judgesRequired_badRequired?.render_iff hks]
  rfl

theorem checked_eq_error_iff {key : Value} :
    checked d = .error ⟨.requiredNotText key, none⟩ ↔ badRequired? d = some key := by
  unfold checked
  cases badRequired? d <;> simp

/-- The key that the check finds stood in a pointer. -/
theorem showFault?_of_badRequired? (hnode : s.top = .ok node) (h : rendered host s = .ok d)
    {key : Value} (hkey : badRequired? d = some key) : key.showFault? host.showing = none := by
  obtain ⟨ks, hks, rfl⟩ := Except.map_eq_ok.1 ((rendered_of_top hnode).symm.trans h)
  obtain ⟨fs, hfs, f, hf, rfl⟩ := exists_record_of_badRequired? hks hkey
  exact Option.isNone_iff_eq_none.1 ((exists_render_iff.1 ⟨ks, hks⟩).2 _ hfs f hf)

theorem ofShape_of_rendered (h : rendered host s = .ok d) :
    ofShape host s = raising host (checked d) := by
  rw [ofShape, h]
  rfl

theorem exists_ofShape_eq_schema_iff (hnode : s.top = .ok node) (h : rendered host s = .ok d) :
    (∃ key, ofShape host s = .error (.schema ⟨.requiredNotText key, none⟩)) ↔
      badRequired? d ≠ none := by
  rw [Option.ne_none_iff_exists', ofShape_of_rendered h]
  refine exists_congr fun key => ?_
  rw [raising_eq_schema_iff, checked_eq_error_iff]
  exact and_iff_left_of_imp (showFault?_of_badRequired? hnode h)

end

/-- Exporting and describing fail on the same shapes with the same problem, at places of their own.
The check refuses what is rendered exactly when it breaks a rule of the metaschema, and that takes
a field which is required under a key that is no text. -/
theorem ofShape_faults {s : Shape} (hs : s.isWellFormed = true) :
    ((∃ problem p q, rendered host s = .error ⟨problem, p⟩ ∧
        ofShape host s = .error (SchemaFault.raised host ⟨problem, p⟩) ∧
        Definition.ofShape host s = .error (SchemaFault.raised host ⟨problem, q⟩)) ∨
      ∃ d e, rendered host s = .ok d ∧ Definition.ofShape host s = .ok e) ∧
    ∀ node d, s.top = .ok node → rendered host s = .ok d →
      ((∃ key, ofShape host s = .error (.schema ⟨.requiredNotText key, none⟩)) ↔
        RequiresOther node) ∧
      (ofShape host s = .ok d ↔ ObeysRules d) ∧
      (¬ ObeysRules d ↔ RequiresOther node) ∧
      ((∀ fs, Occurs (.object fs) node → Value.HasTextKeys fs) → ofShape host s = .ok d) := by
  constructor
  · have hsame := @problem?_rendered host s
    cases hproblem : problem? (rendered host s) with
    | some problem =>
      obtain ⟨p, hp⟩ := problem?_eq_some_iff.1 hproblem
      obtain ⟨q, hq⟩ := problem?_eq_some_iff.1 (hsame.symm.trans hproblem)
      refine .inl ⟨problem, p, q, hp, ?_, ?_⟩
      · rw [ofShape, hp]
        rfl
      · rw [Definition.ofShape, hq]
        rfl
    | none =>
      obtain ⟨d, hd⟩ := problem?_eq_none_iff.1 hproblem
      obtain ⟨e, he⟩ := problem?_eq_none_iff.1 (hsame.symm.trans hproblem)
      exact .inr ⟨d, e, hd, raising_eq_ok_iff.2 he⟩
  · intro node d hnode hd
    have hrules := obeysRules_rendered_iff hnode (Shape.isWellFormed_of_top hnode hs) hd
    have hrequired := badRequired?_rendered_eq_none_iff hnode hd
    have hok : ofShape host s = .ok d ↔ badRequired? d = none :=
      ofShape_eq_ok_iff.trans (and_iff_right hd)
    rw [exists_ofShape_eq_schema_iff hnode hd, hok, Ne, hrules, hrequired,
      not_allNodes_requiresTexts_iff]
    exact ⟨Iff.rfl, Iff.rfl, Iff.rfl, allNodes_requiresTexts_of_hasTextKeys⟩

/-- A set before a node that is no shape is what both walks stop at. A field under null is in order
where it may be absent, and where it is required, at any depth, the check fails. -/
theorem ofShape_faults_set_and_null_key :
    let flawed : Shape := .object [(.null, .number),
      (.ofString "a", .literal (.list [.set []])), (.ofString "b", .foreign .null)]
    let underNull (s : Shape) : Shape := .sealed (.union [.null, .array (.object [(.null, s)])])
    (∃ p q, ofShape .shallow flawed = .error (.schema ⟨.noJsonForm (.set []), p⟩) ∧
      Definition.ofShape .shallow flawed = .error (.schema ⟨.noJsonForm (.set []), q⟩)) ∧
    (∃ d, ofShape .shallow (underNull (.optional .string)) = .ok d ∧ ObeysRules d) ∧
    ∃ key, ofShape .shallow (underNull .string) =
      .error (.schema ⟨.requiredNotText key, none⟩) := by
  intro flawed underNull
  refine ⟨?_, ?_, ?_⟩
  · have hrendered : ∃ p, rendered .shallow flawed = .error ⟨.noJsonForm (.set []), p⟩ :=
      ⟨_, rfl⟩
    obtain ⟨p, hp⟩ := hrendered
    have hfaults := @ofShape_faults .shallow flawed rfl
    obtain ⟨⟨problem, p', q, hp', hexport, hdescribe⟩ | ⟨d, e, hd, -⟩, -⟩ := hfaults
    · obtain ⟨rfl, rfl⟩ := SchemaFault.mk.inj (Except.error.inj (hp.symm.trans hp'))
      exact ⟨p, q, hexport, hdescribe⟩
    · cases hp.symm.trans hd
  · obtain ⟨d, hd⟩ : ∃ d, ofShape .shallow (underNull (.optional .string)) = .ok d := ⟨_, rfl⟩
    obtain ⟨-, h⟩ := @ofShape_faults .shallow (underNull (.optional .string)) rfl
    exact ⟨d, hd, (h _ d rfl (ofShape_eq_ok_iff.1 hd).1).2.1.1 hd⟩
  · obtain ⟨d, hd⟩ : ∃ d, rendered .shallow (underNull .string) = .ok d := ⟨_, rfl⟩
    obtain ⟨-, h⟩ := @ofShape_faults .shallow (underNull .string) rfl
    have hoccurs : Occurs (.object [(.null, .string)])
        (.union [.null, .array (.object [(.null, .string)])]) :=
      .union (List.mem_cons_of_mem _ List.mem_cons_self) (.array .here)
    exact (h _ d rfl hd).1.2 ⟨_, hoccurs, _, List.mem_cons_self, rfl, nofun⟩

end DataShape.JsonSchema
