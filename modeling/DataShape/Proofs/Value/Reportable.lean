-- SUMMARY: Values about which every fault can be put into words: without references, and with keys that can be shown.
import DataShape.Definition.Document
import DataShape.Proofs.Value.Keys

/-!
# Values that can be reported

A fault names a key of a mapping, or a value by its type. The message can be
made unless the key cannot be shown, and it is about the document unless the
value is the place where its content was cut off.
-/

namespace DataShape

/-- Whether a fault is about the document itself and has a message that can be made. -/
def SchemaFault.isReportable (host : Host) (f : SchemaFault) : Bool :=
  !Definition.meetsCut (.schema f) && (f.problem.showFault? host).isNone

variable {host : Host}

theorem isReportable_keyNotText {key : Value} (h : key.isShowable host = true)
    (path : Option Pointer) : (SchemaFault.mk (.keyNotText key) path).isReportable host = true := h

theorem SchemaFault.raised_of_isReportable {f : SchemaFault} (h : f.isReportable host = true) :
    f.raised host = .schema f := by
  obtain ⟨-, hshow⟩ := Bool.and_eq_true_iff.1 h
  exact raised_eq_schema_iff.2 ⟨rfl, Option.isNone_iff_eq_none.1 hshow⟩

theorem SchemaFault.meetsCut_of_isReportable {f : SchemaFault} (h : f.isReportable host = true) :
    Definition.meetsCut (.schema f) = false := by
  obtain ⟨hcut, -⟩ := Bool.and_eq_true_iff.1 h
  rwa [Bool.not_eq_true'] at hcut

/-- Every fault that a result may be is reportable, or tells the limit on depth. -/
def Reports {α : Type} (host : Host) (limit : Int) (o : Except SchemaFault α) : Prop :=
  ∀ f, o = .error f → f.isReportable host = true ∨ f.problem = .tooDeep limit

namespace Reports

variable {α β : Type} {limit : Int} {o : Except SchemaFault α}

theorem ok (a : α) : Reports host limit (.ok a : Except SchemaFault α) := nofun

theorem error {f : SchemaFault} (h : f.isReportable host = true) :
    Reports host limit (.error f : Except SchemaFault α) := by
  intro f' hf
  cases hf
  exact .inl h

theorem tooDeep (path : Option Pointer) :
    Reports host limit (.error ⟨.tooDeep limit, path⟩ : Except SchemaFault α) := by
  intro f hf
  cases hf
  exact .inr rfl

theorem map (h : Reports host limit o) (g : α → β) : Reports host limit (o.map g) := by
  cases o with
  | ok a => exact .ok (g a)
  | error f =>
    rintro _ ⟨⟩
    exact h f rfl

theorem bind {k : α → Except SchemaFault β} (h : Reports host limit o)
    (hk : ∀ a, Reports host limit (k a)) : Reports host limit (o >>= k) := by
  cases o with
  | ok a => exact hk a
  | error f =>
    rintro _ ⟨⟩
    exact h f rfl

end Reports

namespace Value

mutual

/-- Whether no reference is among the parts of a value, and all keys in it can be shown. -/
def isReportable (host : Host) : Value → Bool
  | .array _ items => isReportableList host items
  | .object _ entries => isReportableEntries host entries
  | .reference _ => false
  | _ => true
termination_by structural v => v

def isReportableList (host : Host) : List Value → Bool
  | [] => true
  | v :: vs => isReportable host v && isReportableList host vs
termination_by structural vs => vs

def isReportableEntries (host : Host) : List (Value × Value) → Bool
  | [] => true
  | (key, v) :: rest => key.isShowable host && isReportable host v && isReportableEntries host rest
termination_by structural es => es

end

theorem isReportableList_iff {vs : List Value} :
    isReportableList host vs = true ↔ ∀ v ∈ vs, v.isReportable host = true := by
  induction vs with
  | nil => simp [isReportableList]
  | cons v vs ih => simp [isReportableList, ih]

theorem isReportableEntries_iff {es : List (Value × Value)} :
    isReportableEntries host es = true ↔
      ∀ e ∈ es, e.1.isShowable host = true ∧ e.2.isReportable host = true := by
  induction es with
  | nil => simp [isReportableEntries]
  | cons e es ih => simp [isReportableEntries, ih, and_assoc]

mutual

/-- JSON data can be reported: its keys are texts. -/
theorem isReportable_of_isJson (v : Value) (h : v.isJson = true) : v.isReportable host = true := by
  cases v with
  | array form items => exact isReportableList_of_isJson items h
  | object form entries => exact isReportableEntries_of_isJson entries h
  | reference id => cases h
  | _ => rfl
termination_by structural v

theorem isReportableList_of_isJson (vs : List Value) (h : isJsonList vs = true) :
    isReportableList host vs = true := by
  cases vs with
  | nil => rfl
  | cons v vs =>
    obtain ⟨hv, hvs⟩ := Bool.and_eq_true_iff.1 h
    rw [isReportableList, isReportable_of_isJson v hv, isReportableList_of_isJson vs hvs]
    rfl
termination_by structural vs

theorem isReportableEntries_of_isJson (es : List (Value × Value)) (h : isJsonEntries es = true) :
    isReportableEntries host es = true := by
  cases es with
  | nil => rfl
  | cons e es =>
    obtain ⟨hentry, hes⟩ := Bool.and_eq_true_iff.1 h
    obtain ⟨hkey, hv⟩ := Bool.and_eq_true_iff.1 hentry
    obtain ⟨t, ht⟩ := kind?_eq_string_iff.1 (of_decide_eq_true hkey)
    rw [isReportableEntries, ht, isReportable_of_isJson e.2 hv, isReportableEntries_of_isJson es hes]
    rfl
termination_by structural es

end

/-! ## Faults of plain forms -/

variable {limit : Int}

mutual

theorem toPlain_reports (v : Value) (path : Pointer) (h : v.isReportable host = true) :
    Reports host limit (v.toPlain path) := by
  cases v with
  | array form items => exact (toPlainList_reports items path 0 h).map _
  | object form entries => exact (toPlainEntries_reports entries path h).map _
  | reference id => cases h
  | _ => first | exact .ok _ | exact .error rfl
termination_by structural v

theorem toPlainList_reports (vs : List Value) (path : Pointer) (i : Nat)
    (h : isReportableList host vs = true) : Reports host limit (toPlainList vs path i) := by
  cases vs with
  | nil => exact .ok _
  | cons v vs =>
    obtain ⟨hv, hvs⟩ := Bool.and_eq_true_iff.1 h
    refine .bind (toPlain_reports v _ hv) fun w => ?_
    exact .bind (toPlainList_reports vs path (i + 1) hvs) fun ws => .ok _
termination_by structural vs

theorem toPlainEntries_reports (es : List (Value × Value)) (path : Pointer)
    (h : isReportableEntries host es = true) : Reports host limit (toPlainEntries es path) := by
  cases es with
  | nil => exact .ok _
  | cons e es =>
    obtain ⟨key, v⟩ := e
    obtain ⟨hentry, hes⟩ := Bool.and_eq_true_iff.1 h
    obtain ⟨hkey, hv⟩ := Bool.and_eq_true_iff.1 hentry
    cases key with
    | str t =>
      refine .bind (toPlain_reports v _ hv) fun w => ?_
      exact .bind (toPlainEntries_reports es path hes) fun ws => .ok _
    | _ => exact .error (isReportable_keyNotText hkey _)
termination_by structural es

end

end Value

end DataShape
