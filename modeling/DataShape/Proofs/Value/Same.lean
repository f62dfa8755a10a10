-- SUMMARY: Equality of JSON data as the standard describes it, and its agreement with JSON equality as computed.
import DataShape.Proofs.Value.Keys

/-!
# Sameness

Two pieces of JSON data are the same when both are null, equal booleans, equal
texts, numbers of one value, arrays of the same items in order, or objects with
the same keys and the same data under each. Nothing else is the same, so a
boolean is never a number. On well-formed data, JSON equality computes this.
-/

namespace DataShape.Value

/-- The point that a number denotes. Booleans are no numbers here, and what is not a number denotes
none. -/
def point? : Value → Option Magnitude
  | .int n => some (Magnitude.ofInt n)
  | .float x => if x.isNaN then none else some x.magnitude
  | _ => none

def SameNumber (v w : Value) : Prop := ∃ x, v.point? = some x ∧ w.point? = some x

mutual

def Same : Value → Value → Prop
  | .null, w => w = .null
  | .bool b, w => w = .bool b
  | .int n, w => SameNumber (.int n) w
  | .float x, w => SameNumber (.float x) w
  | .str t, w => w = .str t
  | .array _ vs, w => ∃ form ws, w = .array form ws ∧ SameItems vs ws
  | .object _ es, w => ∃ form fs, w = .object form fs ∧
      (∀ key, (lookup key es).isSome = (lookup key fs).isSome) ∧ SameEntries es fs
  | _, _ => False
termination_by structural v => v

def SameItems : List Value → List Value → Prop
  | [], [] => True
  | v :: vs, w :: ws => Same v w ∧ SameItems vs ws
  | _, _ => False
termination_by structural vs => vs

/-- Whether each entry is the same as what stands under its key on the right. -/
def SameEntries : List (Value × Value) → List (Value × Value) → Prop
  | [], _ => True
  | (key, v) :: es, fs => (∃ w, lookup key fs = some w ∧ Same v w) ∧ SameEntries es fs
termination_by structural es => es

end

theorem sameNumber_int_iff {m n : Int} : SameNumber (.int m) (.int n) ↔ m = n := by
  have hinj : Dyadic.ofInt m = Dyadic.ofInt n ↔ m = n := by
    rw [← Dyadic.toRat_inj]
    change (m : Dyadic).toRat = (n : Dyadic).toRat ↔ m = n
    rw [Dyadic.toRat_intCast, Dyadic.toRat_intCast, Rat.intCast_inj]
  simp [SameNumber, point?, Magnitude.ofInt, hinj, eq_comm]

/-! ## Plain forms -/

theorem lookup_plainEntries (key : Value) (es : List (Value × Value)) :
    lookup key (plainEntries es) = (lookup key es).map plain := by
  rw [plainEntries_eq_map, lookup_map]

mutual

/-- Data is the same as a value when it is the same as its plain form. -/
theorem same_plain_iff (v w : Value) : v.Same w.plain ↔ v.Same w := by
  cases v with
  | array form vs =>
    cases w with
    | array form' ws => simp [Same, plain, sameItems_plainList_iff vs]
    | _ => simp [Same, plain]
  | object form es =>
    cases w with
    | object form' fs => simp [Same, plain, lookup_plainEntries, sameEntries_plainEntries_iff es]
    | _ => simp [Same, plain]
  | _ => cases w <;> simp [Same, plain, SameNumber, point?]
termination_by structural v

theorem sameItems_plainList_iff (vs ws : List Value) :
    SameItems vs (plainList ws) ↔ SameItems vs ws := by
  cases vs with
  | nil => cases ws <;> simp [SameItems, plainList]
  | cons v vs =>
    cases ws with
    | nil => simp [SameItems, plainList]
    | cons w ws => simp only [SameItems, plainList, same_plain_iff v, sameItems_plainList_iff vs]
termination_by structural vs

theorem sameEntries_plainEntries_iff (es fs : List (Value × Value)) :
    SameEntries es (plainEntries fs) ↔ SameEntries es fs := by
  cases es with
  | nil => simp [SameEntries]
  | cons e es =>
    simp [SameEntries, lookup_plainEntries, same_plain_iff e.2, sameEntries_plainEntries_iff es]
termination_by structural es

end

/-! ## JSON equality -/

/-- A number and another value are equal as JSON when they denote one point. -/
theorem jsonEq_iff_sameNumber {v w : Value} (hv : v.kind? = some .number) :
    v.jsonEq w = true ↔ SameNumber v w := by
  cases v with
  | int n =>
    cases w with
    | float y =>
      cases y <;>
        simp [jsonEq, SameNumber, point?, kind?, Value.eq, isNaN, looseEq, scalarEq, magnitude?,
          Binary64.isNaN, Binary64.magnitude, Magnitude.ofInt, eq_comm]
    | _ =>
      simp [jsonEq, SameNumber, point?, kind?, Value.eq, isNaN, looseEq, scalarEq, magnitude?,
        eq_comm]
  | float x =>
    cases w with
    | float y =>
      cases x <;> cases y <;>
        simp [jsonEq, SameNumber, point?, kind?, Value.eq, isNaN, looseEq, scalarEq, magnitude?,
          Binary64.isNaN, Binary64.magnitude, eq_comm]
    | _ =>
      cases x <;>
        simp [jsonEq, SameNumber, point?, kind?, Value.eq, isNaN, looseEq, scalarEq, magnitude?,
          Binary64.isNaN, Binary64.magnitude, eq_comm]
  | _ => cases hv

mutual

theorem jsonEq_iff_same (v w : Value) (hv : v.isJson = true) (hw : w.isJson = true)
    (hv' : v.isWellFormed = true) (hw' : w.isWellFormed = true) :
    v.jsonEq w = true ↔ v.Same w := by
  cases v with
  | array form vs =>
    cases w with
    | array form' ws =>
      have hitems := jsonEqList_iff_sameItems vs ws hv hw hv' hw'
      simpa [jsonEq, Same] using hitems
    | _ => simp [jsonEq, Same, kind?]
  | object form es =>
    cases w with
    | object form' fs =>
      simp only [isWellFormed, Bool.and_eq_true] at hv' hw'
      have hkeys := sameKeys_iff (isJsonEntries_iff.1 hv).1 (isJsonEntries_iff.1 hw).1 hv'.1 hw'.1
      have hentries := jsonEqEntries_iff_sameEntries es fs hv hw hv'.2 hw'.2
      simp [jsonEq, Same, hkeys, hentries]
    | _ => simp [jsonEq, Same, kind?]
  | bool b =>
    cases w with
    | bool c =>
      have heq : (bool b).jsonEq (bool c) = decide (c = b) := by cases b <;> cases c <;> decide
      simp [heq, Same]
    | _ => simp [jsonEq, Same, kind?]
  | null => cases w <;> simp [jsonEq, Same, kind?, Value.eq, isNaN, looseEq, scalarEq]
  | str t => cases w <;> simp [jsonEq, Same, kind?, Value.eq, isNaN, looseEq, scalarEq, eq_comm]
  | int n => exact jsonEq_iff_sameNumber rfl
  | float x => exact jsonEq_iff_sameNumber rfl
  | _ => cases hv
termination_by structural v

theorem jsonEqList_iff_sameItems (vs ws : List Value)
    (hvs : isJsonList vs = true) (hws : isJsonList ws = true)
    (hvs' : isWellFormedList vs = true) (hws' : isWellFormedList ws = true) :
    vs.length = ws.length ∧ jsonEqList vs ws = true ↔ SameItems vs ws := by
  cases vs with
  | nil => cases ws <;> simp [jsonEqList, SameItems]
  | cons v vs =>
    cases ws with
    | nil => simp [SameItems]
    | cons w ws =>
      simp only [isJsonList, isWellFormedList, Bool.and_eq_true] at hvs hws hvs' hws'
      have hitem := jsonEq_iff_same v w hvs.1 hws.1 hvs'.1 hws'.1
      have hrest := jsonEqList_iff_sameItems vs ws hvs.2 hws.2 hvs'.2 hws'.2
      simp only [jsonEqList, SameItems, Bool.and_eq_true, hitem, ← hrest, List.length_cons,
        Nat.add_right_cancel_iff]
      exact and_left_comm
termination_by structural vs

theorem jsonEqEntries_iff_sameEntries (es fs : List (Value × Value))
    (hes : isJsonEntries es = true) (hfs : isJsonEntries fs = true)
    (hes' : isWellFormedEntries es = true) (hfs' : isWellFormedEntries fs = true) :
    jsonEqEntries es fs = true ↔ SameEntries es fs := by
  cases es with
  | nil => simp [jsonEqEntries, SameEntries]
  | cons e es =>
    simp only [isJsonEntries, isWellFormedEntries, Bool.and_eq_true] at hes hes'
    have hrest := jsonEqEntries_iff_sameEntries es fs hes.2 hfs hes'.2 hfs'
    simp only [jsonEqEntries, SameEntries, Bool.and_eq_true, hrest]
    refine and_congr_left' ?_
    cases hw : lookup e.1 fs with
    | none => simp
    | some w =>
      have hmem := mem_of_lookup (isJsonEntries_iff.1 hfs).1 hw
      have hjson := (isJsonEntries_iff.1 hfs).2 _ hmem
      have hformed := (isWellFormedEntries_iff.1 hfs' _ hmem).2
      simpa using jsonEq_iff_same e.2 w hes.1.2 hjson hes'.1.2 hformed
termination_by structural es

end

end DataShape.Value
