-- SUMMARY: Conformance as a property of a shape and a value, decided by the walk.
import DataShape.Shape.Conforms
import DataShape.Proofs.Value.Keys

/-!
# Satisfaction

What each form of a shape asks of a value, with no order in which parts are
looked at. On a tree that holds shapes proper only, the walk always comes to an
end and decides it.
-/

namespace DataShape

/-! ## Checks that decide -/

/-- A check comes to an end, with the truth of a property. -/
def Decides {ε : Type} (r : Except ε Bool) (p : Prop) : Prop :=
  ∃ b, r = .ok b ∧ (b = true ↔ p)

namespace Decides

variable {ε α : Type} {r : Except ε Bool} {p q : Prop}

theorem ok {b : Bool} (h : b = true ↔ p) : Decides (.ok b : Except ε Bool) p := ⟨b, rfl, h⟩

theorem trans (h : Decides r p) (hpq : p ↔ q) : Decides r q := by
  obtain ⟨b, hb, hp⟩ := h
  exact ⟨b, hb, hp.trans hpq⟩

/-- A check that goes on with another when one passes, and stops there when it does not. -/
theorem and {c : Except ε Bool} (h : Decides r p) (hgo : r = .ok true → Decides c q)
    (hstop : r = .ok false → c = .ok false) : Decides c (p ∧ q) := by
  obtain ⟨b, hr, hp⟩ := h
  cases b with
  | true => exact (hgo hr).trans (by simp [← hp])
  | false => exact ⟨false, hstop hr, by simp [← hp]⟩

/-- A check that goes on with another when one does not pass, and stops there when it does. -/
theorem or {c : Except ε Bool} (h : Decides r p) (hgo : r = .ok false → Decides c q)
    (hstop : r = .ok true → c = .ok true) : Decides c (p ∨ q) := by
  obtain ⟨b, hr, hp⟩ := h
  cases b with
  | true => exact ⟨true, hstop hr, by simp [← hp]⟩
  | false => exact (hgo hr).trans (by simp [← hp])

theorem allOrFail {test : α → Except ε Bool} {p : α → Prop} {l : List α}
    (h : ∀ a ∈ l, Decides (test a) (p a)) : Decides (allOrFail test l) (∀ a ∈ l, p a) := by
  induction l with
  | nil => exact ok (by simp)
  | cons a l ih =>
    have hl := ih fun c hc => h c (List.mem_cons_of_mem _ hc)
    rw [List.forall_mem_cons]
    refine (h a List.mem_cons_self).and ?_ ?_
    · intro ha
      simpa only [DataShape.allOrFail, ha] using hl
    · intro ha
      simp only [DataShape.allOrFail, ha]

end Decides

namespace Shape

variable {host : Host}

/-! ## What a shape asks -/

mutual

/-- Whether a value is as a shape asks. No value is, of a node that is no shape. -/
def Satisfies : Shape → Value → Prop
  | .null, v => v.kind? = some .null
  | .boolean, v => v.kind? = some .boolean
  | .number, v => v.kind? = some .number
  | .string, v => v.kind? = some .string
  | .literal x, v => v.jsonEq x = true
  | .optional s, v => v = .absent ∨ Satisfies s v
  | .array s, v => ∃ form items, v = .array form items ∧ ∀ w ∈ items, Satisfies s w
  | .tuple ss, v => ∃ form items, v = .array form items ∧ SatisfiesEach ss items
  | .union ss, v => SatisfiesSome ss v
  | .object fs, v => ∃ form entries, v = .object form entries ∧ SatisfiesFields fs entries
  | .foreign _, _ => False
  | .sealed _, _ => False
termination_by structural s => s

/-- Position by position, in lists of one length. -/
def SatisfiesEach : List Shape → List Value → Prop
  | [], [] => True
  | s :: ss, v :: vs => Satisfies s v ∧ SatisfiesEach ss vs
  | _, _ => False
termination_by structural ss => ss

def SatisfiesSome : List Shape → Value → Prop
  | [], _ => False
  | s :: ss, v => Satisfies s v ∨ SatisfiesSome ss v
termination_by structural ss => ss

/-- Each declared field by the entry under its key, or by absence. -/
def SatisfiesFields : List (Value × Shape) → List (Value × Value) → Prop
  | [], _ => True
  | (key, s) :: fs, entries =>
    Satisfies s ((Value.lookup key entries).getD .absent) ∧ SatisfiesFields fs entries
termination_by structural fs => fs

end

/-! ## Trees of shapes proper -/

mutual

/-- Whether a tree holds shapes proper only, with `p` true of the value of each literal. -/
def allLiterals (p : Value → Bool) : Shape → Bool
  | .literal v => p v
  | .optional s => allLiterals p s
  | .array s => allLiterals p s
  | .tuple ss => allLiteralsList p ss
  | .union ss => allLiteralsList p ss
  | .object fs => allLiteralsFields p fs
  | .foreign _ => false
  | .sealed _ => false
  | _ => true
termination_by structural s => s

def allLiteralsList (p : Value → Bool) : List Shape → Bool
  | [] => true
  | s :: ss => allLiterals p s && allLiteralsList p ss
termination_by structural ss => ss

def allLiteralsFields (p : Value → Bool) : List (Value × Shape) → Bool
  | [] => true
  | (_, s) :: fs => allLiterals p s && allLiteralsFields p fs
termination_by structural fs => fs

end

theorem allLiteralsList_iff {p : Value → Bool} {ss : List Shape} :
    allLiteralsList p ss = true ↔ ∀ s ∈ ss, s.allLiterals p = true := by
  induction ss with
  | nil => simp [allLiteralsList]
  | cons s ss ih => simp [allLiteralsList, ih]

theorem allLiteralsFields_iff {p : Value → Bool} {fs : List (Value × Shape)} :
    allLiteralsFields p fs = true ↔ ∀ f ∈ fs, f.2.allLiterals p = true := by
  induction fs with
  | nil => simp [allLiteralsFields]
  | cons f fs ih => simp only [allLiteralsFields, Bool.and_eq_true, ih, List.forall_mem_cons]

def isProper (s : Shape) : Bool := s.allLiterals fun _ => true

/-- Whether a shape can be written as a document: no literal holds what JSON cannot write. -/
def isWritable (s : Shape) : Bool := s.allLiterals Value.isJson

mutual

theorem allLiterals_mono {p q : Value → Bool} (hpq : ∀ v, p v = true → q v = true) (s : Shape)
    (h : s.allLiterals p = true) : s.allLiterals q = true := by
  cases s with
  | literal v => exact hpq v h
  | optional s => exact allLiterals_mono hpq s h
  | array s => exact allLiterals_mono hpq s h
  | tuple ss => exact allLiteralsList_mono hpq ss h
  | union ss => exact allLiteralsList_mono hpq ss h
  | object fs => exact allLiteralsFields_mono hpq fs h
  | foreign v => cases h
  | sealed s => cases h
  | _ => rfl
termination_by structural s

theorem allLiteralsList_mono {p q : Value → Bool} (hpq : ∀ v, p v = true → q v = true)
    (ss : List Shape) (h : allLiteralsList p ss = true) : allLiteralsList q ss = true := by
  cases ss with
  | nil => rfl
  | cons s ss =>
    simp only [allLiteralsList, Bool.and_eq_true] at h ⊢
    exact ⟨allLiterals_mono hpq s h.1, allLiteralsList_mono hpq ss h.2⟩
termination_by structural ss

theorem allLiteralsFields_mono {p q : Value → Bool} (hpq : ∀ v, p v = true → q v = true)
    (fs : List (Value × Shape)) (h : allLiteralsFields p fs = true) :
    allLiteralsFields q fs = true := by
  cases fs with
  | nil => rfl
  | cons f fs =>
    simp only [allLiteralsFields, Bool.and_eq_true] at h ⊢
    exact ⟨allLiterals_mono hpq f.2 h.1, allLiteralsFields_mono hpq fs h.2⟩
termination_by structural fs

end

theorem isProper_of_allLiterals {p : Value → Bool} {s : Shape} (h : s.allLiterals p = true) :
    s.isProper = true :=
  allLiterals_mono (fun _ _ => rfl) s h

/-! ## Well-formed trees -/

mutual

/-- Whether the values in a tree are well-formed and the keys of each record are distinct. -/
def isWellFormed : Shape → Bool
  | .literal v => v.isWellFormed
  | .optional s => isWellFormed s
  | .array s => isWellFormed s
  | .tuple ss => isWellFormedList ss
  | .union ss => isWellFormedList ss
  | .object fs => Value.distinctKeys fs && isWellFormedFields fs
  | .foreign v => v.isWellFormed
  | .sealed s => isWellFormed s
  | _ => true
termination_by structural s => s

def isWellFormedList : List Shape → Bool
  | [] => true
  | s :: ss => isWellFormed s && isWellFormedList ss
termination_by structural ss => ss

def isWellFormedFields : List (Value × Shape) → Bool
  | [] => true
  | (key, s) :: fs => key.isWellFormed && isWellFormed s && isWellFormedFields fs
termination_by structural fs => fs

end

theorem isWellFormedList_iff {ss : List Shape} :
    isWellFormedList ss = true ↔ ∀ s ∈ ss, s.isWellFormed = true := by
  induction ss with
  | nil => simp [isWellFormedList]
  | cons s ss ih => simp [isWellFormedList, ih]

theorem isWellFormedFields_iff {fs : List (Value × Shape)} :
    isWellFormedFields fs = true ↔
      ∀ f ∈ fs, f.1.isWellFormed = true ∧ f.2.isWellFormed = true := by
  induction fs with
  | nil => simp [isWellFormedFields]
  | cons f fs ih => simp only [isWellFormedFields, Bool.and_eq_true, ih, List.forall_mem_cons]

theorem isWellFormed_of_top {s node : Shape} (h : s.top = .ok node) (hs : s.isWellFormed = true) :
    node.isWellFormed = true := by
  cases s with
  | foreign v => cases h
  | _ =>
    cases h
    exact hs

/-! ## The walk decides satisfaction -/

theorem satisfies_array_iff {s : Shape} {form : ArrayForm} {items : List Value} :
    (array s).Satisfies (.array form items) ↔ ∀ w ∈ items, s.Satisfies w := by
  constructor
  · rintro ⟨_, _, ⟨rfl, rfl⟩, h⟩
    exact h
  · intro h
    exact ⟨form, items, rfl, h⟩

theorem satisfies_tuple_iff {ss : List Shape} {form : ArrayForm} {items : List Value} :
    (tuple ss).Satisfies (.array form items) ↔ SatisfiesEach ss items := by
  constructor
  · rintro ⟨_, _, ⟨rfl, rfl⟩, h⟩
    exact h
  · intro h
    exact ⟨form, items, rfl, h⟩

theorem satisfies_object_iff {fs : List (Value × Shape)} {form : ObjectForm}
    {entries : List (Value × Value)} :
    (object fs).Satisfies (.object form entries) ↔ SatisfiesFields fs entries := by
  constructor
  · rintro ⟨_, _, ⟨rfl, rfl⟩, h⟩
    exact h
  · intro h
    exact ⟨form, entries, rfl, h⟩

theorem SatisfiesEach.length_eq {ss : List Shape} {vs : List Value} (h : SatisfiesEach ss vs) :
    vs.length = ss.length := by
  induction ss generalizing vs with
  | nil =>
    cases vs with
    | nil => rfl
    | cons v vs => exact h.elim
  | cons s ss ih =>
    cases vs with
    | nil => exact h.elim
    | cons v vs => rw [List.length_cons, List.length_cons, ih h.2]

mutual

theorem conforms_decides (s : Shape) (hs : s.isProper = true) (v : Value) :
    Decides (s.conforms v) (s.Satisfies v) := by
  cases s with
  | null => exact .ok (by simp [Satisfies])
  | boolean => exact .ok (by simp [Satisfies])
  | number => exact .ok (by simp [Satisfies, Value.isNumber])
  | string => exact .ok (by simp [Satisfies])
  | literal x => exact .ok Iff.rfl
  | optional s =>
    have hpart := conforms_decides s hs v
    cases v with
    | absent => exact .ok (by simp [Satisfies])
    | _ => exact hpart.trans (by simp [Satisfies])
  | array s =>
    cases v with
    | array form items =>
      have hitems := Decides.allOrFail fun w (_ : w ∈ items) => conforms_decides s hs w
      exact hitems.trans satisfies_array_iff.symm
    | _ => exact .ok (by simp [Satisfies])
  | tuple ss =>
    cases v with
    | array form items =>
      refine Decides.trans ?_ satisfies_tuple_iff.symm
      by_cases hlen : items.length = ss.length
      · simp only [conforms, if_pos hlen]
        exact conformsEach_decides ss hs hlen
      · have hno : ¬ SatisfiesEach ss items := fun h => hlen h.length_eq
        simp only [conforms, if_neg hlen]
        exact .ok (by simpa using hno)
    | _ => exact .ok (by simp [Satisfies])
  | union ss => exact conformsSome_decides ss hs v
  | object fs =>
    cases v with
    | object form entries =>
      exact (conformsFields_decides fs hs entries).trans satisfies_object_iff.symm
    | _ => exact .ok (by simp [Satisfies])
  | foreign x => cases hs
  | sealed s => cases hs
termination_by structural s

theorem conformsEach_decides (ss : List Shape) (hss : allLiteralsList (fun _ => true) ss = true)
    {vs : List Value} (hlen : vs.length = ss.length) :
    Decides (conformsEach ss vs) (SatisfiesEach ss vs) := by
  cases ss with
  | nil =>
    rw [List.length_eq_zero_iff.1 hlen]
    exact .ok (by simp [SatisfiesEach])
  | cons s ss =>
    cases vs with
    | nil => cases hlen
    | cons v vs =>
      simp only [allLiteralsList, Bool.and_eq_true] at hss
      have hrest := conformsEach_decides ss hss.2 (Nat.succ.inj hlen)
      refine (conforms_decides s hss.1 v).and ?_ ?_
      · intro hv
        simpa only [conformsEach, hv] using hrest
      · intro hv
        simp only [conformsEach, hv]
termination_by structural ss

theorem conformsSome_decides (ss : List Shape) (hss : allLiteralsList (fun _ => true) ss = true)
    (v : Value) : Decides (conformsSome ss v) (SatisfiesSome ss v) := by
  cases ss with
  | nil => exact .ok (by simp [SatisfiesSome])
  | cons s ss =>
    simp only [allLiteralsList, Bool.and_eq_true] at hss
    have hrest := conformsSome_decides ss hss.2 v
    refine (conforms_decides s hss.1 v).or ?_ ?_
    · intro hv
      simpa only [conformsSome, hv] using hrest
    · intro hv
      simp only [conformsSome, hv]
termination_by structural ss

theorem conformsFields_decides (fs : List (Value × Shape))
    (hfs : allLiteralsFields (fun _ => true) fs = true) (entries : List (Value × Value)) :
    Decides (conformsFields fs entries) (SatisfiesFields fs entries) := by
  cases fs with
  | nil => exact .ok (by simp [SatisfiesFields])
  | cons f fs =>
    simp only [allLiteralsFields, Bool.and_eq_true] at hfs
    have hrest := conformsFields_decides fs hfs.2 entries
    refine (conforms_decides f.2 hfs.1 ((Value.lookup f.1 entries).getD .absent)).and ?_ ?_
    · intro hv
      simpa only [conformsFields, hv] using hrest
    · intro hv
      simp only [conformsFields, hv]
termination_by structural fs

end

theorem check_of_top {s node : Shape} (hnode : s.top = .ok node) (v : Value) :
    s.check v = (node.conforms v).mapError fun bad => ⟨.unknownNode bad, none⟩ := by
  simp only [check, hnode, bind, Except.bind]
  cases node.conforms v <;> rfl

theorem isValid_eq_ok {s node : Shape} {v : Value} {b : Bool} (hnode : s.top = .ok node)
    (hb : node.conforms v = .ok b) : s.isValid host v = .ok b := by
  rw [isValid, raising_eq_ok_iff, check_of_top hnode, hb]
  rfl

end Shape

end DataShape
