-- SUMMARY: Loose equality of well-formed values is an equivalence, and look-ups go by it.
import Mathlib.Data.List.Find
import DataShape.Proofs.Parts
import DataShape.Proofs.Value.Coherence
import DataShape.Proofs.Value.Keys

/-!
# Loose equality

On well-formed values loose equality is symmetric, transitive and reflexive:
what is not a number is equal to itself as an object. Look-ups under loosely
equal keys find the same, so lists of entries that match hold related things
under every key.
-/

namespace DataShape.Value

abbrev WellFormed (v : Value) : Prop := v.isWellFormed = true

abbrev LooselyEqual (v w : Value) : Prop := v.looseEq w = true

abbrev JsonEqual (v w : Value) : Prop := v.jsonEq w = true

/-! ## Entries -/

section
variable {α : Type} {key : Value} {es : List (Value × α)}

theorem lookup_eq_none_iff_forall_mem :
    lookup key es = none ↔ ∀ e ∈ es, ¬ LooselyEqual key e.1 := by
  simp [lookup]

theorem distinctKeys_iff_pairwise :
    distinctKeys es = true ↔ es.Pairwise fun e f => ¬ LooselyEqual e.1 f.1 := by
  induction es with
  | nil => simp [distinctKeys]
  | cons e es ih =>
    simp only [distinctKeys, Bool.and_eq_true, Option.isNone_iff_eq_none,
      lookup_eq_none_iff_forall_mem, List.pairwise_cons, ih]

theorem exists_lookup_cons_iff {e : Value × α} {p : α → Prop} :
    (∃ a, lookup key (e :: es) = some a ∧ p a) ↔
      if looseEq key e.1 then p e.2 else ∃ a, lookup key es = some a ∧ p a := by
  cases h : looseEq key e.1 <;> simp [lookup, h]

/-- Among distinct keys, what a look-up finds is what stands under any key that is equal. -/
theorem exists_lookup_iff (hkey : Coheres WellFormed LooselyEqual key)
    (hdistinct : distinctKeys es = true) (hes : ∀ e ∈ es, WellFormed e.1) {p : α → Prop} :
    (∃ a, lookup key es = some a ∧ p a) ↔ ∃ e ∈ es, LooselyEqual key e.1 ∧ p e.2 := by
  rw [distinctKeys_iff_pairwise] at hdistinct
  induction es with
  | nil => simp [lookup]
  | cons e es ih =>
    obtain ⟨hhead, htail⟩ := List.pairwise_cons.1 hdistinct
    obtain ⟨he, hes⟩ := List.forall_mem_cons.1 hes
    rw [exists_lookup_cons_iff, ih htail hes]
    simp only [List.mem_cons, exists_eq_or_imp]
    by_cases hfound : LooselyEqual key e.1
    · have hno : ¬ ∃ f ∈ es, LooselyEqual key f.1 ∧ p f.2 := by
        rintro ⟨f, hf, heq, -⟩
        exact hhead f hf (hkey.join he hfound (hes f hf) heq)
      rw [if_pos hfound, or_iff_left hno, and_iff_right hfound]
    · rw [if_neg hfound, or_iff_right fun h => hfound h.1]

end

/-- Distinct keys and well-formed values. -/
def WellFormedEntries (es : List (Value × Value)) : Prop :=
  distinctKeys es = true ∧ ∀ e ∈ es, WellFormed e.1 ∧ WellFormed e.2

theorem wellFormed_object_iff {form : ObjectForm} {es : List (Value × Value)} :
    WellFormed (.object form es) ↔ WellFormedEntries es := by
  simp only [WellFormed, WellFormedEntries, isWellFormed, Bool.and_eq_true, isWellFormedEntries_iff]

/-- Whether two entries stand under equal keys and hold related values. -/
def RelatedEntries (r : Value → Value → Prop) (e f : Value × Value) : Prop :=
  LooselyEqual e.1 f.1 ∧ r e.2 f.2

/-- Whether two lists of entries are equally long and what stands under each key on the left is
related to what the key finds on the right. -/
def MatchEntries (r : Value → Value → Prop) (es fs : List (Value × Value)) : Prop :=
  es.length = fs.length ∧ ∀ e ∈ es, ∃ w, lookup e.1 fs = some w ∧ r e.2 w

section
variable {r : Value → Value → Prop} {es fs : List (Value × Value)}

theorem matchEntries_iff_covers (hkeys : ∀ e ∈ es, Coheres WellFormed LooselyEqual e.1)
    (hfs : WellFormedEntries fs) :
    MatchEntries r es fs ↔ Covers (RelatedEntries r) es fs := by
  refine and_congr_right fun _ => forall₂_congr fun e he => ?_
  exact exists_lookup_iff (hkeys e he) hfs.1 fun f hf => (hfs.2 f hf).1

/-- Distinct keys have no partner in common. -/
theorem WellFormedEntries.pairwise_apart (r : Value → Value → Prop) (hes : WellFormedEntries es)
    (hkeys : ∀ e ∈ es, Coheres WellFormed LooselyEqual e.1) :
    es.Pairwise fun e e' => ∀ f : Value × Value, WellFormed f.1 ∧ WellFormed f.2 →
      RelatedEntries r e f → ¬ RelatedEntries r e' f := by
  refine (distinctKeys_iff_pairwise.1 hes.1).imp_of_mem ?_
  rintro e e' he he' hne f ⟨hf, -⟩ ⟨hef, -⟩ ⟨hef', -⟩
  have hfe' := (hkeys e' he').symm _ hf hef'
  exact hne ((hkeys e he).trans hf hef (hes.2 e' he').1 hfe')

/-- Every entry on the right has a partner on the left. -/
theorem MatchEntries.exists_left (hmatch : MatchEntries r es fs) (hes : WellFormedEntries es)
    (hfs : WellFormedEntries fs) (hkeys : ∀ e ∈ es, Coheres WellFormed LooselyEqual e.1) :
    ∀ f ∈ fs, ∃ e ∈ es, RelatedEntries r e f := by
  refine ((matchEntries_iff_covers hkeys hfs).1 hmatch).exists_left ?_
  refine (hes.pairwise_apart r hkeys).imp ?_
  intro e e' hapart f hf
  exact hapart f (hfs.2 f hf)

theorem MatchEntries.coheres_keys (hmatch : MatchEntries r es fs) (hes : WellFormedEntries es)
    (hfs : WellFormedEntries fs) (hkeys : ∀ e ∈ es, Coheres WellFormed LooselyEqual e.1) :
    ∀ f ∈ fs, Coheres WellFormed LooselyEqual f.1 := by
  intro f hf
  obtain ⟨e, he, hef, -⟩ := hmatch.exists_left hes hfs hkeys f hf
  exact (hkeys e he).of_rel (hfs.2 f hf).1 hef

theorem coheres_matchEntries (hes : WellFormedEntries es)
    (h : ∀ e ∈ es, Coheres WellFormed LooselyEqual e.1 ∧ Coheres WellFormed r e.2) :
    Coheres WellFormedEntries (MatchEntries r) es := by
  have hkeys := fun e he => (h e he).1
  have hcovers : Coheres _ (Covers (RelatedEntries r)) es :=
    Coheres.covers (fun e he => (h e he).1.prod (h e he).2) (hes.pairwise_apart r hkeys)
  constructor
  · intro fs hfs hmatch
    have hkeys' := hmatch.coheres_keys hes hfs hkeys
    rw [matchEntries_iff_covers hkeys hfs] at hmatch
    rw [matchEntries_iff_covers hkeys' hes]
    exact hcovers.symm fs hfs.2 hmatch
  · intro fs hfs hmatch gs hgs
    have hkeys' := hmatch.coheres_keys hes hfs hkeys
    rw [matchEntries_iff_covers hkeys hfs] at hmatch
    rw [matchEntries_iff_covers hkeys hgs, matchEntries_iff_covers hkeys' hgs]
    exact hcovers.congr fs hfs.2 hmatch gs hgs.2

end

/-! ## Loose equality -/

/-- What a leaf stands for: leaves are loosely equal when they stand for one datum. -/
inductive Datum where
  | null
  | absent
  | text (t : Text)
  | bytes (data : List UInt8)
  | date (d : Date)
  | moment (hasOffset : Bool) (time : Int)
  | point (x : Magnitude)
  | reference (id : Nat)

end DataShape.Value

namespace DataShape

open Value (Datum)

/-- Microseconds by universal time where there is an offset, and on the clock where there is none. -/
def Moment.time (m : Moment) : Int :=
  match m.offset with
  | none => m.clock
  | some o => m.clock - o.minutes * 60000000

theorem Moment.same_iff_time {m n : Moment} :
    m.same n = true ↔ m.offset.isSome = n.offset.isSome ∧ m.time = n.time := by
  unfold Moment.same Moment.time
  cases m.offset <;> cases n.offset <;> simp

namespace Value

def datum? : Value → Option Datum
  | .null => some .null
  | .absent => some .absent
  | .str t => some (.text t)
  | .bytes _ data => some (.bytes data)
  | .date d => some (.date d)
  | .moment m => some (.moment m.offset.isSome m.time)
  | .reference id => some (.reference id)
  | .bool b => some (.point (Magnitude.ofInt (if b then 1 else 0)))
  | .int n => some (.point (Magnitude.ofInt n))
  | .float x => some (.point x.magnitude)
  | _ => none

theorem looseEq_leaf_iff {v w : Value} (hv : v.isLeaf = true) :
    LooselyEqual v w ↔ ∃ d, w.datum? = some d ∧ v.datum? = some d := by
  unfold LooselyEqual
  cases v with
  | array form vs => cases hv
  | object form es => cases hv
  | set vs => cases hv
  | _ =>
    cases w <;>
      simp [looseEq, scalarEq, magnitude?, datum?, Moment.same_iff_time]

theorem exists_datum {v : Value} (hv : v.isLeaf = true) : ∃ d, v.datum? = some d := by
  cases v with
  | array form vs => cases hv
  | object form es => cases hv
  | set vs => cases hv
  | _ => exact ⟨_, rfl⟩

theorem isLeaf_of_datum? {v : Value} {d : Datum} (h : v.datum? = some d) : v.isLeaf = true := by
  cases v with
  | array form vs => cases h
  | object form es => cases h
  | set vs => cases h
  | _ => rfl

/-- Whether a datum is no point of the number line. -/
def Datum.isNaN : Datum → Bool
  | .point (.undefined _) => true
  | _ => false

theorem isNaN_of_datum? {v : Value} {d : Datum} (h : v.datum? = some d) : v.isNaN = d.isNaN := by
  cases v with
  | float x => cases x <;> cases h <;> rfl
  | array form vs => cases h
  | object form es => cases h
  | set vs => cases h
  | _ => cases h; rfl

theorem looseEqList_iff {vs ws : List Value} :
    looseEqList vs ws = true ↔ List.Forall₂ LooselyEqual vs ws := by
  induction vs generalizing ws with
  | nil => cases ws <;> simp [looseEqList]
  | cons v vs ih => cases ws <;> simp [looseEqList, ih]

theorem looseEqEntries_iff {es fs : List (Value × Value)} :
    looseEqEntries es fs = true ↔ ∀ e ∈ es, ∃ w, lookup e.1 fs = some w ∧ LooselyEqual e.2 w := by
  induction es with
  | nil => simp [looseEqEntries]
  | cons e es ih =>
    rw [looseEqEntries, Bool.and_eq_true, ih, List.forall_mem_cons]
    refine and_congr_left' ?_
    unfold lookup
    cases fs.find? fun f => looseEq e.1 f.1 <;> simp

theorem eachLooselyIn_iff {vs ws : List Value} :
    eachLooselyIn vs ws = true ↔ ∀ v ∈ vs, ∃ w ∈ ws, LooselyEqual v w := by
  induction vs with
  | nil => simp [eachLooselyIn]
  | cons v vs ih =>
    rw [eachLooselyIn, Bool.and_eq_true, ih, List.forall_mem_cons, List.any_eq_true]

section
variable {w : Value}

theorem looseEq_array_iff {form : ArrayForm} {vs : List Value} :
    LooselyEqual (.array form vs) w ↔
      ∃ ws, w = .array form ws ∧ List.Forall₂ LooselyEqual vs ws := by
  unfold LooselyEqual
  cases w with
  | array form' ws => simp [looseEq, looseEqList_iff, @eq_comm _ form' form]
  | _ => simp [looseEq]

theorem looseEq_object_iff {form : ObjectForm} {es : List (Value × Value)} :
    LooselyEqual (.object form es) w ↔
      ∃ fs, (∃ form', w = .object form' fs) ∧ MatchEntries LooselyEqual es fs := by
  unfold LooselyEqual
  cases w <;> simp [looseEq, looseEqEntries_iff, MatchEntries]

theorem looseEq_set_iff {vs : List Value} :
    LooselyEqual (.set vs) w ↔ ∃ ws, w = .set ws ∧ Covers LooselyEqual vs ws := by
  unfold LooselyEqual
  cases w <;> simp [looseEq, eachLooselyIn_iff, Covers]

end

theorem distinctElements_iff_pairwise {vs : List Value} :
    distinctElements vs = true ↔ vs.Pairwise fun v w => ¬ LooselyEqual v w := by
  induction vs with
  | nil => simp [distinctElements]
  | cons v vs ih => simp [distinctElements, ih]

theorem wellFormed_array_iff {form : ArrayForm} {vs : List Value} :
    WellFormed (.array form vs) ↔ ∀ v ∈ vs, WellFormed v := by
  simp only [WellFormed, isWellFormed, isWellFormedList_iff]

theorem wellFormed_set_iff {vs : List Value} :
    WellFormed (.set vs) ↔ distinctElements vs = true ∧ ∀ v ∈ vs, WellFormed v := by
  simp only [WellFormed, isWellFormed, Bool.and_eq_true, isWellFormedList_iff]

theorem coheres_looseEq (v : Value) : WellFormed v → Coheres WellFormed LooselyEqual v := by
  induction v using inductionOnParts with
  | array form vs ih =>
    intro hv
    rw [wellFormed_array_iff] at hv
    have hvs := Coheres.forall₂ fun v hmem => ih v hmem (hv v hmem)
    refine Coheres.of_view (fun w ws => w = .array form ws) rfl hvs ?_ ?_
    · rintro _ ws rfl hws
      exact wellFormed_array_iff.1 hws
    · rintro _ ws rfl w
      exact looseEq_array_iff
  | object form es ih =>
    intro hv
    rw [wellFormed_object_iff] at hv
    have hes := coheres_matchEntries hv fun e he =>
      ⟨(ih e he).1 (hv.2 e he).1, (ih e he).2 (hv.2 e he).2⟩
    refine Coheres.of_view (fun w fs => ∃ form', w = .object form' fs) ⟨form, rfl⟩ hes ?_ ?_
    · rintro _ fs ⟨form', rfl⟩ hfs
      exact wellFormed_object_iff.1 hfs
    · rintro _ fs ⟨form', rfl⟩ w
      exact looseEq_object_iff
  | set vs ih =>
    intro hv
    rw [wellFormed_set_iff] at hv
    have hparts := fun v hmem => ih v hmem (hv.2 v hmem)
    have hapart : vs.Pairwise fun v v' => ∀ w, WellFormed w → LooselyEqual v w →
        ¬ LooselyEqual v' w := by
      refine (distinctElements_iff_pairwise.1 hv.1).imp_of_mem ?_
      intro v v' hv₁ hv₂ hne w hw hvw hvw'
      have hwv' := (hparts v' hv₂).symm w hw hvw'
      exact hne ((hparts v hv₁).trans hw hvw (hv.2 v' hv₂) hwv')
    have hvs := Coheres.covers hparts hapart
    refine Coheres.of_view (fun w ws => w = .set ws) rfl hvs ?_ ?_
    · rintro _ ws rfl hws
      exact (wellFormed_set_iff.1 hws).2
    · rintro _ ws rfl w
      exact looseEq_set_iff
  | leaf v hleaf =>
    intro _
    obtain ⟨d, hdatum⟩ := exists_datum hleaf
    refine Coheres.of_view (fun w d => w.datum? = some d) hdatum (Coheres.eq (fun _ => True) d)
      (fun _ _ _ _ => trivial) ?_
    intro w d hw z
    rw [looseEq_leaf_iff (isLeaf_of_datum? hw), hw]
    simp [eq_comm]

/-! ## Equality with itself -/

/-- Among distinct keys, one that equals itself finds what stands under it. -/
theorem lookup_of_looselyEqual_self {α : Type} {es : List (Value × α)}
    (hdistinct : distinctKeys es = true) (hes : ∀ e ∈ es, WellFormed e.1) {e : Value × α}
    (he : e ∈ es) (hself : LooselyEqual e.1 e.1) : lookup e.1 es = some e.2 := by
  have hfinds := exists_lookup_iff (coheres_looseEq e.1 (hes e he)) hdistinct hes (p := (· = e.2))
  obtain ⟨a, ha, rfl⟩ := hfinds.2 ⟨e, he, hself, rfl⟩
  exact ha

theorem looseEq_self (v : Value) : WellFormed v → LooselyEqual v v := by
  induction v using inductionOnParts with
  | array form vs ih =>
    intro hv
    rw [wellFormed_array_iff] at hv
    exact looseEq_array_iff.2 ⟨vs, rfl, List.forall₂_same.2 fun v hmem => ih v hmem (hv v hmem)⟩
  | object form es ih =>
    intro hv
    obtain ⟨hdistinct, hes⟩ := wellFormed_object_iff.1 hv
    refine looseEq_object_iff.2 ⟨es, ⟨form, rfl⟩, rfl, fun e he => ⟨e.2, ?_, ?_⟩⟩
    · exact lookup_of_looselyEqual_self hdistinct (fun f hf => (hes f hf).1) he
        ((ih e he).1 (hes e he).1)
    · exact (ih e he).2 (hes e he).2
  | set vs ih =>
    intro hv
    rw [wellFormed_set_iff] at hv
    refine looseEq_set_iff.2 ⟨vs, rfl, rfl, fun v hmem => ⟨v, hmem, ih v hmem (hv.2 v hmem)⟩⟩
  | leaf v hleaf =>
    intro _
    obtain ⟨d, hdatum⟩ := exists_datum hleaf
    exact (looseEq_leaf_iff hleaf).2 ⟨d, hdatum, hdatum⟩

/-! ## Look-ups -/

theorem lookup_congr {α : Type} {key key' : Value} {es : List (Value × α)}
    (h : ∀ e ∈ es, key.looseEq e.1 = key'.looseEq e.1) : lookup key es = lookup key' es := by
  rw [lookup, lookup, List.find?_congr h]

theorem lookup_eq_of_looselyEqual {α : Type} {key key' : Value} (hkey : WellFormed key)
    (hkey' : WellFormed key') (h : LooselyEqual key key') {es : List (Value × α)}
    (hes : ∀ e ∈ es, WellFormed e.1) : lookup key es = lookup key' es := by
  refine lookup_congr fun e he => ?_
  rw [Bool.eq_iff_iff]
  exact (coheres_looseEq key hkey).congr key' hkey' h e.1 (hes e he)

theorem exists_mem_of_lookup {α : Type} {key : Value} {es : List (Value × α)} {a : α}
    (h : lookup key es = some a) : ∃ e ∈ es, LooselyEqual key e.1 ∧ e.2 = a := by
  obtain ⟨e, he, rfl⟩ := Option.map_eq_some_iff.1 h
  have hkey : key.looseEq e.1 = true := by simpa using List.find?_some he
  exact ⟨e, List.mem_of_find?_eq_some he, hkey, rfl⟩

/-- Among distinct keys, each finds what stands under it. -/
theorem lookup_of_mem {α : Type} {es : List (Value × α)} (hdistinct : distinctKeys es = true)
    (hes : ∀ e ∈ es, WellFormed e.1) {e : Value × α} (he : e ∈ es) : lookup e.1 es = some e.2 :=
  lookup_of_looselyEqual_self hdistinct hes he (looseEq_self e.1 (hes e he))

/-- Among distinct texts, each entry is what its key finds. -/
theorem lookup_of_mem_of_hasTextKeys {α : Type} {es : List (Value × α)} (h : HasTextKeys es)
    (hdistinct : distinctKeys es = true) {e : Value × α} (he : e ∈ es) :
    lookup e.1 es = some e.2 := by
  refine lookup_of_mem hdistinct (fun f hf => ?_) he
  obtain ⟨t, ht⟩ := kind?_eq_string_iff.1 (h f hf)
  rw [ht]
  rfl

theorem WellFormedEntries.lookup {es : List (Value × Value)} (hes : WellFormedEntries es)
    {key v : Value} (h : lookup key es = some v) : WellFormed v := by
  obtain ⟨e, he, -, rfl⟩ := exists_mem_of_lookup h
  exact (hes.2 e he).2

/-- Matching goes both ways, since distinct keys find distinct entries. -/
theorem MatchEntries.flip {r : Value → Value → Prop} {es fs : List (Value × Value)}
    (hmatch : MatchEntries r es fs) (hes : WellFormedEntries es) (hfs : WellFormedEntries fs) :
    MatchEntries (fun w v => r v w) fs es := by
  have hkeys : ∀ e ∈ es, Coheres WellFormed LooselyEqual e.1 :=
    fun e he => coheres_looseEq e.1 (hes.2 e he).1
  refine ⟨hmatch.1.symm, fun f hf => ?_⟩
  obtain ⟨e, he, hef, hr⟩ := hmatch.exists_left hes hfs hkeys f hf
  have hkey := coheres_looseEq f.1 (hfs.2 f hf).1
  refine (exists_lookup_iff hkey hes.1 fun e he => (hes.2 e he).1).2 ?_
  exact ⟨e, he, (hkeys e he).symm f.1 (hfs.2 f hf).1 hef, hr⟩

/-- Lists of entries that match hold related things under any key, or nothing. -/
theorem MatchEntries.rel_lookup {r : Value → Value → Prop} {es fs : List (Value × Value)}
    (hmatch : MatchEntries r es fs) (hes : WellFormedEntries es) (hfs : WellFormedEntries fs)
    {key : Value} (hkey : WellFormed key) : Option.Rel r (lookup key es) (lookup key fs) := by
  have hcoheres := coheres_looseEq key hkey
  have hkeys : ∀ e ∈ es, Coheres WellFormed LooselyEqual e.1 :=
    fun e he => coheres_looseEq e.1 (hes.2 e he).1
  cases hv : lookup key es with
  | none =>
    cases hw : lookup key fs with
    | none => exact .none
    | some w =>
      obtain ⟨f, hf, hkf, rfl⟩ := exists_mem_of_lookup hw
      obtain ⟨e, he, hef, -⟩ := hmatch.exists_left hes hfs hkeys f hf
      have hfe := (hkeys e he).symm f.1 (hfs.2 f hf).1 hef
      have hke := hcoheres.trans (hfs.2 f hf).1 hkf (hes.2 e he).1 hfe
      exact absurd hke (lookup_eq_none_iff_forall_mem.1 hv e he)
  | some v =>
    obtain ⟨e, he, hke, rfl⟩ := exists_mem_of_lookup hv
    obtain ⟨w, hw, hvw⟩ := hmatch.2 e he
    rw [lookup_eq_of_looselyEqual hkey (hes.2 e he).1 hke fun f hf => (hfs.2 f hf).1, hw]
    exact .some hvw

end Value

end DataShape
