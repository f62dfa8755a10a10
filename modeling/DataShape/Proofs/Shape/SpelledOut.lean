-- SUMMARY: A literal against the shape spelled out from its value: they differ in the sizes of records only.
import DataShape.Shape.Builder
import DataShape.Proofs.Shape.Entailment
import DataShape.Proofs.Shape.Undeclared
import DataShape.Proofs.Value.Within

/-!
# Literals spelled out

What a literal says in one piece can be spelled out: a tuple for each array of
its value, an object for each record, and literals of what is left. The literal
compares records as wholes, while the shape that is spelled out looks up the
keys of each and does not see what else is there. So a value equals the literal
if it is as the shape asks and no record in it that meets one of the literal is
larger.
-/

namespace DataShape

namespace Value

/-! ## Parts that meet -/

/-- Whether two values come against each other when two others are gone through side by side: items
by index, entries by the keys on the left. -/
inductive Meets (x' v' : Value) : Value → Value → Prop
  | here : Meets x' v' x' v'
  | item {form form' : ArrayForm} {xs vs : List Value} {i : Nat} (hx : i < xs.length)
      (hv : i < vs.length) (h : Meets x' v' xs[i] vs[i]) :
      Meets x' v' (.array form xs) (.array form' vs)
  | entry {form form' : ObjectForm} {es fs : List (Value × Value)} {e : Value × Value} {v : Value}
      (he : e ∈ es) (hv : lookup e.1 fs = some v) (h : Meets x' v' e.2 v) :
      Meets x' v' (.object form es) (.object form' fs)

/-- Whether records that meet have the same number of entries. -/
def SameSizes (x v : Value) : Prop :=
  ∀ form es form' fs, Meets (.object form es) (.object form' fs) x v → fs.length = es.length

theorem sameSizes_array_iff {form form' : ArrayForm} {xs vs : List Value} :
    SameSizes (.array form xs) (.array form' vs) ↔
      ∀ (i : Nat) (hx : i < xs.length) (hv : i < vs.length), SameSizes xs[i] vs[i] := by
  constructor
  · intro h i hx hv form es form' fs hmeets
    exact h form es form' fs (.item hx hv hmeets)
  · intro h form es form' fs hmeets
    cases hmeets with
    | item hx hv hmeets => exact h _ hx hv form es form' fs hmeets

theorem sameSizes_object_iff {form form' : ObjectForm} {es fs : List (Value × Value)} :
    SameSizes (.object form es) (.object form' fs) ↔
      fs.length = es.length ∧ ∀ e ∈ es, ∀ v, lookup e.1 fs = some v → SameSizes e.2 v := by
  constructor
  · intro h
    exact ⟨h _ _ _ _ .here, fun e he v hv _ _ _ _ hmeets => h _ _ _ _ (.entry he hv hmeets)⟩
  · rintro ⟨hlen, h⟩ _ _ _ _ hmeets
    cases hmeets with
    | here => exact hlen
    | entry he hv hmeets => exact h _ he _ hv _ _ _ _ hmeets

theorem SameSizes.of_isScalar {x v : Value} (hx : x.IsScalar) : SameSizes x v := by
  intro form es form' fs hmeets
  cases hmeets with
  | here => exact absurd rfl hx.2
  | item _ _ _ => exact absurd rfl hx.1
  | entry _ _ _ => exact absurd rfl hx.2

theorem Meets.isRecordFree {x v x' v' : Value} (h : Meets x' v' x v)
    (hx : x.isRecordFree = true) : x'.isRecordFree = true := by
  induction h with
  | here => exact hx
  | item hx' _ _ ih => exact ih (areRecordFree_iff.1 hx _ (List.getElem_mem hx'))
  | entry _ _ _ _ => cases hx

theorem SameSizes.of_isRecordFree {x v : Value} (hx : x.isRecordFree = true) : SameSizes x v :=
  fun _ _ _ _ hmeets => nomatch hmeets.isRecordFree hx

theorem jsonEqual_array_iff {form form' : ArrayForm} {xs vs : List Value} :
    JsonEqual (.array form' vs) (.array form xs) ↔ vs.length = xs.length ∧
      ∀ (i : Nat) (hx : i < xs.length) (hv : i < vs.length), JsonEqual vs[i] xs[i] := by
  rw [jsonEq_arrays_iff, List.forall₂_iff_get]
  exact and_congr_right fun _ => forall_congr' fun i => forall_comm

/-- Comparing records entry by entry may as well go by the keys on the right. -/
theorem jsonEqual_object_iff {form form' : ObjectForm} {es fs : List (Value × Value)}
    (hes : WellFormedEntries es) (hfs : WellFormedEntries fs) :
    JsonEqual (.object form' fs) (.object form es) ↔
      fs.length = es.length ∧ ∀ e ∈ es, ∃ v, lookup e.1 fs = some v ∧ JsonEqual v e.2 := by
  rw [jsonEq_objects_iff]
  constructor
  · intro h
    exact ⟨h.1, (h.flip hfs hes).2⟩
  · rintro ⟨hlen, h⟩
    exact MatchEntries.flip (r := fun x v => JsonEqual v x) ⟨hlen.symm, h⟩ hes hfs

end Value

namespace Shape

variable {host : Host}

open Value (WellFormed JsonEqual SameSizes)

/-! ## Spelling out -/

mutual

/-- A tuple for each array, an object for each record, and literals of what is left. -/
def spelledOut : Value → Shape
  | .array _ items => .tuple (spelledOutList items)
  | .object _ entries => .object (spelledOutEntries entries)
  | x => .literal x
termination_by structural x => x

def spelledOutList : List Value → List Shape
  | [] => []
  | x :: xs => spelledOut x :: spelledOutList xs
termination_by structural xs => xs

def spelledOutEntries : List (Value × Value) → List (Value × Shape)
  | [] => []
  | (key, x) :: es => (key, spelledOut x) :: spelledOutEntries es
termination_by structural es => es

end

theorem spelledOutList_eq_map (xs : List Value) : spelledOutList xs = xs.map spelledOut := by
  induction xs with
  | nil => rfl
  | cons x xs ih => rw [spelledOutList, ih, List.map_cons]

theorem spelledOutEntries_eq_map (es : List (Value × Value)) :
    spelledOutEntries es = es.map fun e => (e.1, spelledOut e.2) := by
  induction es with
  | nil => rfl
  | cons e es ih => rw [spelledOutEntries, ih, List.map_cons]

theorem spelledOut_scalar {x : Value} (hx : x.IsScalar) : spelledOut x = .literal x := by
  cases x with
  | array form xs => exact absurd rfl hx.1
  | object form es => exact absurd rfl hx.2
  | _ => rfl

theorem isProper_spelledOut (x : Value) : (spelledOut x).isProper = true := by
  induction x using Value.inductionOnData with
  | array form xs ih =>
    rw [spelledOut, spelledOutList_eq_map, isProper, allLiterals, allLiteralsList_iff,
      List.forall_mem_map]
    exact ih
  | object form es ih =>
    rw [spelledOut, spelledOutEntries_eq_map, isProper, allLiterals, allLiteralsFields_iff,
      List.forall_mem_map]
    exact ih
  | scalar x hx =>
    rw [spelledOut_scalar hx]
    rfl

/-! ## What is spelled out -/

theorem kind?_eq_of_satisfies_spelledOut {x v : Value} (h : (spelledOut x).Satisfies v) :
    v.kind? = x.kind? := by
  cases x with
  | array form xs =>
    obtain ⟨form', vs, rfl, -⟩ := h
    rfl
  | object form es =>
    obtain ⟨form', fs, rfl, -⟩ := h
    rfl
  | _ => exact Value.kind?_eq_of_jsonEq h

theorem satisfies_spelledOut_array_iff {form form' : ArrayForm} {xs vs : List Value} :
    (spelledOut (.array form xs)).Satisfies (.array form' vs) ↔ vs.length = xs.length ∧
      ∀ (i : Nat) (hx : i < xs.length) (hv : i < vs.length),
        (spelledOut xs[i]).Satisfies vs[i] := by
  rw [spelledOut, spelledOutList_eq_map, satisfies_tuple_iff]
  simp [satisfiesEach_iff_getElem]

/-- Absence satisfies nothing that is spelled out, so what is declared has to be there. -/
theorem satisfies_spelledOut_object_iff {form form' : ObjectForm} {es fs : List (Value × Value)}
    (hes : ∀ e ∈ es, e.2.HasKind) :
    (spelledOut (.object form es)).Satisfies (.object form' fs) ↔
      ∀ e ∈ es, ∃ v, Value.lookup e.1 fs = some v ∧ (spelledOut e.2).Satisfies v := by
  rw [spelledOut, spelledOutEntries_eq_map, satisfies_object_iff, satisfiesFields_iff_forall_mem,
    List.forall_mem_map]
  refine forall₂_congr fun e he => ?_
  have habsent : ¬ (spelledOut e.2).Satisfies .absent := fun h =>
    Option.isSome_iff_ne_none.1 (hes e he) (kind?_eq_of_satisfies_spelledOut h).symm
  cases hfound : Value.lookup e.1 fs with
  | none => simpa using habsent
  | some v => simp

theorem jsonEqual_iff_of_kind?_ne {x v : Value} (h : v.kind? ≠ x.kind?) :
    JsonEqual v x ↔ (spelledOut x).Satisfies v ∧ SameSizes x v :=
  iff_of_false (fun hvx => h (Value.kind?_eq_of_jsonEq hvx))
    fun hvx => h (kind?_eq_of_satisfies_spelledOut hvx.1)

/-- A value equals another when it is as the shape asks that is spelled out from that one, and
records that meet are equally large. -/
theorem jsonEqual_iff_satisfies_spelledOut (x : Value) : WellFormed x → x.AllWithin Value.HasKind →
    ∀ v, WellFormed v → (JsonEqual v x ↔ (spelledOut x).Satisfies v ∧ SameSizes x v) := by
  induction x using Value.inductionOnData with
  | array form xs ih =>
    intro hx hkinds v hv
    by_cases hkind : v.kind? = some .array
    · obtain ⟨form', vs, rfl⟩ := Value.kind?_eq_array_iff.1 hkind
      rw [Value.wellFormed_array_iff] at hx hv
      rw [Value.allWithin_array_iff] at hkinds
      have hitems := fun (i : Nat) (hi : i < xs.length) (hi' : i < vs.length) =>
        ih xs[i] (List.getElem_mem hi) (hx _ (List.getElem_mem hi))
          (hkinds.2 _ (List.getElem_mem hi)) vs[i] (hv _ (List.getElem_mem hi'))
      rw [Value.jsonEqual_array_iff, satisfies_spelledOut_array_iff, Value.sameSizes_array_iff,
        and_assoc]
      refine and_congr_right fun _ => ?_
      simp only [hitems, forall_and]
    · exact jsonEqual_iff_of_kind?_ne hkind
  | object form es ih =>
    intro hx hkinds v hv
    by_cases hkind : v.kind? = some .object
    · obtain ⟨form', fs, rfl⟩ := Value.kind?_eq_object_iff.1 hkind
      rw [Value.wellFormed_object_iff] at hx hv
      rw [Value.allWithin_object_iff] at hkinds
      have hentries : ∀ e ∈ es, ∀ v, Value.lookup e.1 fs = some v →
          (JsonEqual v e.2 ↔ (spelledOut e.2).Satisfies v ∧ SameSizes e.2 v) :=
        fun e he v hfound => ih e he (hx.2 e he).2 (hkinds.2 e he) v (hv.lookup hfound)
      rw [Value.jsonEqual_object_iff hx hv, Value.sameSizes_object_iff,
        satisfies_spelledOut_object_iff fun e he => hkinds.2 e he _ .here]
      constructor
      · rintro ⟨hlen, h⟩
        refine ⟨fun e he => ?_, hlen, fun e he v hfound => ?_⟩
        · obtain ⟨v, hfound, hve⟩ := h e he
          exact ⟨v, hfound, ((hentries e he v hfound).1 hve).1⟩
        · obtain ⟨v', hfound', hve⟩ := h e he
          obtain rfl := Option.some.inj (hfound.symm.trans hfound')
          exact ((hentries e he v hfound).1 hve).2
      · rintro ⟨hsatisfies, hlen, hsizes⟩
        refine ⟨hlen, fun e he => ?_⟩
        obtain ⟨v, hfound, hve⟩ := hsatisfies e he
        exact ⟨v, hfound, (hentries e he v hfound).2 ⟨hve, hsizes e he v hfound⟩⟩
    · exact jsonEqual_iff_of_kind?_ne hkind
  | scalar x hx =>
    intro _ _ v _
    rw [spelledOut_scalar hx, and_iff_left (.of_isScalar hx)]
    rfl

/-- A literal of JSON data passes a value when the shape spelled out from the data does and records
that meet are equally large. So the two pass the same where the data holds no record, and the
literal never passes more. -/
theorem isValid_literal_iff_spelledOut {x v : Value} (hjson : x.isJson = true) (hx : WellFormed x)
    (hv : WellFormed v) {s t : Shape} (hs : s.top = .ok (.literal x))
    (ht : t.top = .ok (spelledOut x)) :
    ∃ b b', s.isValid host v = .ok b ∧ t.isValid host v = .ok b' ∧
      (b = true ↔ b' = true ∧ SameSizes x v) ∧ (x.isRecordFree = true → b = b') ∧
      (b' = false → b = false) := by
  obtain ⟨hkinds, -⟩ := (Value.isJson_iff_allWithin x).1 hjson
  obtain ⟨b, hb, hiff⟩ := isValid_decides_of_top hs rfl v
  obtain ⟨b', hb', hiff'⟩ := isValid_decides_of_top ht (isProper_spelledOut x) v
  have hboth : b = true ↔ b' = true ∧ SameSizes x v := by
    rw [hiff, hiff']
    exact jsonEqual_iff_satisfies_spelledOut x hx hkinds v hv
  refine ⟨b, b', hb, hb', hboth, fun hfree => ?_, fun hno => ?_⟩
  · rw [Bool.eq_iff_iff, hboth, and_iff_left (.of_isRecordFree hfree)]
  · rw [Bool.eq_false_iff] at hno ⊢
    exact fun hyes => hno (hboth.1 hyes).1

/-- A record below a record, met by one with the same entries and by one with another entry. -/
theorem isValid_literal_iff_spelledOut_nested :
    let key (s : String) : Value := .ofString s
    let x : Value := .object .plain
      [(key "tags", .list [key "a", .null]), (key "at", .object .plain [(key "n", .int 1)])]
    let v (more : List (Value × Value)) : Value := .object .readOnly
      [(key "at", .object .plain ((key "n", .float (.finite false 1023 0)) :: more)),
        (key "tags", .array .tuple [key "a", .null])]
    let other : Value × Value := (.int 0, .set [])
    x.isJson = true ∧ WellFormed x ∧ WellFormed (v []) ∧ WellFormed (v [other]) ∧
      (Builder.literal x).isValid .shallow (v []) = .ok true ∧ SameSizes x (v []) ∧
      (Builder.literal x).isValid .shallow (v [other]) = .ok false ∧
      (spelledOut x).isValid .shallow (v [other]) = .ok true ∧ ¬ SameSizes x (v [other]) := by
  intro key x v other
  have hjson : x.isJson = true := rfl
  have hx : WellFormed x := by decide +kernel
  have hv : WellFormed (v []) := by decide +kernel
  have hv' : WellFormed (v [other]) := by decide +kernel
  have hyes : (Builder.literal x).isValid .shallow (v []) = .ok true := rfl
  have hno : (Builder.literal x).isValid .shallow (v [other]) = .ok false := rfl
  have hopen : (spelledOut x).isValid .shallow (v [other]) = .ok true := rfl
  obtain ⟨b, b', hb, -, hboth, -⟩ :=
    isValid_literal_iff_spelledOut hjson hx hv (s := Builder.literal x) rfl (t := spelledOut x) rfl
  obtain rfl := Except.ok.inj (hyes.symm.trans hb)
  obtain ⟨c, c', hc, hc', hboth', -⟩ :=
    isValid_literal_iff_spelledOut hjson hx hv' (s := Builder.literal x) rfl (t := spelledOut x) rfl
  obtain rfl := Except.ok.inj (hno.symm.trans hc)
  obtain rfl := Except.ok.inj (hopen.symm.trans hc')
  refine ⟨hjson, hx, hv, hv', hyes, (hboth.1 rfl).2, hno, hopen, fun hsizes => ?_⟩
  exact Bool.false_ne_true (hboth'.2 ⟨rfl, hsizes⟩)

end Shape

end DataShape
