-- SUMMARY: The rules of conformance, form by form, and the check as their decision procedure.
import DataShape.Proofs.Parts
import DataShape.Proofs.Shape.Satisfies

/-!
# Conformance

The rules say when a value conforms to a shape, index by index and key by key,
with no walk and no order in them. On a tree of shapes proper the check always
comes to an end, and passes exactly what the rules derive.
-/

namespace DataShape.Shape

variable {host : Host}

/-- A value conforms to a shape. A boolean is no number, and absence conforms to what is optional,
at the top as in a field. -/
inductive Conforms : Shape → Value → Prop
  | null : Conforms .null .null
  | boolean (b : Bool) : Conforms .boolean (.bool b)
  | int (n : Int) : Conforms .number (.int n)
  | float (x : Binary64) : Conforms .number (.float x)
  | string (t : Text) : Conforms .string (.str t)
  | literal {x v : Value} (h : v.jsonEq x = true) : Conforms (.literal x) v
  | absent {s : Shape} : Conforms (.optional s) .absent
  | present {s : Shape} {v : Value} (h : Conforms s v) : Conforms (.optional s) v
  | array {s : Shape} {form : ArrayForm} {items : List Value}
      (h : ∀ (i : Nat) (hi : i < items.length), Conforms s items[i]) :
      Conforms (.array s) (.array form items)
  | tuple {ss : List Shape} {form : ArrayForm} {items : List Value}
      (hlen : items.length = ss.length)
      (h : ∀ (i : Nat) (hs : i < ss.length) (hi : i < items.length), Conforms ss[i] items[i]) :
      Conforms (.tuple ss) (.array form items)
  | union {ss : List Shape} {s : Shape} {v : Value} (hs : s ∈ ss) (h : Conforms s v) :
      Conforms (.union ss) v
  /-- What is not stored under a declared key is absent there. -/
  | object {fs : List (Value × Shape)} {form : ObjectForm} {entries : List (Value × Value)}
      (h : ∀ f ∈ fs, Conforms f.2 ((Value.lookup f.1 entries).getD .absent)) :
      Conforms (.object fs) (.object form entries)

/-! ## Lists of parts -/

section
variable {ss : List Shape}

theorem satisfiesEach_iff_getElem {vs : List Value} :
    SatisfiesEach ss vs ↔ vs.length = ss.length ∧
      ∀ (i : Nat) (hs : i < ss.length) (hi : i < vs.length), ss[i].Satisfies vs[i] := by
  induction ss generalizing vs with
  | nil => cases vs <;> simp [SatisfiesEach]
  | cons s ss ih =>
    cases vs with
    | nil => simp [SatisfiesEach]
    | cons v vs =>
      rw [SatisfiesEach, ih]
      constructor
      · rintro ⟨hv, hlen, hvs⟩
        refine ⟨congrArg (· + 1) hlen, fun i hs hi => ?_⟩
        cases i with
        | zero => exact hv
        | succ i => exact hvs i (Nat.lt_of_succ_lt_succ hs) (Nat.lt_of_succ_lt_succ hi)
      · rintro ⟨hlen, hall⟩
        have hhead := hall 0 (Nat.zero_lt_succ _) (Nat.zero_lt_succ _)
        refine ⟨hhead, Nat.succ.inj hlen, fun i hs hi => ?_⟩
        exact hall (i + 1) (Nat.succ_lt_succ hs) (Nat.succ_lt_succ hi)

theorem satisfiesSome_iff_exists_mem {v : Value} :
    SatisfiesSome ss v ↔ ∃ s ∈ ss, s.Satisfies v := by
  induction ss with
  | nil => simp [SatisfiesSome]
  | cons s ss ih => simp [SatisfiesSome, ih]

theorem satisfiesFields_iff_forall_mem {fs : List (Value × Shape)}
    {entries : List (Value × Value)} :
    SatisfiesFields fs entries ↔
      ∀ f ∈ fs, f.2.Satisfies ((Value.lookup f.1 entries).getD .absent) := by
  induction fs with
  | nil => simp [SatisfiesFields]
  | cons f fs ih => rw [SatisfiesFields, ih, List.forall_mem_cons]

end

/-! ## The rules and the check -/

theorem Conforms.satisfies {s : Shape} {v : Value} (h : Conforms s v) : s.Satisfies v := by
  induction h with
  | literal h => exact h
  | absent => exact .inl rfl
  | present _ ih => exact .inr ih
  | array _ ih =>
    refine satisfies_array_iff.2 fun w hw => ?_
    obtain ⟨i, hi, rfl⟩ := List.getElem_of_mem hw
    exact ih i hi
  | tuple hlen _ ih => exact satisfies_tuple_iff.2 (satisfiesEach_iff_getElem.2 ⟨hlen, ih⟩)
  | union hs _ ih => exact satisfiesSome_iff_exists_mem.2 ⟨_, hs, ih⟩
  | object _ ih => exact satisfies_object_iff.2 (satisfiesFields_iff_forall_mem.2 ih)
  | _ => rfl

theorem conforms_of_satisfies (s : Shape) : ∀ v, s.Satisfies v → Conforms s v := by
  induction s using inductionOnParts with
  | null =>
    intro v h
    obtain rfl := Value.kind?_eq_null_iff.1 h
    exact .null
  | boolean =>
    intro v h
    obtain ⟨b, rfl⟩ := Value.kind?_eq_boolean_iff.1 h
    exact .boolean b
  | number =>
    intro v h
    obtain ⟨n, rfl⟩ | ⟨x, rfl⟩ := Value.kind?_eq_number_iff.1 h
    · exact .int n
    · exact .float x
  | string =>
    intro v h
    obtain ⟨t, rfl⟩ := Value.kind?_eq_string_iff.1 h
    exact .string t
  | literal x => exact fun v h => .literal h
  | optional s ih =>
    rintro v (rfl | h)
    · exact .absent
    · exact .present (ih v h)
  | array s ih =>
    rintro _ ⟨form, items, rfl, h⟩
    exact .array fun i hi => ih _ (h _ (List.getElem_mem hi))
  | tuple ss ih =>
    rintro _ ⟨form, items, rfl, h⟩
    obtain ⟨hlen, hall⟩ := satisfiesEach_iff_getElem.1 h
    exact .tuple hlen fun i hs hi => ih _ (List.getElem_mem hs) _ (hall i hs hi)
  | union ss ih =>
    intro v h
    obtain ⟨s, hs, hv⟩ := satisfiesSome_iff_exists_mem.1 h
    exact .union hs (ih s hs v hv)
  | object fs ih =>
    rintro _ ⟨form, entries, rfl, h⟩
    exact .object fun f hf => ih f hf _ (satisfiesFields_iff_forall_mem.1 h f hf)
  | foreign x => exact fun v h => h.elim
  | sealed s _ => exact fun v h => h.elim

theorem conforms_iff_satisfies {s : Shape} {v : Value} : Conforms s v ↔ s.Satisfies v :=
  ⟨Conforms.satisfies, conforms_of_satisfies s v⟩

/-- On a tree of shapes proper the check comes to an end for every value, and passes the values that
conform. -/
theorem isValid_iff_conforms {s rt : Shape} (hs : s.top = .ok rt) (hrt : rt.isProper = true)
    (v : Value) : ∃ b, s.isValid host v = .ok b ∧ (b = true ↔ Conforms rt v) := by
  obtain ⟨b, hb, hsatisfies⟩ := conforms_decides rt hrt v
  exact ⟨b, isValid_eq_ok hs hb, hsatisfies.trans conforms_iff_satisfies.symm⟩

/-- An optional pair in a record: it may be missing, also from a mapping with other keys, and a
boolean does not stand in for its number. -/
theorem isValid_iff_conforms_pair :
    let rt : Shape := .object [(.ofString "at", .optional (.tuple [.boolean, .number]))]
    let under (x : Value) : Value := .object .plain [(.ofString "at", .array .tuple [.bool true, x])]
    rt.isProper = true ∧ Conforms rt (.object .readOnly [(.int 1, .absent)]) ∧
      Conforms rt (under (.float (.finite false 1023 0))) ∧ ¬ Conforms rt (under (.bool true)) := by
  intro rt under
  have hproper : rt.isProper = true := rfl
  have hverdict : ∀ v b, isValid .shallow (.sealed rt) v = .ok b → (Conforms rt v ↔ b = true) := by
    intro v b hb
    obtain ⟨c, hc, hconforms⟩ := isValid_iff_conforms (s := .sealed rt) rfl hproper v
    rw [hb] at hc
    rw [Except.ok.inj hc, hconforms]
  refine ⟨hproper, (hverdict _ true rfl).2 rfl, (hverdict _ true rfl).2 rfl, fun h => ?_⟩
  exact Bool.false_ne_true ((hverdict _ false rfl).1 h)

end DataShape.Shape
