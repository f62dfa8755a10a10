-- SUMMARY: What records hold under keys that no node of a shape declares makes no difference, at any depth.
import DataShape.Proofs.Shape.Alike
import DataShape.Proofs.Value.JsonEq

/-!
# Undeclared keys

A node for records looks up the keys it declares, and no other. Two values that
differ only in what their records hold under keys that no node of the tree
declares are therefore told apart by literals alone, and by these only if a
record stands in one: it would be compared as a whole.
-/

namespace DataShape

namespace Value

/-! ## Values that agree on keys -/

/-- Whether two values differ at most in what records hold under other keys than these. Containers
may come in another form. -/
inductive AgreesOn (keys : Value → Prop) : Value → Value → Prop
  | keep (v : Value) : AgreesOn keys v v
  | array {form form' : ArrayForm} {vs ws : List Value} (h : List.Forall₂ (AgreesOn keys) vs ws) :
      AgreesOn keys (.array form vs) (.array form' ws)
  | object {form form' : ObjectForm} {es fs : List (Value × Value)}
      (h : ∀ key, keys key → Option.Rel (AgreesOn keys) (lookup key es) (lookup key fs)) :
      AgreesOn keys (.object form es) (.object form' fs)

/-- Whether no entry is found under any of the keys. -/
def Outside (keys : Value → Prop) (es : List (Value × Value)) : Prop :=
  ∀ e ∈ es, ∀ key, keys key → ¬ LooselyEqual key e.1

section
variable {keys : Value → Prop} {v w : Value}

theorem Outside.lookup_eq_none {es : List (Value × Value)} (h : Outside keys es) {key : Value}
    (hkey : keys key) : lookup key es = none :=
  lookup_eq_none_iff_forall_mem.2 fun e he => h e he key hkey

theorem lookup_append {α : Type} (key : Value) (es fs : List (Value × α)) :
    lookup key (es ++ fs) = (lookup key es).or (lookup key fs) := by
  rw [lookup, List.find?_append, Option.map_or]
  rfl

theorem rel_keep (v? : Option Value) : Option.Rel (AgreesOn keys) v? v? := by
  cases v? with
  | none => exact .none
  | some v => exact .some (.keep v)

/-- Entries under other keys may be added, changed and removed. -/
theorem AgreesOn.splice {form form' : ObjectForm} (front out out' back : List (Value × Value))
    (hout : Outside keys out) (hout' : Outside keys out') :
    AgreesOn keys (.object form (front ++ out ++ back)) (.object form' (front ++ out' ++ back)) := by
  apply AgreesOn.object
  intro key hkey
  simp only [lookup_append, hout.lookup_eq_none hkey, hout'.lookup_eq_none hkey]
  exact rel_keep _

/-! ## Literals without records -/

mutual

/-- Whether a value is no record, and an array only of such values. -/
def isRecordFree : Value → Bool
  | .array _ items => areRecordFree items
  | .object _ _ => false
  | _ => true
termination_by structural v => v

def areRecordFree : List Value → Bool
  | [] => true
  | v :: vs => isRecordFree v && areRecordFree vs
termination_by structural vs => vs

end

theorem areRecordFree_iff {vs : List Value} :
    areRecordFree vs = true ↔ ∀ v ∈ vs, v.isRecordFree = true := by
  induction vs with
  | nil => simp [areRecordFree]
  | cons v vs ih => simp [areRecordFree, ih]

theorem jsonEqual_forall₂_congr {xs : List Value}
    (hxs : ∀ x ∈ xs, ∀ v w, AgreesOn keys v w → (JsonEqual v x ↔ JsonEqual w x))
    {vs ws : List Value} (h : List.Forall₂ (AgreesOn keys) vs ws) :
    List.Forall₂ JsonEqual vs xs ↔ List.Forall₂ JsonEqual ws xs := by
  induction h generalizing xs with
  | nil => rfl
  | cons hvw _ ih =>
    cases xs with
    | nil => simp
    | cons x xs =>
      obtain ⟨hx, hxs⟩ := List.forall_mem_cons.1 hxs
      rw [List.forall₂_cons, List.forall₂_cons, hx _ _ hvw, ih hxs]

theorem AgreesOn.kind?_eq (h : AgreesOn keys v w) : v.kind? = w.kind? := by
  cases h with
  | _ => rfl

theorem AgreesOn.jsonEqual_iff_of_isScalar (h : AgreesOn keys v w) {x : Value} (hx : x.IsScalar) :
    JsonEqual v x ↔ JsonEqual w x := by
  cases h with
  | keep v => rfl
  | array _ =>
    have hno : ∀ form vs, ¬ JsonEqual (.array form vs) x :=
      fun _ _ hvx => hx.1 (kind?_eq_of_jsonEq hvx).symm
    exact iff_of_false (hno _ _) (hno _ _)
  | object _ =>
    have hno : ∀ form es, ¬ JsonEqual (.object form es) x :=
      fun _ _ hvx => hx.2 (kind?_eq_of_jsonEq hvx).symm
    exact iff_of_false (hno _ _) (hno _ _)

/-- Where no record stands in a literal, it equals both of two values that agree, or neither. -/
theorem AgreesOn.jsonEqual_iff (x : Value) :
    x.isRecordFree = true → ∀ v w, AgreesOn keys v w → (JsonEqual v x ↔ JsonEqual w x) := by
  -- Only arrays are compared part by part here, so the induction is on the literal.
  induction x using inductionOnData with
  | array form xs ih =>
    intro hfree v w hvw
    cases hvw with
    | keep v => rfl
    | array hitems =>
      have hxs := fun x hx => ih x hx (areRecordFree_iff.1 hfree x hx)
      rw [jsonEq_arrays_iff, jsonEq_arrays_iff]
      exact jsonEqual_forall₂_congr hxs hitems
    | object _ =>
      have hno : ∀ form es, ¬ JsonEqual (.object form es) (.array ‹_› xs) :=
        fun _ _ hvx => nomatch kind?_eq_of_jsonEq hvx
      exact iff_of_false (hno _ _) (hno _ _)
  | object form es _ => exact fun hfree => absurd hfree Bool.false_ne_true
  | scalar x hx => exact fun _ v w hvw => hvw.jsonEqual_iff_of_isScalar hx

theorem alike_agreesOn : Alike keys (fun x => x.isRecordFree = true) (AgreesOn keys) where
  kind := fun _ _ => AgreesOn.kind?_eq
  absent := by
    intro v w hvw
    cases hvw with
    | keep v => rfl
    | array hitems => simp
    | object hentries => simp
  items := by
    intro form vs form' ws hvw
    cases hvw with
    | keep v => exact List.forall₂_same.2 fun v _ => .keep v
    | array hitems => exact hitems
  entries := by
    intro form es form' fs hvw key hkey
    cases hvw with
    | keep v => exact rel_keep _
    | object hentries => exact hentries key hkey
  literal := by
    intro v w hvw x hx
    exact Bool.eq_iff_iff.2 (AgreesOn.jsonEqual_iff x hx v w hvw)

end

end Value

namespace Shape

variable {host : Host}

/-! ## Declared keys -/

/-- Whether a node of a tree declares a field under a key. -/
def Declares (s : Shape) (key : Value) : Prop :=
  ∃ fs, Occurs (.object fs) s ∧ ∃ f ∈ fs, f.1 = key

theorem allNodes_asksOnly_declares {s : Shape} {literals : Value → Prop}
    (h : ∀ x, Occurs (.literal x) s → literals x) : s.AllNodes (AsksOnly s.Declares literals) := by
  intro t ht
  cases t with
  | literal x => exact h x ht
  | object fs => exact fun f hf => ⟨fs, ht, f, hf, rfl⟩
  | _ => trivial

theorem Declares.of_asksOnly {s : Shape} {keys literals : Value → Prop} {key : Value}
    (h : s.Declares key) (hs : s.AllNodes (AsksOnly keys literals)) : keys key := by
  obtain ⟨fs, hfs, f, hf, rfl⟩ := h
  exact hs _ hfs f hf

/-- A tree whose literals hold no records has one outcome for values that agree on the keys declared
in it. -/
theorem isValid_eq_of_agreesOn {s rt : Shape} (hs : s.top = .ok rt)
    (hliterals : ∀ x, Occurs (.literal x) rt → x.isRecordFree = true) {v w : Value}
    (h : Value.AgreesOn rt.Declares v w) : s.isValid host v = s.isValid host w := by
  have hasks := allNodes_asksOnly_declares hliterals
  have hsame := isBlindTo_of_alike Value.alike_agreesOn rt hasks v w h
  rw [isValid, isValid, check_of_top hs, check_of_top hs, hsame]

/-- A list of records that two members of a union declare different keys for. A note is changed, an
entry of a nested record removed, and one added, each under a key that neither member declares. -/
theorem isValid_eq_of_agreesOn_two_members :
    let point : Shape := .object [(.ofString "at", .literal (.list [.int 1, .int 2]))]
    let link : Shape := .object [(.ofString "next", .optional point)]
    let rt : Shape := .array (.union [point, link])
    let place : Value × Value := (.ofString "at", .array .tuple [.int 1, .int 2])
    let v : Value := .list [.object .plain [(.ofString "note", .int 5), place],
      .object .plain [(.ofString "next", .object .plain [place, (.ofString "extra", .null)])]]
    let w : Value := .list [.object .plain [(.ofString "note", .object .plain []), place],
      .object .plain [(.int 0, .bool true), (.ofString "next", .object .plain [place])]]
    Value.AgreesOn rt.Declares v w ∧ rt.isValid .shallow v = .ok true ∧
      rt.isValid .shallow w = .ok true := by
  intro point link rt place v w
  let declared : List Value := [.ofString "at", .ofString "next"]
  have hasks : rt.AllNodes (AsksOnly (· ∈ declared) (fun x => x.isRecordFree = true)) := by
    simp [rt, point, link, declared, AsksOnly, allNodes_array_iff, allNodes_union_iff,
      allNodes_object_iff, allNodes_optional_iff, allNodes_literal_iff, Value.isRecordFree,
      Value.areRecordFree, Value.list]
  have hout : ∀ e : Value × Value, (∀ key ∈ declared, ¬ key.looseEq e.1 = true) →
      Value.Outside rt.Declares [e] := by
    rintro e he _ hmem key hkey
    obtain rfl := List.mem_singleton.1 hmem
    exact he key (hkey.of_asksOnly hasks)
  have hagree : Value.AgreesOn rt.Declares v w := by
    apply Value.AgreesOn.array
    refine .cons ?_ (.cons (.object fun key hkey => ?_) .nil)
    · exact .splice [] [_] [_] [place] (hout _ (by decide)) (hout _ (by decide))
    · obtain rfl | rfl : key = .ofString "at" ∨ key = .ofString "next" := by
        simpa [declared] using hkey.of_asksOnly hasks
      · exact .none
      · apply Option.Rel.some
        exact .splice [place] [_] [] [] (hout _ (by decide)) (fun _ he => nomatch he)
  have hverdict : rt.isValid .shallow v = .ok true := rfl
  have hsame : rt.isValid .shallow v = rt.isValid .shallow w :=
    isValid_eq_of_agreesOn rfl (fun x hx => hasks _ hx) hagree
  exact ⟨hagree, hverdict, hsame ▸ hverdict⟩

end Shape

end DataShape
