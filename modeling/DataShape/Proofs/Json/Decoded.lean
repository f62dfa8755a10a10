-- SUMMARY: What JSON text decodes to: plain data whose keys are distinct texts, with no number that is not a number.
import DataShape.Json.Read
import DataShape.Proofs.Value.Records
import DataShape.Proofs.Value.Reflexivity

/-!
# Decoded values

The reader builds values from their parts, and each step keeps them plain. No
digits spell a number that is not a number, and the words for such numbers stop
the reader wherever they stand.
-/

namespace DataShape

/-! ## Numbers -/

namespace Binary64

theorem isNaN_ofSignificand (negative : Bool) (m : Nat) (q : Int) :
    (ofSignificand negative m q).isNaN = false := by
  unfold ofSignificand
  split
  dsimp only
  split_ifs <;> rfl

theorem isNaN_ofQuotient (negative : Bool) (num den : Nat) :
    (ofQuotient negative num den).isNaN = false := by
  unfold ofQuotient
  split
  · rfl
  · exact isNaN_ofSignificand ..

theorem isNaN_ofDecimal (negative : Bool) (digits : Nat) (exponent : Int) :
    (ofDecimal negative digits exponent).isNaN = false := by
  unfold ofDecimal
  dsimp only
  split_ifs
  · rfl
  · rfl
  · rfl
  · exact isNaN_ofQuotient ..

end Binary64

namespace Numeral

theorem isNaN_of_scaled {negative : Bool} {digits : Text} {exponent : Int} {x : Binary64}
    (h : (if digits.isEmpty then none
      else (digits? digits).map fun n => Binary64.ofDecimal negative n exponent) = some x) :
    x.isNaN = false := by
  split at h
  · cases h
  · obtain ⟨n, -, rfl⟩ := Option.map_eq_some_iff.1 h
    exact Binary64.isNaN_ofDecimal ..

theorem isNaN_of_unsignedDecimal? {negative : Bool} {t : Text} {x : Binary64}
    (h : unsignedDecimal? negative t = some x) : x.isNaN = false := by
  unfold unsignedDecimal? at h
  dsimp only at h
  generalize Text.splitAt _ _ = parts at h
  rcases parts with _ | ⟨whole, _ | ⟨fraction, _ | _⟩⟩
  · cases h
  · dsimp only at h
    split at h
    · exact isNaN_of_scaled h
    · cases h
  · dsimp only at h
    split at h
    · exact isNaN_of_scaled h
    · cases h
  · cases h

end Numeral

namespace Value

/-! ## Decoded values -/

theorem isPlain_array_iff {vs : List Value} :
    (array .list vs).isPlain = true ↔ ∀ v ∈ vs, v.isPlain = true := by
  simp only [isPlain, decide_true, Bool.true_and]
  induction vs with
  | nil => simp [isPlainList]
  | cons v vs ih => simp [isPlainList, ih]

theorem isPlain_object_iff {es : List (Value × Value)} :
    (object .plain es).isPlain = true ↔ HasTextKeys es ∧ ∀ e ∈ es, e.2.isPlain = true := by
  simp only [isPlain, decide_true, Bool.true_and, HasTextKeys, ← forall₂_and]
  induction es with
  | nil => simp [isPlainEntries]
  | cons e es ih =>
    simp only [isPlainEntries, Bool.and_eq_true, decide_eq_true_eq, ih, List.forall_mem_cons]

/-- Whether a value is plain, with distinct keys at every depth and no number that is not a number.
-/
structure IsDecoded (v : Value) : Prop where
  isPlain : v.isPlain = true
  wellFormed : WellFormed v
  hasNaN : v.hasNaN = false

namespace IsDecoded

theorem list {vs : List Value} (h : ∀ v ∈ vs, IsDecoded v) : IsDecoded (.list vs) where
  isPlain := isPlain_array_iff.2 fun v hv => (h v hv).isPlain
  wellFormed := wellFormed_array_iff.2 fun v hv => (h v hv).wellFormed
  hasNaN := anyHasNaN_eq_false_iff.2 fun v hv => (h v hv).hasNaN

theorem object {es : List (Value × Value)} (h : IsRecord IsDecoded es) :
    IsDecoded (.object .plain es) where
  isPlain := isPlain_object_iff.2 ⟨h.keys, fun e he => (h.values e he).isPlain⟩
  wellFormed := by
    refine wellFormed_object_iff.2 ⟨h.distinct, fun e he => ⟨?_, (h.values e he).wellFormed⟩⟩
    obtain ⟨t, ht⟩ := kind?_eq_string_iff.1 (h.keys e he)
    rw [ht]
    rfl
  hasNaN := anyEntryHasNaN_eq_false_iff.2 fun e he => (h.values e he).hasNaN

theorem jsonEqual_self {v : Value} (h : IsDecoded v) : JsonEqual v v :=
  (jsonEq_self_iff v h.wellFormed).2 h.hasNaN

end IsDecoded

end Value

/-! ## Readers -/

namespace Json

open Value (IsDecoded IsRecord HasTextKeys)

/-- Whether a reader fails or gives a decoded value. -/
def Decodes (r : Except ReadFault (Value × Cursor)) : Prop :=
  ∀ v c, r = .ok (v, c) → IsDecoded v

namespace Decodes

theorem ok {v : Value} (c : Cursor) (h : IsDecoded v) : Decodes (.ok (v, c)) := by
  rintro _ _ ⟨⟩
  exact h

theorem error (e : ReadFault) : Decodes (.error e) := nofun

end Decodes

theorem readNumber_decodes (c : Cursor) : Decodes (readNumber c) := by
  unfold readNumber
  dsimp only
  split_ifs
  · exact .error _
  · exact .error _
  · exact .ok _ ⟨rfl, rfl, rfl⟩
  · exact .ok _ ⟨rfl, rfl, rfl⟩
  · split
    · rename_i x hx
      exact .ok _ ⟨rfl, rfl, Numeral.isNaN_of_unsignedDecimal? hx⟩
    · exact .error _

theorem readAtom_decodes (c : Cursor) : Decodes (readAtom c) := by
  unfold readAtom readWord?
  split_ifs
  · exact .ok _ ⟨rfl, rfl, rfl⟩
  · exact .ok _ ⟨rfl, rfl, rfl⟩
  · exact .ok _ ⟨rfl, rfl, rfl⟩
  · exact .error _
  · exact .error _
  · exact .error _
  · exact readNumber_decodes c

/-- Whether the readers of values, with some fuel, give decoded values. -/
structure ReadsDecoded (nesting fuel : Nat) : Prop where
  value : ∀ depth c, Decodes (readValue nesting fuel depth c)
  items : ∀ depth c acc, (∀ v ∈ acc, IsDecoded v) → Decodes (readItems nesting fuel depth c acc)
  entries : ∀ depth c acc, HasTextKeys acc → (∀ e ∈ acc, IsDecoded e.2) →
    Decodes (readEntries nesting fuel depth c acc)

namespace ReadsDecoded

variable {nesting fuel : Nat}

theorem zero : ReadsDecoded nesting 0 where
  value _ _ := .error _
  items _ _ _ _ := .error _
  entries _ _ _ _ _ := .error _

theorem value_succ (h : ReadsDecoded nesting fuel) (depth : Nat) (c : Cursor) :
    Decodes (readValue nesting (fuel + 1) depth c) := by
  unfold readValue
  cases c.rest with
  | nil => exact .error _
  | cons x t =>
    dsimp only
    split_ifs
    · intro v after hstring
      obtain ⟨⟨text, rest⟩, -, hv⟩ := Except.map_eq_ok.1 hstring
      cases hv
      exact ⟨rfl, rfl, rfl⟩
    · exact .error _
    · exact .ok _ (.list (List.forall_mem_nil _))
    · exact h.items _ _ _ (List.forall_mem_nil _)
    · exact .error _
    · exact .ok _ (.object ⟨List.forall_mem_nil _, rfl, List.forall_mem_nil _⟩)
    · exact h.entries _ _ _ (List.forall_mem_nil _) (List.forall_mem_nil _)
    · exact readAtom_decodes c

theorem items_succ (h : ReadsDecoded nesting fuel) (depth : Nat) (c : Cursor) (acc : List Value)
    (hacc : ∀ v ∈ acc, IsDecoded v) : Decodes (readItems nesting (fuel + 1) depth c acc) := by
  unfold readItems
  split
  · exact .error _
  · rename_i v after hread
    have hacc' := List.forall_mem_cons.2 ⟨h.value depth c v after hread, hacc⟩
    dsimp only
    split_ifs
    · exact .ok _ (.list fun w hw => hacc' w (List.mem_reverse.1 hw))
    · exact h.items _ _ _ hacc'
    · exact .error _

theorem entries_succ (h : ReadsDecoded nesting fuel) (depth : Nat) (c : Cursor)
    (acc : List (Value × Value)) (hkeys : HasTextKeys acc) (hacc : ∀ e ∈ acc, IsDecoded e.2) :
    Decodes (readEntries nesting (fuel + 1) depth c acc) := by
  unfold readEntries
  split
  · exact .error _
  split
  · exact .error _
  rename_i name after hname
  dsimp only
  split
  · exact .error _
  split
  · exact .error _
  rename_i v after' hread
  have hkeys' : HasTextKeys ((.str name, v) :: acc) := List.forall_mem_cons.2 ⟨rfl, hkeys⟩
  have hacc' : ∀ e ∈ (Value.str name, v) :: acc, IsDecoded e.2 :=
    List.forall_mem_cons.2 ⟨h.value depth _ v after' hread, hacc⟩
  split_ifs
  · refine .ok _ (.object (Value.isRecord_ofEntries (fun e he => ?_) fun e he => ?_))
    · exact hkeys' e (List.mem_reverse.1 he)
    · exact hacc' e (List.mem_reverse.1 he)
  · exact h.entries _ _ _ hkeys' hacc'
  · exact .error _

theorem succ (h : ReadsDecoded nesting fuel) : ReadsDecoded nesting (fuel + 1) where
  value := h.value_succ
  items := h.items_succ
  entries := h.entries_succ

end ReadsDecoded

theorem readsDecoded (nesting fuel : Nat) : ReadsDecoded nesting fuel := by
  induction fuel with
  | zero => exact .zero
  | succ fuel ih => exact ih.succ

/-! ## Texts -/

variable {nesting : Nat}

theorem isDecoded_of_readText {text : Text} {v : Value} (h : readText nesting text = .ok v) :
    IsDecoded v := by
  obtain ⟨⟨w, after⟩, hread, h⟩ := Except.bind_eq_ok.1 h
  dsimp only at h
  split at h
  · cases h
    exact (readsDecoded _ _).value _ _ _ _ hread
  · cases h

theorem isDecoded_of_readUnmarked {text : Text} {v : Value}
    (h : readUnmarked nesting text = .ok v) : IsDecoded v := by
  unfold readUnmarked at h
  split at h
  · cases h
  · exact isDecoded_of_readText h

theorem mapError_eq_ok {ε ε' α : Type} {x : Except ε α} {f : ε → ε'} {a : α}
    (h : x.mapError f = .ok a) : x = .ok a := by
  cases x with
  | error e => cases h
  | ok b => exact congrArg Except.ok (Except.ok.inj h)

/-- What comes out of a text or out of bytes is a fault or a decoded value. -/
theorem isDecoded_of_decode {source v : Value} (h : decode nesting source = .ok (.ok v)) :
    IsDecoded v := by
  unfold decode at h
  split at h
  · exact isDecoded_of_readUnmarked (mapError_eq_ok (Except.ok.inj h))
  · have h := Except.ok.inj h
    split at h
    · cases h
    · exact isDecoded_of_readText (mapError_eq_ok h)
  · cases h

end Json

end DataShape
