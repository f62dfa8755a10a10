-- SUMMARY: Entries that are stored under texts one after the other stand under distinct texts.
import DataShape.Proofs.Value.Loose

/-!
# Records

What is stored under a text replaces what was there, in its place, or comes
last. So the entries of an object that is put together one by one have distinct
keys, whatever names were repeated on the way.
-/

namespace DataShape.Value

/-- Whether entries stand under distinct texts and hold what has a property. -/
structure IsRecord {α : Type} (p : α → Prop) (es : List (Value × α)) : Prop where
  keys : HasTextKeys es
  distinct : distinctKeys es = true
  values : ∀ e ∈ es, p e.2

section
variable {α : Type} {p : α → Prop} {key : Value} {a : α} {es : List (Value × α)}

theorem mem_put (hes : HasTextKeys es) {e : Value × α} (he : e ∈ put key a es) :
    e = (key, a) ∨ e ∈ es := by
  induction es with
  | nil => exact .inl (List.mem_singleton.1 he)
  | cons f es ih =>
    obtain ⟨hf, hes⟩ := List.forall_mem_cons.1 hes
    rw [put] at he
    split at he
    · rename_i hkey
      obtain rfl := (looseEq_text_iff hf).1 hkey
      rcases List.mem_cons.1 he with rfl | he
      · exact .inl rfl
      · exact .inr (List.mem_cons_of_mem _ he)
    · rcases List.mem_cons.1 he with rfl | he
      · exact .inr List.mem_cons_self
      · exact (ih hes he).imp_right (List.mem_cons_of_mem _)

theorem distinctKeys_put (hkey : key.kind? = some .string) (hes : HasTextKeys es)
    (hdistinct : distinctKeys es = true) : distinctKeys (put key a es) = true := by
  induction es with
  | nil => rfl
  | cons f es ih =>
    obtain ⟨hf, hes⟩ := List.forall_mem_cons.1 hes
    rw [put]
    split
    · exact hdistinct
    · rename_i hne
      simp only [distinctKeys, Bool.and_eq_true, Option.isNone_iff_eq_none,
        lookup_eq_none_iff_forall_mem] at hdistinct ⊢
      refine ⟨fun e he => ?_, ih hes hdistinct.2⟩
      rcases mem_put hes he with rfl | he
      · intro hsame
        obtain hfkey := (looseEq_text_iff hkey).1 hsame
        exact hne ((looseEq_text_iff hf).2 hfkey.symm)
      · exact hdistinct.1 e he

theorem IsRecord.put (hkey : key.kind? = some .string) (ha : p a) (h : IsRecord p es) :
    IsRecord p (put key a es) where
  keys e he := by
    rcases mem_put h.keys he with rfl | he
    · exact hkey
    · exact h.keys e he
  distinct := distinctKeys_put hkey h.keys h.distinct
  values e he := by
    rcases mem_put h.keys he with rfl | he
    · exact ha
    · exact h.values e he

theorem isRecord_ofEntries (hkeys : HasTextKeys es) (hvalues : ∀ e ∈ es, p e.2) :
    IsRecord p (ofEntries es) := by
  refine List.foldlRecOn es _ ⟨List.forall_mem_nil _, rfl, List.forall_mem_nil _⟩ ?_
  intro acc hacc e he
  exact hacc.put (hkeys e he) (hvalues e he)

end

end DataShape.Value
