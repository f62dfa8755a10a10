-- SUMMARY: What becomes of a shape with plain literals that is written and read again, and when it equals the shape.
import DataShape.Proofs.Definition.Preservation
import DataShape.Shape.Equal

/-!
# Equality with plain literals

Shapes are equal form by form, and fields by their keys, so only literals can
set a shape apart from the one with plain literals that is read again. They do
when a tuple occurs in one of them at whatever depth, or what is not a number
and is another object than the one that is read.
-/

namespace DataShape.Shape

mutual

/-- The shape with the value of each literal as it is read again once it is written. -/
def rereadLiterals : Shape → Shape
  | .literal v => .literal v.reread
  | .optional s => .optional (rereadLiterals s)
  | .array s => .array (rereadLiterals s)
  | .tuple ss => .tuple (rereadLiteralsList ss)
  | .union ss => .union (rereadLiteralsList ss)
  | .object fs => .object (rereadLiteralsFields fs)
  | s => s
termination_by structural s => s

def rereadLiteralsList : List Shape → List Shape
  | [] => []
  | s :: ss => rereadLiterals s :: rereadLiteralsList ss
termination_by structural ss => ss

def rereadLiteralsFields : List (Value × Shape) → List (Value × Shape)
  | [] => []
  | (key, s) :: fs => (key, rereadLiterals s) :: rereadLiteralsFields fs
termination_by structural fs => fs

end

theorem rereadLiteralsList_eq_map (ss : List Shape) :
    rereadLiteralsList ss = ss.map rereadLiterals := by
  induction ss with
  | nil => rfl
  | cons s ss ih => rw [rereadLiteralsList, ih, List.map_cons]

theorem rereadLiteralsFields_eq_map (fs : List (Value × Shape)) :
    rereadLiteralsFields fs = fs.map fun f => (f.1, f.2.rereadLiterals) := by
  induction fs with
  | nil => rfl
  | cons f fs ih => rw [rereadLiteralsFields, ih, List.map_cons]

variable {g : Shape → Shape}

theorem sameList_map_iff {ss : List Shape} :
    sameList (ss.map g) ss = true ↔ ∀ s ∈ ss, (g s).same s = true := by
  induction ss with
  | nil => simp [sameList]
  | cons s ss ih =>
    rw [List.map_cons, sameList, Bool.and_eq_true, ih, List.forall_mem_cons]

theorem sameFields_iff {fs gs : List (Value × Shape)} :
    sameFields fs gs = true ↔ ∀ f ∈ fs, ∃ s, Value.lookup f.1 gs = some s ∧ f.2.same s = true := by
  induction fs with
  | nil => simp [sameFields]
  | cons f fs ih =>
    rw [sameFields, Bool.and_eq_true, ih, List.forall_mem_cons]
    apply and_congr_left'
    cases Value.lookup f.1 gs <;> simp

/-- Each field is compared with itself, since its key finds no other. -/
theorem same_object_map_iff {fs : List (Value × Shape)} (hkeys : Value.HasTextKeys fs)
    (hdistinct : Value.distinctKeys fs = true) :
    (object (fs.map fun f => (f.1, g f.2))).same (object fs) = true ↔
      ∀ f ∈ fs, (g f.2).same f.2 = true := by
  simp only [same, List.length_map, decide_true, Bool.true_and, sameFields_iff, List.forall_mem_map]
  apply forall₂_congr
  intro f hf
  rw [Value.lookup_of_mem_of_hasTextKeys hkeys hdistinct hf]
  simp

/-- Whether neither a tuple occurs in a literal of the tree, nor something that is not a number and
is not the one that the word for it stands for. -/
def hasNoTupleOrMadeNaN (s : Shape) : Bool := s.allLiterals fun v => !v.hasTupleOrMadeNaN

/-- The shape that is read again once the shape with plain literals is written. -/
abbrev reread (s : Shape) : Shape := s.withPlainLiterals.rereadLiterals

/-- Whether reading again makes a difference exactly where a tuple or another NaN occurs. -/
def RereadingShows (s : Shape) : Prop :=
  s.isWritable = true → s.isStrict = true → s.isWellFormed = true →
    (s.reread.same s = true ↔ s.hasNoTupleOrMadeNaN = true)

theorem sameList_reread_iff {ss : List Shape} (h : ∀ s ∈ ss, s.RereadingShows)
    (hwritable : allLiteralsList Value.isJson ss = true) (hstrict : isStrictList ss = true)
    (hformed : isWellFormedList ss = true) :
    sameList (ss.map reread) ss = true ↔
      allLiteralsList (fun v => !v.hasTupleOrMadeNaN) ss = true := by
  rw [allLiteralsList_iff] at hwritable
  rw [isStrictList_iff] at hstrict
  rw [isWellFormedList_iff] at hformed
  rw [sameList_map_iff, allLiteralsList_iff]
  apply forall₂_congr
  intro s hs
  exact h s hs (hwritable s hs) (hstrict s hs) (hformed s hs)

theorem rereadingShows (s : Shape) : s.RereadingShows := by
  induction s using inductionOnParts with
  | literal v =>
    intro hjson _ hformed
    rw [reread, withPlainLiterals, rereadLiterals, same, hasNoTupleOrMadeNaN, allLiterals,
      Bool.not_eq_true']
    exact Value.looseEq_reread_plain_iff v hjson hformed
  | optional s ih => exact ih
  | array s ih => exact ih
  | tuple ss ih | union ss ih =>
    intro hwritable hstrict hformed
    rw [reread, withPlainLiterals, withPlainLiteralsList_eq_map, rereadLiterals,
      rereadLiteralsList_eq_map, List.map_map]
    exact sameList_reread_iff ih hwritable (Bool.and_eq_true_iff.1 hstrict).2 hformed
  | object fs ih =>
    intro hwritable hstrict hformed
    have hfs := allLiteralsFields_iff.1 hwritable
    have hfs' := isStrictFields_iff.1 hstrict
    obtain ⟨hdistinct, hfs''⟩ := Bool.and_eq_true_iff.1 hformed
    rw [isWellFormedFields_iff] at hfs''
    have hkeys : Value.HasTextKeys fs := fun f hf => (hfs' f hf).1
    have hmap : (fs.map fun f => (f.1, f.2.withPlainLiterals)).map
        (fun f => (f.1, f.2.rereadLiterals)) = fs.map fun f => (f.1, f.2.reread) := by
      rw [List.map_map]
      rfl
    rw [reread, withPlainLiterals, withPlainLiteralsFields_eq_map, rereadLiterals,
      rereadLiteralsFields_eq_map, hmap, same_object_map_iff hkeys hdistinct, hasNoTupleOrMadeNaN,
      allLiterals, allLiteralsFields_iff]
    apply forall₂_congr
    intro f hf
    exact ih f hf (hfs f hf) (hfs' f hf).2 (hfs'' f hf).2
  | foreign v =>
    intro hwritable
    cases hwritable
  | sealed s _ =>
    intro hwritable
    cases hwritable
  | _ =>
    intro _ _ _
    exact iff_of_true rfl rfl

/-- What is read again equals the shape that was written exactly when neither a tuple occurs in a
literal nor another NaN. -/
theorem reread_eq_iff {s : Shape} (hwritable : s.isWritable = true) (hstrict : s.isStrict = true)
    (hformed : s.isWellFormed = true) :
    s.reread.eq s = true ↔ s.hasNoTupleOrMadeNaN = true := by
  rw [← rereadingShows s hwritable hstrict hformed]
  cases s with
  | foreign v => cases hwritable
  | _ => rfl

end DataShape.Shape
