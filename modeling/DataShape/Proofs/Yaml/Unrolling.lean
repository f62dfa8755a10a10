-- SUMMARY: Values of pieces without cycles: where the host goes deep enough nothing is cut off.
import DataShape.Proofs.Value.Reportable
import DataShape.Yaml.Content

/-!
# Unrolled pieces

Pieces get their values level by level, each from the values of its parts one
level below. A piece whose parts are of lower rank is complete at a level above
its rank, so what holds of a value whenever it holds of the values of the parts
holds of it there.
-/

namespace DataShape.Yaml.Content

variable {host : Host}

/-! ## Pieces -/

/-- The numbers of the pieces that a piece refers to. -/
def Piece.parts : Piece → List Nat
  | .scalar _ => []
  | .list items => items
  | .pairs items => items.flatMap fun e => [e.1, e.2]
  | .record entries => entries.map (·.2)
  | .set _ => []

/-- Whether what a piece itself holds can be reported, and shown where it is or may become a key. -/
def Piece.isReportable (host : Host) : Piece → Bool
  | .scalar v => v.isReportable host && v.isShowable host
  | .record entries => entries.all fun e => e.1.isShowable host
  | _ => true

def Present (pieces : Array (Option Piece)) (i : Nat) : Prop := ∃ p, pieces[i]? = some (some p)

theorem Present.lt {pieces : Array (Option Piece)} {i : Nat} (h : Present pieces i) :
    i < pieces.size := by
  obtain ⟨p, hp⟩ := h
  exact (Array.getElem?_eq_some_iff.1 hp).1

theorem present_setIfInBounds {pieces : Array (Option Piece)} {i : Nat} (id : Nat) (p : Piece)
    (h : Present pieces i) : Present (pieces.setIfInBounds id (some p)) i := by
  obtain ⟨q, hq⟩ := h
  unfold Present
  rw [Array.getElem?_setIfInBounds]
  split
  · rename_i heq
    subst heq
    exact ⟨p, if_pos (Present.lt ⟨q, hq⟩)⟩
  · exact ⟨q, hq⟩

/-! ## Values by levels -/

/-- Each piece refers only to pieces that are there and of lower rank, and has a value of some kind
if its parts have values of theirs. -/
structure RankedPieces (rank : Nat → Nat) (P : Nat → Value → Prop)
    (pieces : Array (Option Piece)) : Prop where
  falls : ∀ {i : Nat} {p : Piece}, pieces[i]? = some (some p) →
    ∀ part ∈ p.parts, rank part < rank i ∧ Present pieces part
  value : ∀ {i : Nat} {p : Piece}, pieces[i]? = some (some p) →
    ∀ {known : Nat → Value}, (∀ part ∈ p.parts, P part (known part)) → P i (p.value known)

theorem valueAt_unroll_succ {pieces : Array (Option Piece)} {i : Nat} {p : Piece}
    (h : pieces[i]? = some (some p)) (depth : Nat) :
    valueAt (unroll pieces (depth + 1)) i = p.value (valueAt (unroll pieces depth)) := by
  unfold valueAt
  rw [unroll, Array.getElem?_map, h]
  rfl

/-- A piece is complete at the levels above its rank. -/
theorem valueAt_unroll_ranked {rank : Nat → Nat} {P : Nat → Value → Prop}
    {pieces : Array (Option Piece)} (hpieces : RankedPieces rank P pieces) {depth i : Nat}
    (hi : Present pieces i) (hrank : rank i < depth) : P i (valueAt (unroll pieces depth) i) := by
  induction depth generalizing i with
  | zero => exact absurd hrank (Nat.not_lt_zero _)
  | succ depth ih =>
    obtain ⟨p, hp⟩ := hi
    rw [valueAt_unroll_succ hp]
    refine hpieces.value hp fun part hpart => ?_
    obtain ⟨hfalls, hpresent⟩ := hpieces.falls hp part hpart
    exact ih hpresent (by omega)

/-! ## Values that can be reported -/

/-- All pieces can be reported, and each refers only to pieces that are there and of lower rank. -/
structure OrdinaryPieces (host : Host) (rank : Nat → Nat) (pieces : Array (Option Piece)) :
    Prop where
  reportable : ∀ {i : Nat} {p : Piece}, pieces[i]? = some (some p) → p.isReportable host = true
  falls : ∀ {i : Nat} {p : Piece}, pieces[i]? = some (some p) →
    ∀ part ∈ p.parts, rank part < rank i ∧ Present pieces part

/-- The value of a piece can be reported if those of its parts can. -/
theorem Piece.isReportable_value {p : Piece} {known : Nat → Value}
    (hp : p.isReportable host = true)
    (hknown : ∀ part ∈ p.parts, (known part).isReportable host = true) :
    (p.value known).isReportable host = true := by
  cases p with
  | scalar v => exact (Bool.and_eq_true_iff.1 hp).1
  | list items =>
    refine Value.isReportableList_iff.2 (List.forall_mem_map.2 fun i hi => ?_)
    exact hknown i hi
  | pairs items =>
    refine Value.isReportableList_iff.2 (List.forall_mem_map.2 fun e he => ?_)
    have hparts : ∀ part ∈ [e.1, e.2], (known part).isReportable host = true :=
      fun part hpart => hknown part (List.mem_flatMap.2 ⟨e, he, hpart⟩)
    refine Value.isReportableList_iff.2 (List.forall_mem_cons.2 ⟨hparts e.1 (by simp), ?_⟩)
    exact List.forall_mem_singleton.2 (hparts e.2 (by simp))
  | record entries =>
    refine Value.isReportableEntries_iff.2 (List.forall_mem_map.2 fun e he => ?_)
    exact ⟨List.all_eq_true.1 hp e he, hknown e.2 (List.mem_map.2 ⟨e, he, rfl⟩)⟩
  | set elements => rfl

theorem isReportable_valueAt_unroll {rank : Nat → Nat} {pieces : Array (Option Piece)}
    (hpieces : OrdinaryPieces host rank pieces) {depth i : Nat} (hi : Present pieces i)
    (hrank : rank i < depth) : (valueAt (unroll pieces depth) i).isReportable host = true := by
  have hranked : RankedPieces rank (fun _ v => v.isReportable host = true) pieces :=
    ⟨hpieces.falls, fun hp _ => Piece.isReportable_value (hpieces.reportable hp)⟩
  exact valueAt_unroll_ranked hranked hi hrank

end DataShape.Yaml.Content
