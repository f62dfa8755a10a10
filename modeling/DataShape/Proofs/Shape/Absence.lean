-- SUMMARY: Which shapes absence conforms to, told from the alternatives that a shape offers.
import DataShape.Proofs.Shape.Entailment
import DataShape.Shape.Builder

/-!
# Absence

A union offers its members, and what those of them offer that are unions. One
alternative that takes a value is enough for the whole, and so is one
alternative that accepts absence. Alternative by alternative, acceptance of
absence and the check differ in one form only: the literal of absence itself,
which the check passes and acceptance does not look at.
-/

namespace DataShape.Shape

variable {host : Host}

/-! ## Alternatives -/

def isUnion : Shape → Bool
  | .union _ => true
  | _ => false

/-- Whether `t`, which is no union, is what a shape offers: the shape itself, or an alternative of a
member. -/
inductive Alternative (t : Shape) : Shape → Prop
  | here (ht : t.isUnion = false) : Alternative t t
  | member {ss : List Shape} {s : Shape} (hs : s ∈ ss) (h : Alternative t s) :
      Alternative t (.union ss)

theorem alternative_union_iff {t : Shape} {ss : List Shape} :
    Alternative t (.union ss) ↔ ∃ s ∈ ss, Alternative t s := by
  constructor
  · intro h
    cases h with
    | here ht => cases ht
    | member hs h => exact ⟨_, hs, h⟩
  · rintro ⟨s, hs, h⟩
    exact .member hs h

theorem alternative_iff_eq {s t : Shape} (hs : s.isUnion = false) : Alternative t s ↔ t = s := by
  constructor
  · intro h
    cases h with
    | here => rfl
    | member => cases hs
  · rintro rfl
    exact .here hs

theorem exists_alternative_iff {p : Shape → Prop} {s : Shape} (hs : s.isUnion = false) :
    (∃ t, Alternative t s ∧ p t) ↔ p s := by
  simp only [alternative_iff_eq hs, exists_eq_left]

/-- What holds of a union exactly when it holds of a member holds of a shape exactly when it holds
of an alternative. -/
theorem iff_exists_alternative {p : Shape → Prop}
    (hunion : ∀ ss, p (.union ss) ↔ ∃ s ∈ ss, p s) (s : Shape) :
    p s ↔ ∃ t, Alternative t s ∧ p t := by
  induction s using inductionOnParts with
  | union ss ih =>
    rw [hunion]
    constructor
    · rintro ⟨s, hs, hp⟩
      obtain ⟨t, ht, hpt⟩ := (ih s hs).1 hp
      exact ⟨t, .member hs ht, hpt⟩
    · rintro ⟨t, ht, hpt⟩
      obtain ⟨s, hs, hts⟩ := alternative_union_iff.1 ht
      exact ⟨s, hs, (ih s hs).2 ⟨t, hts, hpt⟩⟩
  -- What elements and fields satisfy does not matter here, so their hypotheses go unused.
  | _ => exact (exists_alternative_iff rfl).symm

theorem Alternative.isUnion_eq_false {s t : Shape} (h : Alternative t s) : t.isUnion = false := by
  induction h with
  | here ht => exact ht
  | member _ _ ih => exact ih

theorem Alternative.allLiterals {p : Value → Bool} {s t : Shape} (h : Alternative t s)
    (hs : s.allLiterals p = true) : t.allLiterals p = true := by
  induction h with
  | here => exact hs
  | member hmem _ ih => exact ih (allLiteralsList_iff.1 hs _ hmem)

/-! ## What absence conforms to -/

theorem anyAcceptsAbsent_iff {ss : List Shape} :
    anyAcceptsAbsent ss = true ↔ ∃ s ∈ ss, s.acceptsAbsent = true := by
  induction ss with
  | nil => simp [anyAcceptsAbsent]
  | cons s ss ih => simp [anyAcceptsAbsent, ih]

theorem acceptsAbsent_iff {s : Shape} :
    s.acceptsAbsent = true ↔ ∃ e, Alternative (.optional e) s := by
  rw [iff_exists_alternative (p := fun s => s.acceptsAbsent = true) fun _ => anyAcceptsAbsent_iff]
  constructor
  · rintro ⟨t, ht, hform⟩
    cases t with
    | optional e => exact ⟨e, ht⟩
    | union ss => cases ht.isUnion_eq_false
    | _ => cases hform
  · rintro ⟨e, he⟩
    exact ⟨_, he, rfl⟩

/-- Absence satisfies the shapes that accept it by their form, and those with the literal of absence
among their alternatives. -/
theorem satisfies_absent_iff {s : Shape} :
    s.Satisfies .absent ↔ s.acceptsAbsent = true ∨ Alternative (.literal .absent) s := by
  rw [acceptsAbsent_iff,
    iff_exists_alternative (p := fun s => s.Satisfies .absent) fun _ => satisfiesSome_iff_exists_mem]
  constructor
  · rintro ⟨t, ht, hsatisfies⟩
    cases t with
    | optional e => exact .inl ⟨e, ht⟩
    | literal x =>
      obtain rfl : x = .absent := Value.jsonEq_absent_iff.1 hsatisfies
      exact .inr ht
    | union ss => cases ht.isUnion_eq_false
    | _ => simp [Satisfies, Value.kind?] at hsatisfies
  · rintro (⟨e, he⟩ | hliteral)
    · exact ⟨_, he, .inl rfl⟩
    · exact ⟨_, hliteral, rfl⟩

/-- When no literal holds what JSON cannot write, the form tells. -/
theorem satisfies_absent_iff_of_kinds {s : Shape}
    (hs : s.allLiterals (fun x => x.kind?.isSome) = true) :
    s.Satisfies .absent ↔ s.acceptsAbsent = true := by
  rw [satisfies_absent_iff, or_iff_left]
  intro hliteral
  exact Bool.false_ne_true (hliteral.allLiterals hs)

/-- Absence conforms where the shape accepts it by its form, or offers the literal of absence. A
record that declares one field of the shape takes the empty mapping exactly then. -/
theorem isValid_absent_iff {s : Shape} (hs : s.isProper = true) :
    ∃ b, s.isValid host .absent = .ok b ∧
      (b = true ↔ s.acceptsAbsent = true ∨ Alternative (.literal .absent) s) ∧
      ∀ (record : Shape) (key : Value) (form : ObjectForm),
        record.top = .ok (.object [(key, s)]) → record.isValid host (.object form []) = .ok b := by
  obtain ⟨b, hb, hsatisfies⟩ := isValid_decides hs .absent
  refine ⟨b, hb, hsatisfies.trans satisfies_absent_iff, fun record key form htop => ?_⟩
  have hproper : (object [(key, s)]).isProper = true := by
    simpa [isProper, allLiterals, allLiteralsFields] using hs
  have hrecord : Decides (record.isValid host (.object form [])) _ :=
    isValid_decides_of_top htop hproper (.object form [])
  -- Nothing is stored under the key, so the field is asked about absence.
  have hfield : (object [(key, s)]).Satisfies (.object form []) ↔ s.Satisfies .absent :=
    satisfies_object_iff.trans (and_iff_left trivial)
  rw [← hb]
  exact hrecord.eq_of_iff (isValid_decides hs .absent) hfield

/-- An optional member two unions down is found, one inside an array or a value is not. -/
theorem isValid_absent_iff_nested_unions :
    let yes : Shape := .union [.literal (.set []), .union [.array .null, .optional .number]]
    let no : Shape := .union [.literal (.list [.absent]), .union [.array (.optional .null)]]
    let record (s : Shape) : Shape := .sealed (.object [(.ofString "at", s)])
    yes.isProper = true ∧ no.isProper = true ∧ yes.acceptsAbsent = true ∧
      (record yes).isValid .shallow (.object .readOnly []) = .ok true ∧
      (record no).isValid .shallow (.object .plain []) = .ok false ∧ no.acceptsAbsent = false ∧
      ¬ Alternative (.literal .absent) no := by
  intro yes no record
  have hyes : yes.isProper = true := rfl
  have hno : no.isProper = true := rfl
  have haccepts : yes.acceptsAbsent = true := rfl
  have hrefuses : (record no).isValid .shallow (.object .plain []) = .ok false := rfl
  obtain ⟨b, -, hb, hrecord⟩ := @isValid_absent_iff .shallow _ hyes
  obtain rfl := hb.2 (.inl haccepts)
  obtain ⟨c, -, hc, hrecord'⟩ := @isValid_absent_iff .shallow _ hno
  obtain rfl := Except.ok.inj (hrefuses.symm.trans (hrecord' (record no) _ _ rfl))
  have hneither := mt hc.2 Bool.false_ne_true
  exact ⟨hyes, hno, haccepts, hrecord _ _ _ rfl, hrefuses,
    Bool.eq_false_iff.2 fun h => hneither (.inl h), fun h => hneither (.inr h)⟩

/-- The literal of absence can be built, and absence conforms to it, also as a field that is not
there; acceptance of absence does not see it. -/
theorem not_acceptsAbsent_literal_absent :
    let s : Shape := .literal .absent
    (Builder.literal .absent).top = .ok s ∧ s.isProper = true ∧ s.acceptsAbsent = false ∧
      s.isValid .shallow .absent = .ok true ∧
      (object [(.ofString "k", s)]).isValid .shallow (.object .plain []) = .ok true := by
  intro s
  exact ⟨rfl, rfl, rfl, rfl, rfl⟩

end DataShape.Shape
