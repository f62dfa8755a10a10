-- SUMMARY: Relations that are symmetric and transitive from one point on, lifted from parts to lists, sets and entries.
import Mathlib.Data.List.Forall2

/-!
# Coherence

An equality of values is given by recursion on its left side only. What has to
be shown of it by induction is therefore what it does from one value on: it is
symmetric there, and what is equal to the value is equal to the same others.

Two collections without an order are equal when they are equally long and each
member on the left has a partner on the right. Distinct members on the left
have distinct partners, so no member on the right is left over.
-/

namespace DataShape

variable {α β : Type}

/-- Whether a relation among acceptable things is symmetric from `a` on, and cannot tell `a` from
what it is related to. -/
structure Coheres (ok : α → Prop) (r : α → α → Prop) (a : α) : Prop where
  symm : ∀ b, ok b → r a b → r b a
  congr : ∀ b, ok b → r a b → ∀ c, ok c → (r a c ↔ r b c)

namespace Coheres

variable {ok : α → Prop} {r : α → α → Prop} {a b : α}

theorem trans (h : Coheres ok r a) (hb : ok b) (hab : r a b) {c : α} (hc : ok c) (hbc : r b c) :
    r a c :=
  (h.congr b hb hab c hc).2 hbc

theorem join (h : Coheres ok r a) (hb : ok b) (hab : r a b) {c : α} (hc : ok c) (hac : r a c) :
    r b c :=
  (h.congr b hb hab c hc).1 hac

/-- A relation coheres at whatever it relates to a point where it coheres. -/
theorem of_rel (h : Coheres ok r a) (hb : ok b) (hab : r a b) : Coheres ok r b := by
  constructor
  · intro c hc hbc
    have hac := h.trans hb hab hc hbc
    exact h.join hc hac hb hab
  · intro c hc hbc d hd
    have hac := h.trans hb hab hc hbc
    rw [← h.congr b hb hab d hd, h.congr c hc hac d hd]

/-- A relation that compares what can be seen of things coheres where the comparison does. -/
theorem of_view {ok' : β → Prop} {r' : β → β → Prop} (view : α → β → Prop) {b : β}
    (hview : view a b) (h : Coheres ok' r' b) (hok : ∀ c d, view c d → ok c → ok' d)
    (hr : ∀ c d, view c d → ∀ e, r c e ↔ ∃ f, view e f ∧ r' d f) : Coheres ok r a := by
  constructor
  · intro c hc hac
    obtain ⟨d, hd, hbd⟩ := (hr a b hview c).1 hac
    exact (hr c d hd a).2 ⟨b, hview, h.symm d (hok c d hd hc) hbd⟩
  · intro c hc hac e he
    obtain ⟨d, hd, hbd⟩ := (hr a b hview c).1 hac
    rw [hr a b hview, hr c d hd]
    refine exists_congr fun f => and_congr_right fun hf => ?_
    exact h.congr d (hok c d hd hc) hbd f (hok e f hf he)

theorem eq (ok : α → Prop) (a : α) : Coheres ok (· = ·) a := by
  constructor
  · rintro _ _ rfl
    rfl
  · rintro _ _ rfl _ _
    exact Iff.rfl

theorem prod {ok' : β → Prop} {r' : β → β → Prop} {e : α × β} (h : Coheres ok r e.1)
    (h' : Coheres ok' r' e.2) :
    Coheres (fun f => ok f.1 ∧ ok' f.2) (fun f g => r f.1 g.1 ∧ r' f.2 g.2) e := by
  constructor
  · rintro f ⟨hf, hf'⟩ ⟨hef, hef'⟩
    exact ⟨h.symm _ hf hef, h'.symm _ hf' hef'⟩
  · rintro f ⟨hf, hf'⟩ ⟨hef, hef'⟩ g ⟨hg, hg'⟩
    rw [h.congr _ hf hef _ hg, h'.congr _ hf' hef' _ hg']

/-! ## Lists -/

theorem forall₂ {as : List α} (h : ∀ a ∈ as, Coheres ok r a) :
    Coheres (fun bs => ∀ b ∈ bs, ok b) (List.Forall₂ r) as := by
  induction as with
  | nil =>
    constructor
    · intro bs _ hbs
      rw [List.forall₂_nil_left_iff.1 hbs]
      exact .nil
    · intro bs _ hbs cs _
      rw [List.forall₂_nil_left_iff.1 hbs]
  | cons a as ih =>
    obtain ⟨ha, has⟩ := List.forall_mem_cons.1 h
    have htail := ih has
    constructor
    · rintro _ hok (_ | ⟨hab, habs⟩)
      obtain ⟨hb, hbs⟩ := List.forall_mem_cons.1 hok
      exact .cons (ha.symm _ hb hab) (htail.symm _ hbs habs)
    · rintro _ hok (_ | ⟨hab, habs⟩) cs hcs
      obtain ⟨hb, hbs⟩ := List.forall_mem_cons.1 hok
      cases cs with
      | nil => simp
      | cons c cs =>
        obtain ⟨hc, hcs⟩ := List.forall_mem_cons.1 hcs
        rw [List.forall₂_cons, List.forall₂_cons, ha.congr _ hb hab _ hc,
          htail.congr _ hbs habs _ hcs]

end Coheres

/-! ## Collections without an order -/

/-- Whether two lists are equally long and each thing on the left has a partner on the right. -/
def Covers (r : α → α → Prop) (as bs : List α) : Prop :=
  as.length = bs.length ∧ ∀ a ∈ as, ∃ b ∈ bs, r a b

/-- If no two things on the left share a partner, nothing on the right is without one. -/
theorem Covers.exists_left {r : α → α → Prop} {as bs : List α} (h : Covers r as bs)
    (hapart : as.Pairwise fun a a' => ∀ b ∈ bs, r a b → ¬ r a' b) :
    ∀ b ∈ bs, ∃ a ∈ as, r a b := by
  induction as generalizing bs with
  | nil =>
    rw [List.length_eq_zero_iff.1 h.1.symm]
    simp
  | cons a as ih =>
    obtain ⟨hlen, hall⟩ := h
    rw [List.forall_mem_cons] at hall
    obtain ⟨⟨b, hb, hab⟩, hall⟩ := hall
    obtain ⟨hhead, htail⟩ := List.pairwise_cons.1 hapart
    obtain ⟨front, back, rfl⟩ := List.append_of_mem hb
    -- Taking `b` away leaves the partners of all others where they are.
    have hothers : ∀ a' ∈ as, ∃ b' ∈ front ++ back, r a' b' := by
      intro a' ha'
      obtain ⟨b', hb', hab'⟩ := hall a' ha'
      have hne : b' ≠ b := by
        rintro rfl
        exact hhead a' ha' b' hb hab hab'
      refine ⟨b', ?_, hab'⟩
      simpa [hne] using hb'
    have hsub : ∀ b' ∈ front ++ back, b' ∈ front ++ b :: back := by
      intro b' hb'
      simp only [List.mem_append, List.mem_cons] at hb' ⊢
      tauto
    have hshorter : as.length = (front ++ back).length := by
      simp only [List.length_cons, List.length_append] at hlen ⊢
      omega
    have hrest := ih ⟨hshorter, hothers⟩
      (htail.imp fun hapart b' hb' => hapart b' (hsub b' hb'))
    intro b' hb'
    by_cases heq : b' = b
    · exact ⟨a, List.mem_cons_self, heq ▸ hab⟩
    · obtain ⟨a', ha', hab'⟩ := hrest b' (by simpa [heq] using hb')
      exact ⟨a', List.mem_cons_of_mem _ ha', hab'⟩

/-- Equality of collections without an order coheres at a collection of distinct things. -/
theorem Coheres.covers {ok : α → Prop} {r : α → α → Prop} {as : List α}
    (h : ∀ a ∈ as, Coheres ok r a)
    (hapart : as.Pairwise fun a a' => ∀ b, ok b → r a b → ¬ r a' b) :
    Coheres (fun bs => ∀ b ∈ bs, ok b) (Covers r) as := by
  have hback : ∀ bs, (∀ b ∈ bs, ok b) → Covers r as bs → ∀ b ∈ bs, ∃ a ∈ as, r a b :=
    fun bs hbs hcovers => hcovers.exists_left (hapart.imp fun ha b hb => ha b (hbs b hb))
  constructor
  · intro bs hbs hcovers
    refine ⟨hcovers.1.symm, fun b hb => ?_⟩
    obtain ⟨a, ha, hab⟩ := hback bs hbs hcovers b hb
    exact ⟨a, ha, (h a ha).symm b (hbs b hb) hab⟩
  · intro bs hbs hcovers cs hcs
    have hlen := hcovers.1
    constructor
    · intro hac
      refine ⟨hlen.symm.trans hac.1, fun b hb => ?_⟩
      obtain ⟨a, ha, hab⟩ := hback bs hbs hcovers b hb
      obtain ⟨c, hc, hac⟩ := hac.2 a ha
      exact ⟨c, hc, (h a ha).join (hbs b hb) hab (hcs c hc) hac⟩
    · intro hbc
      refine ⟨hlen.trans hbc.1, fun a ha => ?_⟩
      obtain ⟨b, hb, hab⟩ := hcovers.2 a ha
      obtain ⟨c, hc, hbc⟩ := hbc.2 b hb
      exact ⟨c, hc, (h a ha).trans (hbs b hb) hab (hcs c hc) hbc⟩

end DataShape
