-- SUMMARY: Texts that are made of characters, texts that are split, and texts that spell a number.
import Mathlib.Algebra.Group.Nat.Defs
import DataShape.Text.Basic

/-!
# Characters, pieces and numerals

The characters of a text can be had back from it. A text splits where a code
point stands and nowhere else. A text whose code points are all digits of a base
spells a number, and the decimal numeral of a number spells that.
-/

namespace DataShape

/-! ## Characters -/

namespace CodePoint

@[simp] theorem ofChar_val (c : Char) : (ofChar c).val = c.toNat := rfl

@[simp] theorem ofChar_inj {c d : Char} : ofChar c = ofChar d ↔ c = d := by
  constructor
  · intro h
    apply Char.toNat_inj.1
    injection h
  · exact congrArg ofChar

theorem toChar?_ofChar (c : Char) : (ofChar c).toChar? = some c := by
  have hvalid : (ofChar c).val.isValidChar := c.valid
  unfold toChar?
  rw [dif_pos hvalid]
  apply congrArg some
  apply Char.toNat_inj.1
  rfl

end CodePoint

namespace Text

@[simp] theorem ofChars_nil : ofChars [] = [] := rfl

@[simp] theorem ofChars_cons (c : Char) (cs : List Char) :
    ofChars (c :: cs) = CodePoint.ofChar c :: ofChars cs := rfl

@[simp] theorem ofChars_append (cs ds : List Char) :
    ofChars (cs ++ ds) = ofChars cs ++ ofChars ds := List.map_append

@[simp] theorem length_ofChars (cs : List Char) : (ofChars cs).length = cs.length :=
  List.length_map _

theorem toChars?_ofChars (cs : List Char) : toChars? (ofChars cs) = some cs := by
  unfold toChars?
  induction cs with
  | nil => rfl
  | cons c cs ih =>
    rw [ofChars_cons, List.mapM_cons, CodePoint.toChar?_ofChar, ih]
    rfl

/-! ## Splitting -/

theorem splitAt_ne_nil (c : CodePoint) (t : Text) : splitAt c t ≠ [] := by
  cases t with
  | nil => exact List.cons_ne_nil _ _
  | cons x t =>
    rw [splitAt]
    split
    · exact List.cons_ne_nil _ _
    · split <;> exact List.cons_ne_nil _ _

theorem splitAt_cons_self (c : CodePoint) (t : Text) : splitAt c (c :: t) = [] :: splitAt c t := by
  rw [splitAt]
  cases h : splitAt c t with
  | nil => exact absurd h (splitAt_ne_nil c t)
  | cons piece pieces => exact if_pos rfl

theorem splitAt_cons_of_ne {c x : CodePoint} (h : x ≠ c) {t piece : Text} {pieces : List Text}
    (ht : splitAt c t = piece :: pieces) : splitAt c (x :: t) = (x :: piece) :: pieces := by
  rw [splitAt, ht]
  exact if_neg h

theorem splitAt_of_not_mem {c : CodePoint} {t : Text} (h : c ∉ t) : splitAt c t = [t] := by
  induction t with
  | nil => rfl
  | cons x t ih =>
    obtain ⟨hx, ht⟩ := List.ne_and_not_mem_of_not_mem_cons h
    exact splitAt_cons_of_ne (Ne.symm hx) (ih ht)

theorem splitAt_append {c : CodePoint} {t : Text} (h : c ∉ t) (u : Text) :
    splitAt c (t ++ c :: u) = t :: splitAt c u := by
  induction t with
  | nil => exact splitAt_cons_self c u
  | cons x t ih =>
    obtain ⟨hx, ht⟩ := List.ne_and_not_mem_of_not_mem_cons h
    exact splitAt_cons_of_ne (Ne.symm hx) (ih ht)

/-! ## Numerals -/

/-- Whether a code point is a digit of a base. -/
def isDigitIn (base : Nat) (c : CodePoint) : Bool := (c.digit?.filter (· < base)).isSome

/-- A text of digits spells a number below the power of the base with its length. -/
theorem exists_number? {base : Nat} {t : Text} (h : t.all (isDigitIn base) = true) :
    ∃ n, number? base t = some n ∧ n < base ^ t.length := by
  have hfrom : ∀ (t : Text) (start : Nat), t.all (isDigitIn base) = true →
      ∃ n, t.foldlM (fun n c => (c.digit?.filter (· < base)).map (n * base + ·)) start = some n ∧
        n < (start + 1) * base ^ t.length := by
    intro t
    induction t with
    | nil => exact fun start _ => ⟨start, rfl, by simp⟩
    | cons c t ih =>
      intro start h
      obtain ⟨hc, ht⟩ := Bool.and_eq_true_iff.1 h
      obtain ⟨d, hd⟩ := Option.isSome_iff_exists.1 hc
      have hlt : d < base := of_decide_eq_true (Option.filter_eq_some_iff.1 hd).2
      obtain ⟨n, hn, hbound⟩ := ih (start * base + d) ht
      refine ⟨n, ?_, Nat.lt_of_lt_of_le hbound ?_⟩
      · rw [List.foldlM_cons, hd]
        exact hn
      · have hplace : start * base + d + 1 ≤ (start + 1) * base := by
          rw [Nat.add_mul]
          omega
        calc (start * base + d + 1) * base ^ t.length
            ≤ (start + 1) * base * base ^ t.length := Nat.mul_le_mul_right _ hplace
          _ = (start + 1) * base ^ (c :: t).length := by
            rw [List.length_cons, Nat.pow_succ', Nat.mul_assoc]
  obtain ⟨n, hn, hbound⟩ := hfrom t 0 h
  exact ⟨n, hn, by simpa using hbound⟩

theorem number?_append_single {base n d : Nat} {t : Text} {c : CodePoint}
    (ht : number? base t = some n) (hc : c.digit? = some d) (hd : d < base) :
    number? base (t ++ [c]) = some (n * base + d) := by
  rw [number?] at ht ⊢
  rw [List.foldlM_append, ht]
  simp [hc, hd]

theorem digit?_digitChar {d : Nat} (hd : d < 10) :
    (CodePoint.ofChar d.digitChar).digit? = some d := by
  have hall : ∀ d : Fin 10, (CodePoint.ofChar d.val.digitChar).digit? = some d.val := by decide
  exact hall ⟨d, hd⟩

theorem ofNat_of_ge {n : Nat} (h : 10 ≤ n) :
    ofNat n = ofNat (n / 10) ++ [CodePoint.ofChar (n % 10).digitChar] := by
  unfold ofNat
  rw [Nat.toDigits_of_base_le (by omega) h, ofChars, List.map_append]
  rfl

/-- A decimal numeral spells its number. -/
theorem number?_ofNat (n : Nat) : number? 10 (ofNat n) = some n := by
  induction n using Nat.strongRecOn with
  | ind n ih =>
    by_cases hn : n < 10
    · have hdigit := number?_append_single (t := []) rfl (digit?_digitChar hn) hn
      rw [Nat.zero_mul, Nat.zero_add] at hdigit
      rw [ofNat, Nat.toDigits_of_lt_base hn]
      exact hdigit
    · have hfront := ih (n / 10) (by omega)
      have hlast : n % 10 < 10 := Nat.mod_lt n (by omega)
      have hwhole := number?_append_single hfront (digit?_digitChar hlast) hlast
      rw [Nat.div_add_mod'] at hwhole
      rw [ofNat_of_ge (by omega)]
      exact hwhole

end Text

end DataShape
