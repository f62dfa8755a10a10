-- SUMMARY: The numbers and words of portable spellings, as YAML reads them.
import Mathlib.Data.List.TakeWhile
import DataShape.Proofs.Json.Decoded
import DataShape.Proofs.Json.Numbers
import DataShape.Proofs.Yaml.Tree

/-!
# Scalars of portable spellings

Without quotes a number shows its tag by its form: an integer has no point, a
decimal number has one, and its exponent a sign. Under its tag it has the value
that JSON gives it.
-/

namespace DataShape

theorem Binary64.ofDecimal_neg (digits : Nat) (exponent : Int) :
    ofDecimal true digits exponent = (ofDecimal false digits exponent).neg := by
  have hsignificand : ∀ m q, ofSignificand true m q = (ofSignificand false m q).neg := by
    intro m q
    unfold ofSignificand
    generalize (if m = 2 * fractionCount then (fractionCount, q + 1) else (m, q)) = rounded
    dsimp only
    split
    · rfl
    · split <;> rfl
  have hquotient : ∀ num den, ofQuotient true num den = (ofQuotient false num den).neg := by
    intro num den
    unfold ofQuotient
    split
    · rfl
    · exact hsignificand _ _
  unfold ofDecimal
  dsimp only
  split
  · rfl
  split
  · rfl
  split
  · rfl
  · exact hquotient _ _

namespace Json

/-! ## Characters of numbers -/

def numberCharacters : List Char :=
  ['+', '-', '.', '0', '1', '2', '3', '4', '5', '6', '7', '8', '9', 'E', 'e']

theorem Digits.mem_numberCharacters (d : Digits) : ∀ c ∈ d.chars, c ∈ numberCharacters := by
  have hdigit : ∀ d : Fin 10, digitChar d ∈ numberCharacters := by decide
  exact List.forall_mem_map.2 fun d _ => hdigit d

theorem Exponent.mem_numberCharacters (e : Exponent) : ∀ c ∈ e.chars, c ∈ numberCharacters := by
  refine List.forall_mem_cons.2 ⟨?_, List.forall_mem_cons.2 ⟨?_, e.digits.mem_numberCharacters⟩⟩
  · cases e.upper <;> decide
  · cases e.negative <;> decide

theorem Fraction.mem_numberCharacters (f : Fraction) : ∀ c ∈ f.chars, c ∈ numberCharacters := by
  refine List.forall_mem_cons.2 ⟨by decide, List.forall_mem_append.2
    ⟨f.digits.mem_numberCharacters, ?_⟩⟩
  cases f.exponent with
  | none => nofun
  | some e => exact e.mem_numberCharacters

theorem NumberSpelling.mem_numberCharacters (n : NumberSpelling) :
    ∀ c ∈ n.chars, c ∈ numberCharacters := by
  refine List.forall_mem_append.2 ⟨List.forall_mem_append.2
    ⟨?_, n.whole.mem_numberCharacters⟩, ?_⟩
  · unfold signChars
    cases n.negative with
    | true => decide
    | false => nofun
  · cases n.fraction with
    | none => nofun
    | some f => exact f.mem_numberCharacters

/-- What holds of the characters of numbers holds of all code points of a text of them. -/
theorem forall_mem_of_numberCharacters {P : CodePoint → Prop} {cs : List Char}
    (hcs : ∀ c ∈ cs, c ∈ numberCharacters) (h : ∀ c ∈ numberCharacters, P (CodePoint.ofChar c)) :
    ∀ c ∈ Text.ofChars cs, P c :=
  List.forall_mem_map.2 fun c hc => h c (hcs c hc)

end Json

namespace Text

theorem remove_of_not_mem {c : CodePoint} {t : Text} (h : ∀ x ∈ t, x ≠ c) : remove c t = t :=
  List.filter_eq_self.2 fun x hx => decide_eq_true (h x hx)

theorem toLowerAfter_eq_map {f : CodePoint → CodePoint} {t : Text}
    (h : ∀ c ∈ t, c ≠ CodePoint.ofChar 'Σ' ∧ c.toLower = [f c]) (before : Text) :
    toLowerAfter before t = t.map f := by
  induction t generalizing before with
  | nil => rfl
  | cons c t ih =>
    obtain ⟨⟨hsigma, hlower⟩, ht⟩ := List.forall_mem_cons.1 h
    rw [toLowerAfter, ih ht, decide_eq_false hsigma, Bool.false_and, hlower]
    rfl

end Text

namespace Yaml

open Json

/-! ## Forms -/

theorem dropFinalBreak_eq_self {t : Text} (h : ∀ c ∈ t, c ≠ CodePoint.ofChar '\n') :
    Form.dropFinalBreak t = t := by
  unfold Form.dropFinalBreak
  split
  · rename_i c rest hreverse
    have hc : c ∈ t := List.mem_reverse.1 (hreverse ▸ List.mem_cons_self)
    exact if_neg (h c hc)
  · rename_i hreverse
    exact (List.reverse_eq_nil_iff.1 hreverse).symm

/-- What a number may start with. -/
def startsNumber (c : CodePoint) : Bool := c = '-' || c.isAsciiDigit

/-- A word that does not start like a number is none. -/
theorem isOneOf_eq_false {words : List String} {t : Text} (ht : t.head?.any startsNumber = true)
    (hwords : (words.all fun w => !(Text.ofString w).head?.any startsNumber) = true) :
    Form.isOneOf words t = false := by
  apply List.any_eq_false.2
  intro w hw heq
  have hword := List.all_eq_true.1 hwords w hw
  rw [← of_decide_eq_true heq, ht] at hword
  cases hword

/-- The text of a number after its sign. -/
def unsigned (n : NumberSpelling) : Text :=
  Text.ofChars (n.whole.chars ++ (n.fraction.map Fraction.chars).getD [])

section

variable (n : NumberSpelling)

theorem ofChars_number : Text.ofChars n.chars = Text.ofChars n.signChars ++ unsigned n := by
  unfold unsigned NumberSpelling.chars
  rw [List.append_assoc, Text.ofChars_append]

theorem exists_unsigned : ∃ t, unsigned n = CodePoint.ofChar (digitChar n.whole.first) :: t :=
  ⟨_, rfl⟩

theorem digitChar_ne {c : Char} (hc : ∀ d : Fin 10, digitChar d ≠ c) (d : Fin 10) :
    CodePoint.ofChar (digitChar d) ≠ CodePoint.ofChar c :=
  fun h => hc d (CodePoint.ofChar_inj.1 h)

theorem sign_unsigned : Numeral.sign (unsigned n) = (false, unsigned n) := by
  obtain ⟨t, ht⟩ := exists_unsigned n
  rw [ht]
  exact (if_neg (digitChar_ne (by decide) _)).trans (if_neg (digitChar_ne (by decide) _))

theorem sign_number : Numeral.sign (Text.ofChars n.chars) = (n.negative, unsigned n) := by
  rw [ofChars_number, NumberSpelling.signChars]
  cases n.negative with
  | true => rfl
  | false => exact sign_unsigned n

theorem dropSign_number : Form.dropSign (Text.ofChars n.chars) = unsigned n := by
  rw [ofChars_number, NumberSpelling.signChars]
  cases n.negative with
  | true => rfl
  | false =>
    obtain ⟨t, ht⟩ := exists_unsigned n
    have hdigit := digitChar_ne (c := '-') (by decide) n.whole.first
    have hdigit' := digitChar_ne (c := '+') (by decide) n.whole.first
    change Form.dropSign (unsigned n) = _
    rw [ht]
    exact if_neg fun h => h.elim hdigit hdigit'

theorem startsNumber_unsigned : (unsigned n).head?.any startsNumber = true := by
  obtain ⟨t, ht⟩ := exists_unsigned n
  rw [ht]
  exact Bool.or_eq_true_iff.2 (.inr (isAsciiDigit_digitChar _))

theorem startsNumber_number : (Text.ofChars n.chars).head?.any startsNumber = true := by
  rw [ofChars_number, NumberSpelling.signChars]
  cases n.negative with
  | true => rfl
  | false => exact startsNumber_unsigned n

theorem forall_mem_unsigned {P : CodePoint → Prop}
    (h : ∀ c ∈ numberCharacters, P (CodePoint.ofChar c)) : ∀ c ∈ unsigned n, P c := by
  intro c hc
  apply forall_mem_of_numberCharacters n.mem_numberCharacters h
  rw [ofChars_number]
  exact List.mem_append_right _ hc

/-! ## Tags -/

theorem not_isEmpty_number : (Text.ofChars n.chars).isEmpty = false := by
  have hhead := startsNumber_number n
  cases htext : Text.ofChars n.chars with
  | nil =>
    rw [htext] at hhead
    cases hhead
  | cons c t => rfl

/-- A number has the form of a decimal number or of an integer, and of nothing before that. -/
theorem ofPlain_number : Tag.ofPlain (Text.ofChars n.chars) =
    if Form.isFloat (Text.ofChars n.chars) then .float
    else if Form.isInt (Text.ofChars n.chars) then .int
    else Tag.ofPlain (Text.ofChars n.chars) := by
  have hbreak : Form.dropFinalBreak (Text.ofChars n.chars) = Text.ofChars n.chars :=
    dropFinalBreak_eq_self (forall_mem_of_numberCharacters n.mem_numberCharacters (by decide))
  have hbool : Form.isBool (Text.ofChars n.chars) = false :=
    isOneOf_eq_false (startsNumber_number n) (by decide)
  have hempty := not_isEmpty_number n
  generalize Text.ofChars n.chars = t at hbreak hbool hempty ⊢
  unfold Tag.ofPlain
  dsimp only
  rw [hbreak, hempty, hbool, if_neg Bool.false_ne_true, if_neg Bool.false_ne_true]
  split
  · rfl
  split
  · rfl
  · rfl

theorem unsigned_integer (h : n.fraction = none) :
    unsigned n = digitText (n.whole.first :: n.whole.rest) := by
  unfold unsigned
  rw [h, Option.map_none, Option.getD_none, List.append_nil, n.whole.ofChars_chars]

theorem unsigned_decimal {f : Fraction} (h : n.fraction = some f) :
    unsigned n = digitText (n.whole.first :: n.whole.rest) ++ CodePoint.ofChar '.' ::
      (digitText (f.digits.first :: f.digits.rest) ++ exponentText f) := by
  unfold unsigned
  rw [h, Option.map_some, Option.getD_some, ofChars_decimal, mantissa, List.append_assoc,
    n.whole.ofChars_chars, f.digits.ofChars_chars]
  rfl

theorem takeWhile_point (ds : List (Fin 10)) {t : Text}
    (h : ∀ c ∈ t.head?, c = CodePoint.ofChar '.') :
    (digitText ds ++ t).takeWhile (· ≠ CodePoint.ofChar '.') = digitText ds := by
  have hdigit : ∀ d : Fin 10,
      decide (CodePoint.ofChar (digitChar d) ≠ CodePoint.ofChar '.') = true := by decide
  rw [List.takeWhile_append_of_pos (forall_mem_digitText hdigit ds), takeWhile_eq_nil,
    List.append_nil]
  intro c hc
  exact decide_eq_false fun hne => hne (h c hc)

theorem isFloat_of_integer (h : n.fraction = none) :
    Form.isFloat (Text.ofChars n.chars) = false := by
  have hwhole := takeWhile_point (n.whole.first :: n.whole.rest) (t := []) nofun
  have hinfinity : Form.isOneOf [".inf", ".Inf", ".INF"] (unsigned n) = false :=
    isOneOf_eq_false (startsNumber_unsigned n) (by decide)
  have hnan : Form.isOneOf [".nan", ".NaN", ".NAN"] (Text.ofChars n.chars) = false :=
    isOneOf_eq_false (startsNumber_number n) (by decide)
  have hhead := startsNumber_number n
  unfold Form.isFloat
  rw [dropSign_number]
  dsimp only
  rw [hinfinity, hnan]
  rw [List.append_nil] at hwhole
  rw [unsigned_integer n h, hwhole, List.drop_length]
  generalize Text.ofChars n.chars = t at hhead ⊢
  cases t with
  | nil => rfl
  | cons c t =>
    have hpoint : decide (c = CodePoint.ofChar '.') = false := by
      apply decide_eq_false
      rintro rfl
      cases hhead
    dsimp only
    rw [hpoint, Bool.false_and, Bool.or_false, Bool.or_false, Bool.or_false]
    rfl

theorem isDigits_digitText (d : Fin 10) (ds : List (Fin 10)) :
    Form.isDigits (digitText (d :: ds)) = true := by
  refine Bool.and_eq_true_iff.2 ⟨isAsciiDigit_digitChar d, ?_⟩
  exact all_digitText (by decide) ds

theorem isInt_of_integer (h : n.fraction = none) : Form.isInt (Text.ofChars n.chars) = true := by
  unfold Form.isInt
  rw [dropSign_number, unsigned_integer n h]
  dsimp only
  by_cases hzero : n.whole.first = 0
  · rw [n.noLeadingZero hzero, hzero]
    rfl
  · have hpositive : Form.isPositiveDigits (digitText (n.whole.first :: n.whole.rest)) = true := by
      have hfirst : ∀ d : Fin 10, d ≠ 0 → CodePoint.ofChar (digitChar d) ≠ CodePoint.ofChar '0' := by
        decide
      refine Bool.and_eq_true_iff.2 ⟨decide_eq_true (hfirst _ hzero), isDigits_digitText _ _⟩
    rw [hpositive]
    simp only [Bool.or_true, Bool.true_or]

/-- Digits, and perhaps an exponent with its sign, are a fraction. -/
theorem isFraction_chars (f : Fraction) :
    Form.isFraction (digitText (f.digits.first :: f.digits.rest) ++ exponentText f) = true := by
  have hdigits : ∀ c ∈ digitText (f.digits.first :: f.digits.rest),
      Form.isDigitOrUnderscore c = true := forall_mem_digitText (by decide) _
  have hmark : ∀ c ∈ (exponentText f).head?, Form.isDigitOrUnderscore c = false := by
    unfold exponentText
    cases f.exponent with
    | none => exact nofun
    | some e =>
      intro c hc
      obtain rfl := Option.some.inj hc
      cases e.upper <;> rfl
  unfold Form.isFraction
  rw [List.dropWhile_append_of_pos hdigits, dropWhile_eq_self hmark, exponentText]
  cases f.exponent with
  | none => rfl
  | some e =>
    have hall : Form.someAll Form.isDigit (Text.ofChars e.digits.chars) = true := by
      rw [e.digits.ofChars_chars]
      exact Bool.and_eq_true_iff.2 ⟨rfl, all_digitText isAsciiDigit_digitChar _⟩
    have hsign : Form.isExponent (Text.ofChars e.chars) =
        ((CodePoint.ofChar (if e.upper then 'E' else 'e') = 'e' ||
          CodePoint.ofChar (if e.upper then 'E' else 'e') = 'E') &&
        (CodePoint.ofChar (if e.negative then '-' else '+') = '-' ||
          CodePoint.ofChar (if e.negative then '-' else '+') = '+') &&
        Form.someAll Form.isDigit (Text.ofChars e.digits.chars)) := rfl
    refine hsign.trans ?_
    rw [hall]
    cases e.upper <;> cases e.negative <;> rfl

theorem isFloat_of_decimal {f : Fraction} (h : n.fraction = some f) :
    Form.isFloat (Text.ofChars n.chars) = true := by
  have hwhole := takeWhile_point (n.whole.first :: n.whole.rest)
    (t := CodePoint.ofChar '.' :: (digitText (f.digits.first :: f.digits.rest) ++ exponentText f))
    fun c hc => (Option.some.inj hc).symm
  unfold Form.isFloat
  rw [dropSign_number]
  dsimp only
  rw [unsigned_decimal n h, hwhole, List.drop_left]
  dsimp only
  rw [isDigits_digitText, isFraction_chars, Bool.and_true, Bool.or_true, Bool.true_or, Bool.true_or]

/-! ## Values -/

theorem remove_number : Text.remove '_' (Text.ofChars n.chars) = Text.ofChars n.chars :=
  Text.remove_of_not_mem (forall_mem_of_numberCharacters n.mem_numberCharacters (by decide))

theorem fold_eq_self {t : Text} (h : ∀ c ∈ t, Numeral.foldCodePoint c = c) :
    Numeral.fold t = t := by
  have hmap : t.map Numeral.foldCodePoint = t.map id := List.map_congr_left h
  exact hmap.trans (List.map_id t)

theorem dropBaseMark_ten (t : Text) : Numeral.dropBaseMark 10 t = t := by
  unfold Numeral.dropBaseMark
  split
  · exact if_neg fun h => nomatch h.2
  · rfl

/-- An integer without leading zeros is a numeral to base ten. -/
theorem numeral_unsigned (h : n.fraction = none) :
    Scalar.numeral 10 (unsigned n) = .ok (n.whole.number : Int) := by
  have hfold : Numeral.fold (unsigned n) = unsigned n :=
    fold_eq_self (forall_mem_unsigned n (by decide))
  have hspace : (unsigned n).dropWhile Numeral.isSpace = unsigned n :=
    dropWhile_eq_self fun c hc => forall_mem_unsigned n (P := fun c => Numeral.isSpace c = false)
      (by decide) c (List.mem_of_mem_head? hc)
  have hsign := sign_unsigned n
  have hrun : ∀ c ∈ unsigned n, (Numeral.isDigitOf 10 c || c = '_') = true := by
    rw [unsigned_integer n h]
    exact forall_mem_digitText (by decide) _
  have htake := List.takeWhile_eq_self_iff.2 hrun
  have hdrop := List.dropWhile_eq_nil_iff.2 hrun
  have hunderscore : ∀ c ∈ unsigned n, c ≠ CodePoint.ofChar '_' :=
    forall_mem_unsigned n (by decide)
  have hseparated : Numeral.separatesDigits (unsigned n) = true := by
    unfold Numeral.separatesDigits
    rw [Text.splitAt_of_not_mem fun hc => hunderscore _ hc rfl]
    rfl
  have hremove : Text.remove '_' (unsigned n) = unsigned n := Text.remove_of_not_mem hunderscore
  have hnumber : Text.number? 10 (unsigned n) = some n.whole.number := by
    rw [unsigned_integer n h, ← n.whole.ofChars_chars]
    exact n.whole.number?_eq
  have hshort : ¬ Numeral.digitLimit < (unsigned n).length := by
    rw [unsigned_integer n h, ← n.whole.ofChars_chars, Text.length_ofChars]
    exact Nat.not_lt.2 (n.short h)
  have hinteger : Numeral.integer 10 (unsigned n) = .ok (n.whole.number : Int) := by
    unfold Numeral.integer
    rw [hfold, hspace, hsign]
    dsimp only
    rw [dropBaseMark_ten, htake, hdrop, hseparated, hremove, hnumber, decide_eq_false hshort]
    rfl
  unfold Scalar.numeral
  rw [hinteger]

theorem after?_eq_none {mark : Text} {b c : CodePoint} (hne : c ≠ b) (t : Text) :
    Form.after? (b :: mark) (c :: t) = none := by
  have hother : (b :: mark).isPrefixOf (c :: t) = false := by
    rw [List.isPrefixOf_cons_cons, beq_eq_false_iff_ne.2 (Ne.symm hne), Bool.false_and]
  unfold Form.after?
  rw [hother]
  rfl

theorem not_contains {t : Text} {c : CodePoint} (h : ∀ x ∈ t, x ≠ c) : t.contains c = false := by
  rw [← Bool.not_eq_true, List.contains_iff_mem]
  exact fun hc => h c hc rfl

/-- An integer shows no other base. -/
theorem unsignedInt_unsigned (h : n.fraction = none) :
    Scalar.unsignedInt (unsigned n) = .ok (n.whole.number : Int) := by
  by_cases hzero : n.whole.first = 0
  · have hnumber : n.whole.number = 0 := by
      unfold Digits.number Digits.chars
      rw [n.noLeadingZero hzero, hzero]
      rfl
    rw [unsigned_integer n h, n.noLeadingZero hzero, hzero, hnumber]
    rfl
  · have hcolon : (unsigned n).contains (CodePoint.ofChar ':') = false :=
      not_contains (forall_mem_unsigned n (by decide))
    have hnumeral := numeral_unsigned n h
    have hfirst : ∀ d : Fin 10, d ≠ 0 → CodePoint.ofChar (digitChar d) ≠ CodePoint.ofChar '0' := by
      decide
    obtain ⟨t, ht⟩ := exists_unsigned n
    rw [ht] at hcolon hnumeral ⊢
    have hne := hfirst _ hzero
    have hbinary : Form.after? "0b" (CodePoint.ofChar (digitChar n.whole.first) :: t) = none :=
      after?_eq_none hne t
    have hhexadecimal : Form.after? "0x" (CodePoint.ofChar (digitChar n.whole.first) :: t) = none :=
      after?_eq_none hne t
    have hword : ¬ CodePoint.ofChar (digitChar n.whole.first) :: t = Text.ofString "0" :=
      fun heq => hne (List.cons.inj heq).1
    unfold Scalar.unsignedInt
    rw [if_neg hword, hbinary, hhexadecimal]
    dsimp only
    rw [if_neg hne, hcolon, if_neg Bool.false_ne_true, hnumeral]

/-- An integer is read as its value. -/
theorem int_number (h : n.fraction = none) : Scalar.int (Text.ofChars n.chars) =
    .ok (if n.negative then -(n.whole.number : Int) else n.whole.number) := by
  unfold Scalar.int
  rw [remove_number]
  dsimp only
  rw [not_isEmpty_number, if_neg Bool.false_ne_true, sign_number]
  dsimp only
  rw [unsignedInt_unsigned n h]
  rfl

theorem trim_eq_self {t : Text} (h : ∀ c ∈ t, Numeral.isSpace c = false) :
    Numeral.trim t = t := by
  unfold Numeral.trim
  rw [dropWhile_eq_self fun c hc => h c (List.mem_of_mem_head? hc),
    dropWhile_eq_self fun c hc => h c (List.mem_reverse.1 (List.mem_of_mem_head? hc)),
    List.reverse_reverse]

/-- A decimal number is none of the words for numbers. -/
theorem decimal_unsigned {f : Fraction} (h : n.fraction = some f) :
    Scalar.decimal (unsigned n) = .ok (NumberSpelling.decimal false n.whole f) := by
  have hfold : Numeral.fold (unsigned n) = unsigned n :=
    fold_eq_self (forall_mem_unsigned n (by decide))
  have htrim : Numeral.trim (unsigned n) = unsigned n :=
    trim_eq_self (forall_mem_unsigned n (by decide))
  have hunsigned : unsigned n = Text.ofChars (n.whole.chars ++ f.chars) := by
    unfold unsigned
    rw [h]
    rfl
  have hword : ∀ {w : Text}, w.head?.any startsNumber = false →
      (unsigned n).map CodePoint.toAsciiLower ≠ w := by
    rintro w hw rfl
    have hdigit : ∀ d : Fin 10, startsNumber (CodePoint.ofChar (digitChar d)).toAsciiLower = true := by
      decide
    obtain ⟨t, ht⟩ := exists_unsigned n
    rw [ht] at hw
    exact Bool.false_ne_true (hw.symm.trans (hdigit _))
  have hinfinity : ¬ ((unsigned n).map CodePoint.toAsciiLower = Text.ofString "inf" ∨
      (unsigned n).map CodePoint.toAsciiLower = Text.ofString "infinity") :=
    fun h => h.elim (hword (by decide)) (hword (by decide))
  have hnan : (unsigned n).map CodePoint.toAsciiLower ≠ Text.ofString "nan" := hword (by decide)
  have hdecimal : Numeral.decimal? (unsigned n) = some (NumberSpelling.decimal false n.whole f) := by
    unfold Numeral.decimal?
    rw [hfold, htrim, sign_unsigned]
    dsimp only
    rw [if_neg hinfinity, if_neg hnan, hunsigned, unsignedDecimal?_chars]
  unfold Scalar.decimal
  rw [hdecimal]

/-- The fraction with its exponent marked in lower case. -/
def lowered (f : Fraction) : Fraction :=
  { f with exponent := f.exponent.map fun e => { e with upper := false } }

theorem decimal_neg (w : Digits) (f : Fraction) :
    NumberSpelling.decimal true w f = (NumberSpelling.decimal false w f).neg :=
  Binary64.ofDecimal_neg _ _

theorem decimal_lowered (negative : Bool) (w : Digits) (f : Fraction) :
    NumberSpelling.decimal negative w (lowered f) = NumberSpelling.decimal negative w f := by
  unfold NumberSpelling.decimal lowered
  cases f.exponent <;> rfl

theorem map_toAsciiLower_digits (d : Digits) :
    (Text.ofChars d.chars).map CodePoint.toAsciiLower = Text.ofChars d.chars := by
  have hdigit : ∀ d : Fin 10, (CodePoint.ofChar (digitChar d)).toAsciiLower =
      CodePoint.ofChar (digitChar d) := by decide
  rw [d.ofChars_chars]
  exact (List.map_congr_left (forall_mem_digitText hdigit _)).trans (List.map_id _)

theorem map_toAsciiLower_fraction (f : Fraction) :
    (Text.ofChars f.chars).map CodePoint.toAsciiLower = Text.ofChars (lowered f).chars := by
  have hexponent : ∀ e : Exponent, (Text.ofChars e.chars).map CodePoint.toAsciiLower =
      Text.ofChars { e with upper := false }.chars := by
    intro e
    unfold Exponent.chars
    rw [Text.ofChars_cons, Text.ofChars_cons, List.map_cons, List.map_cons,
      map_toAsciiLower_digits]
    cases e.upper <;> cases e.negative <;> rfl
  unfold Fraction.chars lowered
  rw [List.cons_append, List.cons_append, Text.ofChars_cons, Text.ofChars_cons, Text.ofChars_append,
    Text.ofChars_append, List.map_cons, List.map_append, map_toAsciiLower_digits]
  cases f.exponent with
  | none => rfl
  | some e =>
    dsimp only [Option.map_some, Option.getD_some]
    rw [hexponent]
    rfl

/-- A decimal number is read as its value, whichever case marks its exponent. -/
theorem float_number {f : Fraction} (h : n.fraction = some f) :
    Scalar.float (Text.ofChars n.chars) = .ok (NumberSpelling.decimal n.negative n.whole f) := by
  let n' : NumberSpelling := ⟨n.negative, n.whole, some (lowered f), n.noLeadingZero, nofun⟩
  have hfolded : (Text.remove '_' (Text.ofChars n.chars)).toLower = Text.ofChars n'.chars := by
    have hlower : ∀ c ∈ Text.ofChars n.chars,
        c ≠ CodePoint.ofChar 'Σ' ∧ c.toLower = [c.toAsciiLower] :=
      forall_mem_of_numberCharacters n.mem_numberCharacters (by decide +kernel)
    have hsign : (Text.ofChars n.signChars).map CodePoint.toAsciiLower = Text.ofChars n.signChars := by
      unfold NumberSpelling.signChars
      cases n.negative <;> rfl
    rw [remove_number, Text.toLower, Text.toLowerAfter_eq_map hlower, NumberSpelling.chars, h]
    dsimp only [Option.map_some, Option.getD_some]
    rw [Text.ofChars_append, Text.ofChars_append, List.map_append, List.map_append,
      map_toAsciiLower_digits, map_toAsciiLower_fraction, hsign, ← Text.ofChars_append,
      ← Text.ofChars_append]
    rfl
  have hunsigned : Scalar.unsignedFloat (unsigned n') =
      .ok (NumberSpelling.decimal false n.whole f) := by
    have hword : ∀ {w : Text}, w.head?.any startsNumber = false → unsigned n' ≠ w := by
      rintro w hw rfl
      exact Bool.false_ne_true (hw.symm.trans (startsNumber_unsigned n'))
    have hinfinity : unsigned n' ≠ Text.ofString ".inf" := hword (by decide)
    have hnan : unsigned n' ≠ Text.ofString ".nan" := hword (by decide)
    have hcolon : (unsigned n').contains (CodePoint.ofChar ':') = false :=
      not_contains (forall_mem_unsigned n' (by decide))
    unfold Scalar.unsignedFloat
    rw [if_neg hinfinity, if_neg hnan, hcolon, if_neg Bool.false_ne_true, decimal_unsigned n' rfl,
      decimal_lowered]
  unfold Scalar.float
  rw [hfolded]
  dsimp only
  rw [not_isEmpty_number, if_neg Bool.false_ne_true, sign_number]
  dsimp only
  rw [hunsigned]
  have hsigned : (if n.negative = true then (NumberSpelling.decimal false n.whole f).neg
      else NumberSpelling.decimal false n.whole f) = NumberSpelling.decimal n.negative n.whole f := by
    cases n.negative with
    | true => exact (decimal_neg n.whole f).symm
    | false => exact if_neg Bool.false_ne_true
  exact congrArg Except.ok hsigned

theorem isNaN_number : n.value.isNaN = false := by
  unfold NumberSpelling.value
  cases n.fraction with
  | none => rfl
  | some f => exact Binary64.isNaN_ofDecimal ..

/-- Without quotes a number has the value that JSON gives it. -/
theorem read_number : Scalar.read (Graph.scalarTag none (Text.ofChars n.chars) true)
    (Text.ofChars n.chars) = .ok n.value := by
  have htag : Graph.scalarTag none (Text.ofChars n.chars) true = Tag.ofPlain (Text.ofChars n.chars) :=
    rfl
  rw [htag, ofPlain_number, NumberSpelling.value]
  cases h : n.fraction with
  | none =>
    rw [isFloat_of_integer n h, isInt_of_integer n h, if_neg Bool.false_ne_true, if_pos rfl,
      Scalar.read, int_number n h]
    rfl
  | some f =>
    rw [isFloat_of_decimal n h, if_pos rfl, Scalar.read, float_number n h]
    rfl

end

end Yaml

end DataShape
