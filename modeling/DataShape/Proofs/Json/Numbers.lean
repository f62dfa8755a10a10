-- SUMMARY: The numbers of portable spellings, as JSON reads them.
import DataShape.Proofs.Json.Spelling

/-!
# Numbers of portable spellings

The parts of a number are found where they stand, whatever follows as long as it
does not go on with the number.
-/

namespace DataShape

namespace Json

/-! ## Digits -/

/-- The digits of a number as a text. -/
def digitText (ds : List (Fin 10)) : Text := ds.map fun d => CodePoint.ofChar (digitChar d)

theorem ofChars_digits (ds : List (Fin 10)) :
    Text.ofChars (ds.map digitChar) = digitText ds := by
  unfold Text.ofChars digitText
  rw [List.map_map]
  rfl

theorem Digits.ofChars_chars (d : Digits) :
    Text.ofChars d.chars = digitText (d.first :: d.rest) := ofChars_digits _

/-- What holds of each digit holds of all code points of a text of digits. -/
theorem forall_mem_digitText {P : CodePoint → Prop}
    (h : ∀ d : Fin 10, P (CodePoint.ofChar (digitChar d))) (ds : List (Fin 10)) :
    ∀ c ∈ digitText ds, P c :=
  List.forall_mem_map.2 fun d _ => h d

theorem all_digitText {p : CodePoint → Bool}
    (h : ∀ d : Fin 10, p (CodePoint.ofChar (digitChar d)) = true) (ds : List (Fin 10)) :
    (digitText ds).all p = true :=
  List.all_eq_true.2 (forall_mem_digitText h ds)

theorem not_mem_digitText {c : CodePoint}
    (h : ∀ d : Fin 10, CodePoint.ofChar (digitChar d) ≠ c) (ds : List (Fin 10)) :
    c ∉ digitText ds :=
  fun hc => forall_mem_digitText (P := (· ≠ c)) h ds c hc rfl

theorem isAsciiDigit_digitChar (d : Fin 10) :
    (CodePoint.ofChar (digitChar d)).isAsciiDigit = true := by
  revert d
  decide

/-- Digits are taken as long as digits stand there. -/
theorem takeWhile_digits (ds : List (Fin 10)) {t : Text}
    (h : ∀ c ∈ t.head?, c.isAsciiDigit = false) :
    (digitText ds ++ t).takeWhile CodePoint.isAsciiDigit = digitText ds := by
  rw [List.takeWhile_append_of_pos (forall_mem_digitText isAsciiDigit_digitChar ds),
    takeWhile_eq_nil h, List.append_nil]

theorem exists_number?_digits (ds : List (Fin 10)) :
    ∃ n, Text.number? 10 (digitText ds) = some n := by
  have hdigits : (digitText ds).all (Text.isDigitIn 10) = true := all_digitText (by decide) ds
  obtain ⟨n, hn, -⟩ := Text.exists_number? hdigits
  exact ⟨n, hn⟩

theorem Digits.number?_eq (d : Digits) :
    Text.number? 10 (Text.ofChars d.chars) = some d.number := by
  obtain ⟨n, hn⟩ := exists_number?_digits (d.first :: d.rest)
  unfold Digits.number
  rw [d.ofChars_chars, hn]
  rfl

theorem digits?_digitText (ds : List (Fin 10)) :
    Numeral.digits? (digitText ds) = Text.number? 10 (digitText ds) :=
  if_pos (all_digitText isAsciiDigit_digitChar ds)

/-! ## Decimal numbers -/

theorem exponent?_chars (e : Exponent) :
    Numeral.exponent? (Text.ofChars e.chars.tail) = some e.number := by
  have hsign : Numeral.sign (Text.ofChars e.chars.tail) =
      (e.negative, Text.ofChars e.digits.chars) := by
    cases h : e.negative <;> simp [Exponent.chars, h, Numeral.sign]
  have hdigits : Numeral.digits? (Text.ofChars e.digits.chars) = some e.digits.number := by
    rw [← e.digits.number?_eq, e.digits.ofChars_chars]
    apply digits?_digitText
  unfold Numeral.exponent?
  rw [hsign]
  dsimp only
  rw [hdigits]
  rfl

/-- What marks an exponent. -/
def isMark (c : CodePoint) : Bool := c = 'e' || c = 'E'

/-- The digits of a decimal number, with the point. -/
def mantissa (w : Digits) (f : Fraction) : Text :=
  Text.ofChars w.chars ++ CodePoint.ofChar '.' :: Text.ofChars f.digits.chars

def exponentText (f : Fraction) : Text := Text.ofChars ((f.exponent.map Exponent.chars).getD [])

theorem ofChars_decimal (w : Digits) (f : Fraction) :
    Text.ofChars (w.chars ++ f.chars) = mantissa w f ++ exponentText f := by
  simp [mantissa, exponentText, Fraction.chars]

theorem not_isMark_of_mem_mantissa (w : Digits) (f : Fraction) :
    ∀ c ∈ mantissa w f, (!isMark c) = true := by
  have hdigit : ∀ d : Fin 10, (!isMark (CodePoint.ofChar (digitChar d))) = true := by decide
  unfold mantissa
  rw [w.ofChars_chars, f.digits.ofChars_chars, List.forall_mem_append, List.forall_mem_cons]
  exact ⟨forall_mem_digitText hdigit _, by decide, forall_mem_digitText hdigit _⟩

theorem splitAt_mantissa (w : Digits) (f : Fraction) :
    Text.splitAt '.' (mantissa w f) = [Text.ofChars w.chars, Text.ofChars f.digits.chars] := by
  have hdigit : ∀ d : Fin 10, CodePoint.ofChar (digitChar d) ≠ CodePoint.ofChar '.' := by decide
  unfold mantissa
  rw [w.ofChars_chars, f.digits.ofChars_chars, Text.splitAt_append (not_mem_digitText hdigit _),
    Text.splitAt_of_not_mem (not_mem_digitText hdigit _)]

theorem digits?_decimal (w : Digits) (f : Fraction) :
    ∃ n, Text.number? 10 (Text.ofChars (w.chars ++ f.digits.chars)) = some n ∧
      Numeral.digits? (Text.ofChars w.chars ++ Text.ofChars f.digits.chars) = some n := by
  have hall : Text.ofChars (w.chars ++ f.digits.chars) =
      digitText (w.first :: w.rest ++ f.digits.first :: f.digits.rest) := by
    rw [Text.ofChars_append, w.ofChars_chars, f.digits.ofChars_chars]
    exact List.map_append.symm
  obtain ⟨n, hn⟩ := exists_number?_digits (w.first :: w.rest ++ f.digits.first :: f.digits.rest)
  refine ⟨n, by rw [hall, hn], ?_⟩
  rw [← Text.ofChars_append, hall, digits?_digitText, hn]

/-- A decimal number has its value as a numeral. -/
theorem unsignedDecimal?_chars (negative : Bool) (w : Digits) (f : Fraction) :
    Numeral.unsignedDecimal? negative (Text.ofChars (w.chars ++ f.chars)) =
      some (NumberSpelling.decimal negative w f) := by
  have hmark : ∀ c ∈ (exponentText f).head?, (!isMark c) = false := by
    unfold exponentText
    cases f.exponent with
    | none => exact nofun
    | some e =>
      intro c hc
      obtain rfl := Option.some.inj hc
      cases e.upper <;> rfl
  have htake : (mantissa w f ++ exponentText f).takeWhile (!isMark ·) = mantissa w f := by
    rw [List.takeWhile_append_of_pos (not_isMark_of_mem_mantissa w f), takeWhile_eq_nil hmark,
      List.append_nil]
  have hdrop : (mantissa w f ++ exponentText f).dropWhile (!isMark ·) = exponentText f := by
    rw [List.dropWhile_append_of_pos (not_isMark_of_mem_mantissa w f), dropWhile_eq_self hmark]
  obtain ⟨n, hn, hdigits⟩ := digits?_decimal w f
  have hsome : (Text.ofChars w.chars ++ Text.ofChars f.digits.chars).isEmpty = false := rfl
  rw [ofChars_decimal]
  unfold Numeral.unsignedDecimal?
  unfold isMark at htake hdrop
  dsimp only
  rw [htake, hdrop, splitAt_mantissa]
  unfold NumberSpelling.decimal exponentText
  rw [hn]
  cases f.exponent with
  | none =>
    dsimp only [Option.map_none, Option.getD_none, Text.ofChars_nil]
    rw [hsome, hdigits, if_neg Bool.false_ne_true, Option.map_some, Text.length_ofChars]
    rfl
  | some e =>
    have hexponent : Numeral.exponent? (Text.ofChars e.chars.tail) = some e.number :=
      exponent?_chars e
    have hchars : Text.ofChars e.chars =
        CodePoint.ofChar (if e.upper then 'E' else 'e') :: Text.ofChars e.chars.tail := rfl
    dsimp only [Option.map_some, Option.getD_some]
    rw [hchars]
    dsimp only
    rw [hexponent]
    dsimp only
    rw [hsome, hdigits, if_neg Bool.false_ne_true, Option.map_some, Text.length_ofChars]

/-! ## Reading -/

/-- What may follow a number or a word: a blank, a comma or a closing bracket. -/
def endsAtom (c : Char) : Bool :=
  c = ' ' || c = '\n' || c = '\r' || c = ',' || c = ']' || c = '\x7d'

/-- A text at whose start no number goes on. -/
def EndsAtom (cs : List Char) : Prop := ∀ c ∈ cs.head?, endsAtom c = true

section

variable {rest : List Char}

theorem head?_of_endsAtom {P : CodePoint → Prop} (hrest : EndsAtom rest)
    (h : ∀ c : Char, c ∈ [' ', '\n', '\r', ',', ']', '\x7d'] → P (CodePoint.ofChar c)) :
    ∀ c ∈ (Text.ofChars rest).head?, P c := by
  cases rest with
  | nil => exact nofun
  | cons x rest =>
    intro c hc
    obtain rfl := Option.some.inj hc
    apply h
    have hx := hrest x rfl
    simpa [endsAtom, or_assoc] using hx

theorem whole_chars (n : NumberSpelling) {t : Text}
    (h : ∀ c ∈ t.head?, c.isAsciiDigit = false) :
    whole (Text.ofChars n.whole.chars ++ t) = Text.ofChars n.whole.chars := by
  rw [n.whole.ofChars_chars]
  by_cases hzero : n.whole.first = 0
  · rw [n.noLeadingZero hzero, hzero]
    rfl
  · have hfirst : CodePoint.ofChar (digitChar n.whole.first) ≠ CodePoint.ofChar '0' := by
      have : ∀ d : Fin 10, d ≠ 0 → CodePoint.ofChar (digitChar d) ≠ CodePoint.ofChar '0' := by
        decide
      exact this _ hzero
    refine Eq.trans (if_neg hfirst) ?_
    exact takeWhile_digits (n.whole.first :: n.whole.rest) h

theorem fraction_chars (d : Digits) {t : Text} (h : ∀ c ∈ t.head?, c.isAsciiDigit = false) :
    fraction (Text.ofChars ('.' :: d.chars) ++ t) = Text.ofChars ('.' :: d.chars) := by
  rw [Text.ofChars_cons, d.ofChars_chars, List.cons_append, fraction, takeWhile_digits _ h]
  exact if_pos ⟨rfl, nofun⟩

theorem fraction_eq_nil {t : Text} (h : ∀ c ∈ t.head?, c ≠ CodePoint.ofChar '.') :
    fraction t = [] := by
  cases t with
  | nil => rfl
  | cons c t => exact if_neg fun hpoint => h c rfl hpoint.1

theorem exponent_chars (e : Exponent) {t : Text} (h : ∀ c ∈ t.head?, c.isAsciiDigit = false) :
    exponent (Text.ofChars e.chars ++ t) = Text.ofChars e.chars := by
  have hsign : ∀ s : Char, s = '+' ∨ s = '-' → ∀ rest : Text,
      ((CodePoint.ofChar s :: rest).take 1).filter (fun s => s = CodePoint.ofChar '+' ||
        s = CodePoint.ofChar '-') = [CodePoint.ofChar s] := by
    rintro s (rfl | rfl) rest <;> rfl
  unfold Exponent.chars
  rw [Text.ofChars_cons, Text.ofChars_cons, e.digits.ofChars_chars, List.cons_append,
    List.cons_append, exponent]
  rw [hsign _ (by cases e.negative <;> simp), List.length_singleton, List.drop_succ_cons,
    List.drop_zero, takeWhile_digits _ h]
  refine if_pos ⟨?_, nofun⟩
  cases e.upper
  · exact .inl rfl
  · exact .inr rfl

theorem exponent_eq_nil {t : Text}
    (h : ∀ c ∈ t.head?, c ≠ CodePoint.ofChar 'e' ∧ c ≠ CodePoint.ofChar 'E') :
    exponent t = [] := by
  cases t with
  | nil => rfl
  | cons c t => exact if_neg fun hmark => hmark.1.elim (h c rfl).1 (h c rfl).2

/-- A number is read by its parts. -/
theorem readNumber_parts {c : Cursor} {sign digits frac expo t : Text}
    (hsign : (c.rest.take 1).filter (· = CodePoint.ofChar '-') = sign)
    (hrest : c.rest = sign ++ (digits ++ (frac ++ (expo ++ t)))) (hne : digits ≠ [])
    (hdigits : whole (digits ++ (frac ++ (expo ++ t))) = digits)
    (hfrac : fraction (frac ++ (expo ++ t)) = frac) (hexpo : exponent (expo ++ t) = expo) :
    ∃ after : Cursor, after.rest = t ∧
      (frac = [] → expo = [] → digits.length ≤ Numeral.digitLimit →
        let n : Int := (Text.number? 10 digits).getD 0
        readNumber c = .ok (.int (if sign = [] then n else -n), after)) ∧
      ∀ x, frac ≠ [] → Numeral.unsignedDecimal? (sign ≠ []) (digits ++ frac ++ expo) = some x →
        readNumber c = .ok (.float x, after) := by
  have hunsigned : c.rest.drop sign.length = digits ++ (frac ++ (expo ++ t)) := by
    rw [hrest, List.drop_left]
  refine ⟨c.drop (sign.length + digits.length + frac.length + expo.length), ?_, ?_, ?_⟩
  · unfold Cursor.drop
    dsimp only
    rw [hrest, ← List.append_assoc, ← List.append_assoc, ← List.append_assoc]
    apply List.drop_left'
    simp only [List.length_append]
  · intro hnofrac hnoexpo hshort
    unfold readNumber
    dsimp only
    rw [hsign, hunsigned, hdigits, List.drop_left, hfrac, List.drop_left, hexpo, if_neg hne,
      if_pos ⟨hnofrac, hnoexpo⟩, if_neg (Nat.not_lt.2 hshort)]
  · intro x hsomefrac hdecimal
    unfold readNumber
    dsimp only
    rw [hsign, hunsigned, hdigits, List.drop_left, hfrac, List.drop_left, hexpo, if_neg hne,
      if_neg fun h => hsomefrac h.1, hdecimal]

theorem exponent_exponentText (f : Fraction) {t : Text}
    (h : ∀ c ∈ t.head?, c.isAsciiDigit = false ∧ c ≠ CodePoint.ofChar 'e' ∧
      c ≠ CodePoint.ofChar 'E') :
    exponent (exponentText f ++ t) = exponentText f := by
  unfold exponentText
  cases f.exponent with
  | none => exact exponent_eq_nil fun c hc => (h c hc).2
  | some e => exact exponent_chars e fun c hc => (h c hc).1

/-- No digit stands where a fraction ends. -/
theorem not_isAsciiDigit_head (f : Fraction) {t : Text}
    (h : ∀ c ∈ t.head?, c.isAsciiDigit = false) :
    ∀ c ∈ (exponentText f ++ t).head?, c.isAsciiDigit = false := by
  unfold exponentText
  cases f.exponent with
  | none => exact h
  | some e =>
    intro c hc
    obtain rfl := Option.some.inj hc
    cases e.upper <;> rfl

theorem sign_chars (n : NumberSpelling) (cs : List Char) :
    ((Text.ofChars (n.chars ++ cs)).take 1).filter (· = CodePoint.ofChar '-') =
      Text.ofChars n.signChars := by
  have hdigit : ∀ d : Fin 10, CodePoint.ofChar (digitChar d) ≠ CodePoint.ofChar '-' := by decide
  unfold NumberSpelling.chars NumberSpelling.signChars
  cases n.negative with
  | true => rfl
  | false =>
    simp only [Bool.false_eq_true, if_false, List.nil_append, Digits.chars, List.map_cons,
      List.cons_append, Text.ofChars_cons, List.take_succ_cons, List.take_zero, List.filter_cons,
      hdigit, decide_false, List.filter_nil, Text.ofChars_nil]

/-- JSON reads a number as its value. -/
theorem readNumber_chars (n : NumberSpelling) (hrest : EndsAtom rest) {c : Cursor}
    (hc : c.rest = Text.ofChars (n.chars ++ rest)) :
    ∃ after : Cursor, readNumber c = .ok (n.value, after) ∧ after.rest = Text.ofChars rest := by
  have hsign := sign_chars n rest
  rw [← hc] at hsign
  have hne : Text.ofChars n.whole.chars ≠ [] := nofun
  have hnegative : (Text.ofChars n.signChars = []) ↔ n.negative = false := by
    unfold NumberSpelling.signChars
    cases n.negative <;> simp
  have hnodigit : ∀ c ∈ (Text.ofChars rest).head?, c.isAsciiDigit = false :=
    head?_of_endsAtom hrest (by decide)
  cases hfraction : n.fraction with
  | none =>
    have hparts : c.rest = Text.ofChars n.signChars ++ (Text.ofChars n.whole.chars ++
        ([] ++ ([] ++ Text.ofChars rest))) := by
      rw [hc, NumberSpelling.chars, hfraction]
      simp
    obtain ⟨after, hafter, hint, -⟩ := readNumber_parts hsign hparts hne
      (whole_chars n hnodigit) (fraction_eq_nil (head?_of_endsAtom hrest (by decide)))
      (exponent_eq_nil (head?_of_endsAtom hrest (by decide)))
    refine ⟨after, ?_, hafter⟩
    rw [hint rfl rfl (by rw [Text.length_ofChars]; exact n.short hfraction)]
    unfold NumberSpelling.value Digits.number
    rw [hfraction]
    cases hneg : n.negative <;> simp [hnegative, hneg]
  | some f =>
    have hparts : c.rest = Text.ofChars n.signChars ++ (Text.ofChars n.whole.chars ++
        (Text.ofChars ('.' :: f.digits.chars) ++ (exponentText f ++ Text.ofChars rest))) := by
      rw [hc, NumberSpelling.chars, hfraction]
      simp [Fraction.chars, exponentText]
    obtain ⟨after, hafter, -, hfloat⟩ := readNumber_parts hsign hparts hne
      (whole_chars n (fun c hc => by obtain rfl := Option.some.inj hc; rfl))
      (fraction_chars f.digits (not_isAsciiDigit_head f hnodigit))
      (exponent_exponentText f (head?_of_endsAtom hrest (by decide)))
    refine ⟨after, ?_, hafter⟩
    have hdecimal := unsignedDecimal?_chars n.negative n.whole f
    rw [ofChars_decimal, mantissa, ← Text.ofChars_cons] at hdecimal
    have hnegative : decide (Text.ofChars n.signChars ≠ []) = n.negative := by
      cases hneg : n.negative <;> simp [hnegative, hneg]
    rw [hfloat (NumberSpelling.decimal n.negative n.whole f) nofun (by rw [hnegative]; exact hdecimal)]
    unfold NumberSpelling.value
    rw [hfraction]

end

end Json

end DataShape
