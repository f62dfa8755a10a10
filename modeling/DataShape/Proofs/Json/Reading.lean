-- SUMMARY: Portable spellings, as JSON reads them.
import DataShape.Proofs.Json.Numbers

/-!
# Reading portable spellings as JSON

The reader takes a spelling as it stands, and gives its value with what is left
after it. Twice the number of characters is fuel enough.
-/

namespace DataShape.Json

variable {nesting : Nat} {c : Cursor} {rest : List Char}

/-! ## Blanks -/

theorem skipBlanks_chars (bs : List Blank) (hc : c.rest = Text.ofChars (blanks bs ++ rest))
    (hrest : ∀ x ∈ (Text.ofChars rest).head?, Cursor.isBlank x = false) :
    c.skipBlanks.rest = Text.ofChars rest := by
  have hblank : ∀ x ∈ Text.ofChars (blanks bs), Cursor.isBlank x = true := by
    unfold Text.ofChars blanks
    rw [List.map_map]
    refine List.forall_mem_map.2 fun b _ => ?_
    cases b <;> rfl
  unfold Cursor.skipBlanks
  dsimp only
  rw [hc, Text.ofChars_append, List.dropWhile_append_of_pos hblank, dropWhile_eq_self hrest]

/-! ## Strings -/

theorem of_standsForItself {x : Char} (h : standsForItself x = true) :
    x ≠ '"' ∧ x ≠ '\\' ∧ 0x20 ≤ (CodePoint.ofChar x).val := by
  simp only [standsForItself, Bool.and_eq_true, decide_eq_true_eq] at h
  obtain ⟨⟨⟨⟨hquote, hbackslash⟩, hallowed⟩, hbreak⟩, htab⟩ := h
  refine ⟨hquote, hbackslash, ?_⟩
  have hne : ∀ y : Char, x ≠ y → x.toNat ≠ y.toNat := fun y hy h => hy (Char.toNat_inj.1 h)
  have htab := hne _ htab
  have hbreak : x ≠ '\n' ∧ x ≠ '\r' := by
    refine ⟨?_, ?_⟩ <;> rintro rfl <;> cases hbreak
  have hlineFeed := hne _ hbreak.1
  have hreturn := hne _ hbreak.2
  unfold Yaml.isAllowed at hallowed
  dsimp only at hallowed
  simp only [Bool.or_eq_true, Bool.and_eq_true, decide_eq_true_eq] at hallowed
  simp only [Char.reduceToNat] at htab hlineFeed hreturn
  rw [CodePoint.ofChar_val] at hallowed ⊢
  omega

theorem Escape.simpleEscape? (e : Escape) :
    Json.simpleEscape? (CodePoint.ofChar e.letter) = some (CodePoint.ofChar e.char) := by
  cases e <;> rfl

theorem Escape.letter_ne (e : Escape) : CodePoint.ofChar e.letter ≠ CodePoint.ofChar 'u' := by
  cases e <;> decide

theorem HexDigits.hexDigits? (d : HexDigits) :
    Json.hexDigits? (Text.ofChars d.chars) = some d.codePoint := by
  have hall : (Text.ofChars d.chars).all (Text.isDigitIn 16) = true := by
    unfold Text.ofChars
    rw [List.all_map]
    exact d.digits
  obtain ⟨n, hn, hlt⟩ := Text.exists_number? hall
  rw [Text.length_ofChars, d.length] at hlt
  have hpoint : n < 0x110000 := Nat.lt_trans hlt (by decide)
  unfold Json.hexDigits? HexDigits.codePoint
  rw [hn]
  refine (dif_pos hpoint).trans ?_
  exact congrArg some (Fin.ext (Nat.mod_eq_of_lt hpoint).symm)

/-- What stands after a high surrogate is no low one to go with it. -/
theorem lowSurrogate?_parts {high : CodePoint} {parts : List StringPart}
    (h : ∀ d : HexDigits, parts.head? = some (.unicode d) →
      (high.isHighSurrogate && d.codePoint.isLowSurrogate) = false)
    (hc : c.rest = Text.ofChars (parts.flatMap StringPart.chars ++ '"' :: rest)) :
    lowSurrogate? high c = .ok none := by
  have hfirst : ∀ {b : CodePoint} {t : Text}, c.rest = b :: t → b ≠ CodePoint.ofChar '\\' →
      lowSurrogate? high c = .ok none := by
    intro b t hrest hne
    unfold lowSurrogate?
    rw [hrest]
    cases t with
    | nil => rfl
    | cons u t => exact if_neg fun hall => hne (by simp_all)
  cases parts with
  | nil => exact hfirst hc (by decide)
  | cons part parts =>
    rw [List.flatMap_cons, List.append_assoc, Text.ofChars_append] at hc
    cases part with
    | char x hx =>
      exact hfirst hc (by simpa using (of_standsForItself hx).2.1)
    | escape e =>
      unfold lowSurrogate?
      rw [hc]
      exact if_neg fun hall => e.letter_ne (by simp_all [StringPart.chars])
    | unicode d =>
      have htake : ∀ t : Text, (Text.ofChars d.chars ++ t).take 4 = Text.ofChars d.chars := by
        intro t
        rw [← d.length, ← Text.length_ofChars]
        exact List.take_left
      have hc : c.rest = CodePoint.ofChar '\\' :: CodePoint.ofChar 'u' :: (Text.ofChars d.chars ++
          Text.ofChars (parts.flatMap StringPart.chars ++ '"' :: rest)) := hc
      unfold lowSurrogate?
      rw [hc]
      dsimp only
      rw [htake, d.hexDigits?]
      have hlow := h d rfl
      cases hhigh : high.isHighSurrogate with
      | false => exact if_neg (by simp)
      | true =>
        rw [hhigh, Bool.true_and] at hlow
        dsimp only
        rw [hlow, if_neg Bool.false_ne_true, ite_self]

theorem hasNoPair_tail {part : StringPart} {parts : List StringPart}
    (h : hasNoPair (part :: parts) = true) : hasNoPair parts = true := by
  cases parts with
  | nil => rfl
  | cons q parts => exact (Bool.and_eq_true_iff.1 h).2

/-- What goes on where a part ends. -/
theorem readString_part {part : StringPart} {parts : List StringPart} {start fuel : Nat} {acc : Text}
    (hparts : hasNoPair (part :: parts) = true)
    (hc : c.rest = Text.ofChars ((part :: parts).flatMap StringPart.chars ++ '"' :: rest)) :
    ∃ after : Cursor, readString start (fuel + 1) c acc =
        readString start fuel after (part.codePoint :: acc) ∧
      after.rest = Text.ofChars (parts.flatMap StringPart.chars ++ '"' :: rest) := by
  rw [List.flatMap_cons, List.append_assoc, Text.ofChars_append] at hc
  cases part with
  | char x hx =>
    have hc : c.rest = CodePoint.ofChar x ::
      Text.ofChars (parts.flatMap StringPart.chars ++ '"' :: rest) := hc
    obtain ⟨hquote, hbackslash, hcontrol⟩ := of_standsForItself hx
    refine ⟨c.drop 1, ?_, ?_⟩
    · rw [readString.eq_def, hc]
      dsimp only
      rw [if_neg (by simpa using hquote), if_neg (by simpa using hbackslash),
        if_neg (Nat.not_lt.2 hcontrol)]
      rfl
    · rw [Cursor.drop, hc]
      rfl
  | escape e =>
    have hc : c.rest = CodePoint.ofChar '\\' :: CodePoint.ofChar e.letter ::
      Text.ofChars (parts.flatMap StringPart.chars ++ '"' :: rest) := hc
    have hdrop : (c.drop 1).rest = CodePoint.ofChar e.letter ::
        Text.ofChars (parts.flatMap StringPart.chars ++ '"' :: rest) := by
      rw [Cursor.drop, hc]
      rfl
    have hread : readEscape start (c.drop 1) = .ok (CodePoint.ofChar e.char, (c.drop 1).drop 1) := by
      unfold readEscape
      rw [hdrop]
      dsimp only
      rw [if_neg e.letter_ne, e.simpleEscape?]
    refine ⟨(c.drop 1).drop 1, ?_, ?_⟩
    · rw [readString.eq_def, hc]
      dsimp only
      rw [if_neg (by decide), if_pos rfl, hread]
      rfl
    · rw [Cursor.drop, hdrop]
      rfl
  | unicode d =>
    have hc : c.rest = CodePoint.ofChar '\\' :: CodePoint.ofChar 'u' :: (Text.ofChars d.chars ++
          Text.ofChars (parts.flatMap StringPart.chars ++ '"' :: rest)) := hc
    have hdrop : ((c.drop 1).drop 1).rest = Text.ofChars d.chars ++
        Text.ofChars (parts.flatMap StringPart.chars ++ '"' :: rest) := by
      simp only [Cursor.drop, hc, List.drop_succ_cons, List.drop_zero]
    have hlast : (((c.drop 1).drop 1).drop 4).rest =
        Text.ofChars (parts.flatMap StringPart.chars ++ '"' :: rest) := by
      rw [Cursor.drop, hdrop, ← d.length, ← Text.length_ofChars]
      exact List.drop_left
    have hread : readEscape start (c.drop 1) =
        .ok (d.codePoint, ((c.drop 1).drop 1).drop 4) := by
      have hlow : lowSurrogate? d.codePoint (((c.drop 1).drop 1).drop 4) = .ok none := by
        apply lowSurrogate?_parts _ hlast
        intro e he
        cases parts with
        | nil => cases he
        | cons q parts =>
          obtain rfl := Option.some.inj he
          have hpair := (Bool.and_eq_true_iff.1 hparts).1
          rw [Bool.not_eq_true'] at hpair
          exact hpair
      have htake : ((c.drop 1).drop 1).rest.take 4 = Text.ofChars d.chars := by
        rw [hdrop, ← d.length, ← Text.length_ofChars]
        exact List.take_left
      have hmore : (((c.drop 1).drop 1).rest.drop 4).isEmpty = false := by
        change (((c.drop 1).drop 1).drop 4).rest.isEmpty = false
        rw [hlast]
        simp
      have hunicode : readUnicodeEscape ((c.drop 1).drop 1) =
          .ok (d.codePoint, ((c.drop 1).drop 1).drop 4) := by
        unfold readUnicodeEscape
        rw [hmore, if_neg Bool.false_ne_true, htake, d.hexDigits?]
        dsimp only
        rw [hlow]
        rfl
      have hletter : (c.drop 1).rest = CodePoint.ofChar 'u' :: (Text.ofChars d.chars ++
          Text.ofChars (parts.flatMap StringPart.chars ++ '"' :: rest)) := by
        simp only [Cursor.drop, hc, List.drop_succ_cons, List.drop_zero]
      unfold readEscape
      rw [hletter]
      dsimp only
      rw [if_pos rfl, hunicode]
    refine ⟨((c.drop 1).drop 1).drop 4, ?_, hlast⟩
    rw [readString.eq_def, hc]
    dsimp only
    rw [if_neg (by decide), if_pos rfl, hread]
    rfl

/-- The parts of a string are read up to the closing quote. -/
theorem readString_parts {parts : List StringPart} (hparts : hasNoPair parts = true)
    {start fuel : Nat} (hfuel : parts.length < fuel) {acc : Text}
    (hc : c.rest = Text.ofChars (parts.flatMap StringPart.chars ++ '"' :: rest)) :
    ∃ after : Cursor, readString start fuel c acc =
      .ok (acc.reverse ++ parts.map StringPart.codePoint, after) ∧ after.rest = Text.ofChars rest := by
  induction parts generalizing c fuel acc with
  | nil =>
    obtain ⟨fuel, rfl⟩ := Nat.exists_eq_succ_of_ne_zero (Nat.ne_of_gt hfuel)
    refine ⟨c.drop 1, ?_, ?_⟩
    · rw [readString.eq_def, hc]
      simp
    · unfold Cursor.drop
      dsimp only
      rw [hc]
      rfl
  | cons part parts ih =>
    obtain ⟨fuel, rfl⟩ := Nat.exists_eq_succ_of_ne_zero (Nat.ne_of_gt (Nat.zero_lt_of_lt hfuel))
    obtain ⟨next, hnext, hrest⟩ := readString_part hparts hc
    obtain ⟨after, hafter, hlast⟩ := ih (hasNoPair_tail hparts) (Nat.lt_of_succ_lt_succ hfuel) hrest
    refine ⟨after, ?_, hlast⟩
    rw [hnext, hafter, List.reverse_cons, List.append_assoc]
    rfl

/-! ## Values without parts -/

theorem startsWith_eq_false {word : String} {x y : CodePoint} {t u : Text}
    (hword : Text.ofString word = x :: t) (hc : c.rest = y :: u) (h : x ≠ y) :
    c.startsWith word = false := by
  unfold Cursor.startsWith
  rw [hword, hc, List.isPrefixOf_cons_cons, beq_false_of_ne h]
  rfl

/-- A number starts with a digit after its sign. -/
theorem NumberSpelling.exists_chars_eq (n : NumberSpelling) :
    ∃ cs, n.chars = n.signChars ++ digitChar n.whole.first :: cs := by
  refine ⟨n.whole.rest.map digitChar ++ (n.fraction.map Fraction.chars).getD [], ?_⟩
  unfold NumberSpelling.chars Digits.chars
  simp

/-- What numbers start with. -/
def numberStarts : List Char := ['-', '0', '1', '2', '3', '4', '5', '6', '7', '8', '9']

theorem NumberSpelling.exists_first (n : NumberSpelling) :
    ∃ x ∈ numberStarts, ∃ cs, n.chars = x :: cs := by
  have hdigit : ∀ d : Fin 10, digitChar d ∈ numberStarts := by decide
  obtain ⟨cs, hcs⟩ := n.exists_chars_eq
  unfold NumberSpelling.signChars at hcs
  cases hneg : n.negative with
  | false =>
    rw [hneg] at hcs
    exact ⟨_, hdigit _, cs, hcs⟩
  | true =>
    rw [hneg] at hcs
    exact ⟨'-', by decide, _, hcs⟩

/-- No word starts like a number. -/
theorem readWord?_number (n : NumberSpelling) (hc : c.rest = Text.ofChars (n.chars ++ rest)) :
    readWord? c = none := by
  have hdigit : ∀ d : Fin 10, CodePoint.ofChar (digitChar d) ∉
      [CodePoint.ofChar 'n', CodePoint.ofChar 't', CodePoint.ofChar 'f', CodePoint.ofChar 'N',
        CodePoint.ofChar 'I', CodePoint.ofChar '-'] := by decide
  have hword : Text.ofString "-Infinity" = CodePoint.ofChar '-' :: CodePoint.ofChar 'I' ::
      Text.ofString "nfinity" := rfl
  obtain ⟨cs, hchars⟩ := n.exists_chars_eq
  rw [hchars, List.append_assoc, Text.ofChars_append] at hc
  have hwords : ∃ x t, c.rest = x :: t ∧ x ∉ [CodePoint.ofChar 'n', CodePoint.ofChar 't',
      CodePoint.ofChar 'f', CodePoint.ofChar 'N', CodePoint.ofChar 'I'] ∧
      c.startsWith "-Infinity" = false := by
    cases hneg : n.negative with
    | false =>
      have hc : c.rest = CodePoint.ofChar (digitChar n.whole.first) :: Text.ofChars (cs ++ rest) := by
        rw [hc, NumberSpelling.signChars, hneg]
        rfl
      refine ⟨_, _, hc, fun hx => hdigit n.whole.first (List.mem_append_left [_] hx), ?_⟩
      exact startsWith_eq_false hword hc fun h => hdigit n.whole.first (by simp [← h])
    | true =>
      have hc : c.rest = CodePoint.ofChar '-' :: CodePoint.ofChar (digitChar n.whole.first) ::
          Text.ofChars (cs ++ rest) := by
        rw [hc, NumberSpelling.signChars, hneg]
        rfl
      refine ⟨_, _, hc, by decide, ?_⟩
      have hletter : CodePoint.ofChar 'I' ≠ CodePoint.ofChar (digitChar n.whole.first) :=
        fun h => hdigit n.whole.first (by simp [← h])
      unfold Cursor.startsWith
      rw [hc, hword, List.isPrefixOf_cons_cons, List.isPrefixOf_cons_cons, beq_false_of_ne hletter,
        Bool.false_and, Bool.and_false]
  obtain ⟨x, t, hrest, hx, hinfinity⟩ := hwords
  simp only [List.mem_cons, List.not_mem_nil, or_false, not_or] at hx
  obtain ⟨hn, ht, hf, hN, hI⟩ := hx
  unfold readWord?
  rw [startsWith_eq_false rfl hrest (Ne.symm hn), startsWith_eq_false rfl hrest (Ne.symm ht),
    startsWith_eq_false rfl hrest (Ne.symm hf), startsWith_eq_false rfl hrest (Ne.symm hN),
    startsWith_eq_false rfl hrest (Ne.symm hI), hinfinity]
  rfl

theorem startsWith_eq_true {word : String} {x : CodePoint} {u : Text}
    (hword : Text.ofString word = [x]) (hc : c.rest = x :: u) : c.startsWith word = true := by
  unfold Cursor.startsWith
  rw [hword, hc, List.isPrefixOf_cons_cons, beq_self_eq_true]
  rfl

/-- What starts neither a string, nor an array, nor an object is read in one piece. -/
theorem readValue_eq_readAtom {x : CodePoint} {t : Text} (hc : c.rest = x :: t) (fuel depth : Nat)
    (hx : x ≠ CodePoint.ofChar '"' ∧ x ≠ CodePoint.ofChar '[' ∧ x ≠ CodePoint.ofChar '\x7b') :
    readValue nesting (fuel + 1) depth c = readAtom c := by
  rw [readValue.eq_def, hc]
  dsimp only
  rw [if_neg hx.1, if_neg hx.2.1, if_neg hx.2.2]

theorem StringPart.length_chars_pos (part : StringPart) : 0 < part.chars.length := by
  cases part <;> exact Nat.succ_pos _

theorem length_parts_le (parts : List StringPart) :
    parts.length ≤ (parts.flatMap StringPart.chars).length := by
  induction parts with
  | nil => exact Nat.le_refl _
  | cons part parts ih =>
    have hpart := part.length_chars_pos
    rw [List.flatMap_cons, List.length_append, List.length_cons]
    omega

/-- A string is read from after its opening quote. -/
theorem readString_chars (s : StringSpelling) (start : Nat) {fuel : Nat}
    (hfuel : s.chars.length ≤ fuel) (hc : c.rest = Text.ofChars (s.chars ++ rest)) :
    ∃ after : Cursor, readString start fuel (c.drop 1) [] = .ok (s.text, after) ∧
      after.rest = Text.ofChars rest := by
  have hlength : s.chars.length = (s.parts.flatMap StringPart.chars).length + 2 := by
    simp [StringSpelling.chars]
  have hparts := length_parts_le s.parts
  apply readString_parts s.unpaired (by omega)
  rw [Cursor.drop, hc]
  simp [StringSpelling.chars]

theorem readValue_atom (a : Atom) {fuel : Nat} (depth : Nat) (hfuel : a.chars.length < fuel)
    (hrest : EndsAtom rest) (hc : c.rest = Text.ofChars (a.chars ++ rest)) :
    ∃ after : Cursor, readValue nesting fuel depth c = .ok (a.value, after) ∧
      after.rest = Text.ofChars rest := by
  obtain ⟨fuel, rfl⟩ := Nat.exists_eq_succ_of_ne_zero (Nat.ne_of_gt (Nat.zero_lt_of_lt hfuel))
  have hword : ∀ {word : List Char} {v : Value} {x : Char} {cs : List Char}, word = x :: cs →
      c.rest = Text.ofChars (word ++ rest) →
      (x ≠ '"' ∧ x ≠ '[' ∧ x ≠ '\x7b') →
      readWord? c = some (.ok (v, c.drop word.length)) →
      ∃ after : Cursor, readValue nesting (fuel + 1) depth c = .ok (v, after) ∧
        after.rest = Text.ofChars rest := by
    intro word v x cs hcons hc hx hread
    refine ⟨c.drop word.length, ?_, ?_⟩
    · rw [hcons] at hc
      rw [readValue_eq_readAtom hc fuel depth (by simpa using hx), readAtom, hread]
      rfl
    · rw [Cursor.drop, hc, Text.ofChars_append, ← Text.length_ofChars]
      exact List.drop_left
  cases a with
  | null =>
    apply hword rfl hc (by decide)
    unfold readWord?
    rw [Cursor.startsWith, hc]
    rfl
  | boolean b =>
    cases b with
    | true =>
      apply hword rfl hc (by decide)
      unfold readWord? Cursor.startsWith
      rw [hc]
      rfl
    | false =>
      apply hword rfl hc (by decide)
      unfold readWord? Cursor.startsWith
      rw [hc]
      rfl
  | number n =>
    obtain ⟨x, hx, cs, hcs⟩ := n.exists_first
    have hx : CodePoint.ofChar x ≠ CodePoint.ofChar '"' ∧
        CodePoint.ofChar x ≠ CodePoint.ofChar '[' ∧
        CodePoint.ofChar x ≠ CodePoint.ofChar '\x7b' := by
      clear hcs
      revert x
      decide
    obtain ⟨after, hread, hafter⟩ := readNumber_chars n hrest hc
    refine ⟨after, ?_, hafter⟩
    have hword := readWord?_number n hc
    have hc : c.rest = CodePoint.ofChar x :: Text.ofChars (cs ++ rest) := by
      rw [hc, Atom.chars, hcs]
      rfl
    rw [readValue_eq_readAtom hc fuel depth hx, readAtom, hword]
    exact hread
  | string s =>
    obtain ⟨after, hread, hafter⟩ := readString_chars s c.position (Nat.le_of_lt_succ hfuel) hc
    refine ⟨after, ?_, hafter⟩
    have hc : c.rest = CodePoint.ofChar '"' :: Text.ofChars (s.chars.tail ++ rest) := hc
    rw [readValue.eq_def, hc]
    dsimp only
    rw [if_pos rfl, hread]
    rfl

/-! ## Arrays and objects -/

theorem endsAtom_blanks (bs : List Blank) (h : EndsAtom rest) : EndsAtom (blanks bs ++ rest) := by
  cases bs with
  | nil => exact h
  | cons b bs =>
    intro x hx
    obtain rfl := Option.some.inj hx
    cases b <;> rfl

/-- Behind an item or a field stands a comma or the closing bracket. -/
theorem endsAtom_following {close : Char} (h : endsAtom close = true) (css : List (List Char)) :
    EndsAtom (following ',' css ++ close :: rest) := by
  cases css with
  | nil =>
    intro x hx
    obtain rfl := Option.some.inj hx
    exact h
  | cons cs css =>
    intro x hx
    obtain rfl := Option.some.inj hx
    rfl

/-- What values start with. -/
def valueStarts : List Char := ['"', '[', '\x7b', 'n', 't', 'f'] ++ numberStarts

theorem Spelling.exists_first (p : Spelling) : ∃ x ∈ valueStarts, ∃ cs, p.core = x :: cs := by
  cases p with
  | atom before a after =>
    cases a with
    | null => exact ⟨'n', by decide, _, rfl⟩
    | boolean b =>
      cases b
      · exact ⟨'f', by decide, _, rfl⟩
      · exact ⟨'t', by decide, _, rfl⟩
    | number n =>
      obtain ⟨x, hx, cs, hcs⟩ := n.exists_first
      exact ⟨x, List.mem_append_right _ hx, cs, hcs⟩
    | string s => exact ⟨'"', by decide, _, rfl⟩
  | array before inner items after => exact ⟨'[', by decide, _, rfl⟩
  | object before inner fields after => exact ⟨'\x7b', by decide, _, rfl⟩

/-- Blanks in front of a value are passed over. -/
theorem skipBlanks_core (bs : List Blank) (p : Spelling)
    (hc : c.rest = Text.ofChars (blanks bs ++ (p.core ++ rest))) :
    c.skipBlanks.rest = Text.ofChars (p.core ++ rest) := by
  apply skipBlanks_chars bs hc
  obtain ⟨x, hx, cs, hcs⟩ := p.exists_first
  rw [hcs]
  intro y hy
  obtain rfl := Option.some.inj hy
  clear hcs hy
  revert x
  decide

theorem skipBlanks_token (bs : List Blank) {x : Char}
    (hx : Cursor.isBlank (CodePoint.ofChar x) = false)
    (hc : c.rest = Text.ofChars (blanks bs ++ x :: rest)) :
    c.skipBlanks.rest = Text.ofChars (x :: rest) := by
  apply skipBlanks_chars bs hc
  intro y hy
  obtain rfl := Option.some.inj hy
  exact hx

theorem skipBlanks_key (bs : List Blank) (k : Key)
    (hc : c.rest = Text.ofChars (blanks bs ++ (k.chars ++ rest))) :
    c.skipBlanks.rest = Text.ofChars (k.chars ++ rest) := by
  apply skipBlanks_chars bs hc
  intro y hy
  obtain rfl := Option.some.inj hy
  rfl

theorem drop_one {x : Char} (hc : c.rest = Text.ofChars (x :: rest)) :
    (c.drop 1).rest = Text.ofChars rest := by
  rw [Cursor.drop, hc]
  rfl

/-- No value starts with a closing bracket. -/
theorem startsWith_core (p : Spelling) {word : String} {x : Char}
    (hword : Text.ofString word = [CodePoint.ofChar x]) (hx : x = ']' ∨ x = '\x7d')
    (hc : c.rest = Text.ofChars (p.core ++ rest)) : c.startsWith word = false := by
  obtain ⟨y, hy, cs, hcs⟩ := p.exists_first
  rw [hcs] at hc
  apply startsWith_eq_false hword hc
  clear hcs hc
  rcases hx with rfl | rfl <;> revert y <;> decide

section

variable {after : Cursor} {fuel depth : Nat} {v : Value}

theorem readValue_emptyArray (bs : List Blank) (hdepth : depth < nesting)
    (hc : c.rest = Text.ofChars ('[' :: (blanks bs ++ ']' :: rest))) :
    ∃ after : Cursor, readValue nesting (fuel + 1) depth c = .ok (.list [], after) ∧
      after.rest = Text.ofChars rest := by
  have hclose : (c.drop 1).skipBlanks.rest = Text.ofChars (']' :: rest) :=
    skipBlanks_token bs (by decide) (drop_one hc)
  refine ⟨(c.drop 1).skipBlanks.drop 1, ?_, drop_one hclose⟩
  rw [readValue.eq_def, hc, Text.ofChars_cons]
  dsimp only
  rw [if_neg (by decide), if_pos rfl, if_neg (Nat.not_le.2 hdepth), startsWith_eq_true rfl hclose,
    if_pos rfl]

theorem readValue_array (bs : List Blank) (p : Spelling) (hdepth : depth < nesting)
    (hc : c.rest = Text.ofChars ('[' :: (blanks bs ++ (p.core ++ rest)))) :
    ∃ first : Cursor,
      readValue nesting (fuel + 1) depth c = readItems nesting fuel (depth + 1) first [] ∧
      first.rest = Text.ofChars (p.core ++ rest) := by
  have hfirst := skipBlanks_core bs p (drop_one hc)
  refine ⟨(c.drop 1).skipBlanks, ?_, hfirst⟩
  rw [readValue.eq_def, hc, Text.ofChars_cons]
  dsimp only
  rw [if_neg (by decide), if_pos rfl, if_neg (Nat.not_le.2 hdepth),
    startsWith_core p rfl (.inl rfl) hfirst, if_neg Bool.false_ne_true]

theorem readValue_emptyObject (bs : List Blank) (hdepth : depth < nesting)
    (hc : c.rest = Text.ofChars ('\x7b' :: (blanks bs ++ '\x7d' :: rest))) :
    ∃ after : Cursor, readValue nesting (fuel + 1) depth c = .ok (.object .plain [], after) ∧
      after.rest = Text.ofChars rest := by
  have hclose : (c.drop 1).skipBlanks.rest = Text.ofChars ('\x7d' :: rest) :=
    skipBlanks_token bs (by decide) (drop_one hc)
  refine ⟨(c.drop 1).skipBlanks.drop 1, ?_, drop_one hclose⟩
  rw [readValue.eq_def, hc, Text.ofChars_cons]
  dsimp only
  rw [if_neg (by decide), if_neg (by decide), if_pos rfl, if_neg (Nat.not_le.2 hdepth),
    startsWith_eq_true rfl hclose, if_pos rfl]

theorem readValue_object (bs : List Blank) (k : Key) (hdepth : depth < nesting)
    (hc : c.rest = Text.ofChars ('\x7b' :: (blanks bs ++ (k.chars ++ rest)))) :
    ∃ first : Cursor,
      readValue nesting (fuel + 1) depth c = readEntries nesting fuel (depth + 1) first [] ∧
      first.rest = Text.ofChars (k.chars ++ rest) := by
  have hfirst := skipBlanks_key bs k (drop_one hc)
  have hopen : (c.drop 1).skipBlanks.startsWith "\x7d" = false :=
    startsWith_eq_false rfl hfirst (by decide)
  refine ⟨(c.drop 1).skipBlanks, ?_, hfirst⟩
  rw [readValue.eq_def, hc, Text.ofChars_cons]
  dsimp only
  rw [if_neg (by decide), if_neg (by decide), if_pos rfl, if_neg (Nat.not_le.2 hdepth), hopen,
    if_neg Bool.false_ne_true]

/-- After the last item comes the end of the array. -/
theorem readItems_last (bs : List Blank) {acc : List Value}
    (hread : readValue nesting fuel depth c = .ok (v, after))
    (hafter : after.rest = Text.ofChars (blanks bs ++ ']' :: rest)) :
    ∃ last : Cursor,
      readItems nesting (fuel + 1) depth c acc = .ok (.list (acc.reverse ++ [v]), last) ∧
      last.rest = Text.ofChars rest := by
  have hnext := skipBlanks_token bs (by decide) hafter
  refine ⟨after.skipBlanks.drop 1, ?_, drop_one hnext⟩
  rw [readItems, hread]
  dsimp only
  rw [startsWith_eq_true rfl hnext, if_pos rfl, List.reverse_cons]

/-- After any other item comes the next one. -/
theorem readItems_more (bs : List Blank) (p : Spelling) {acc : List Value}
    (hread : readValue nesting fuel depth c = .ok (v, after))
    (hafter : after.rest = Text.ofChars (blanks bs ++ ',' :: (blanks p.before ++ (p.core ++ rest)))) :
    ∃ next : Cursor,
      readItems nesting (fuel + 1) depth c acc = readItems nesting fuel depth next (v :: acc) ∧
      next.rest = Text.ofChars (p.core ++ rest) := by
  have hcomma := skipBlanks_token bs (by decide) hafter
  refine ⟨(after.skipBlanks.drop 1).skipBlanks, ?_, skipBlanks_core p.before p (drop_one hcomma)⟩
  rw [readItems, hread]
  dsimp only
  rw [startsWith_eq_false rfl hcomma (by decide), startsWith_eq_true rfl hcomma,
    if_neg Bool.false_ne_true, if_pos rfl]

/-- A name and its colon are read, then the value. -/
theorem readEntries_name (k : Key) (p : Spelling) (acc : List (Value × Value))
    (hfuel : k.name.chars.length ≤ fuel)
    (hc : c.rest = Text.ofChars (k.chars ++ ':' :: (blanks p.before ++ (p.core ++ rest)))) :
    ∃ start : Cursor, start.rest = Text.ofChars (p.core ++ rest) ∧
      ∀ {v : Value} {after : Cursor}, readValue nesting fuel depth start = .ok (v, after) →
        readEntries nesting (fuel + 1) depth c acc =
          let next := after.skipBlanks
          let entries := (.str k.name.text, v) :: acc
          if next.startsWith "\x7d" then
            .ok (.object .plain (Value.ofEntries entries.reverse), next.drop 1)
          else if next.startsWith "," then
            readEntries nesting fuel depth (next.drop 1).skipBlanks entries
          else next.fail .comma := by
  rw [Key.chars, List.append_assoc] at hc
  obtain ⟨named, hname, hnamed⟩ := readString_chars k.name c.position hfuel hc
  have hcolon := skipBlanks_token _ (by decide) hnamed
  refine ⟨_, skipBlanks_core p.before p (drop_one hcolon), fun hread => ?_⟩
  have hquote : c.startsWith "\"" = true := startsWith_eq_true rfl hc
  rw [readEntries, hquote, hname]
  dsimp only
  rw [startsWith_eq_true rfl hcolon, hread]
  rfl

end

mutual

/-- A value is read as it stands. -/
theorem readValue_core (p : Spelling) {rest : List Char} {c : Cursor} {fuel depth : Nat}
    (hdepth : depth + p.nesting ≤ nesting) (hfuel : 2 * p.core.length ≤ fuel)
    (hrest : EndsAtom rest) (hc : c.rest = Text.ofChars (p.core ++ rest)) :
    ∃ after : Cursor, readValue nesting fuel depth c = .ok (p.value, after) ∧
      after.rest = Text.ofChars rest := by
  obtain ⟨x, -, cs, hcore⟩ := p.exists_first
  have hpos : 0 < p.core.length := by rw [hcore]; exact Nat.succ_pos _
  obtain ⟨fuel, rfl⟩ := Nat.exists_eq_succ_of_ne_zero (n := fuel) (by omega)
  cases p with
  | atom before a after =>
    have hshort : a.chars.length < fuel + 1 := by
      rw [Spelling.core] at hpos hfuel
      omega
    exact readValue_atom a depth hshort hrest hc
  | array before inner items after =>
    rw [Spelling.nesting] at hdepth
    rw [Spelling.core] at hc hfuel
    have hroom : depth < nesting := by omega
    cases items with
    | nil =>
      have hopen : c.rest = Text.ofChars ('[' :: (blanks inner ++ ']' :: rest)) := by
        rw [hc, Spelling.charsEach, separated]
        simp
      exact readValue_emptyArray inner hroom hopen
    | cons q qs =>
      have hopen : c.rest = Text.ofChars ('[' :: (blanks (inner ++ q.before) ++ (q.core ++
          (blanks q.after ++ (following ',' (Spelling.charsEach qs) ++ ']' :: rest))))) := by
        rw [hc, Spelling.charsEach, separated]
        simp [blanks]
      have hshort : 2 * (q.core ++ (blanks q.after ++
          (following ',' (Spelling.charsEach qs) ++ [']']))).length ≤ fuel := by
        simp only [Spelling.charsEach, separated, List.length_append, List.length_cons,
          List.length_nil] at hfuel ⊢
        omega
      obtain ⟨first, hread, hfirst⟩ := readValue_array (inner ++ q.before) q hroom hopen
      have hitems : depth + 1 + Spelling.nestingEach (q :: qs) ≤ nesting := by omega
      rw [hread]
      exact readItems_each q qs hitems hshort hfirst
  | object before inner fields after =>
    rw [Spelling.nesting] at hdepth
    rw [Spelling.core] at hc hfuel
    have hroom : depth < nesting := by omega
    cases fields with
    | nil =>
      have hopen : c.rest = Text.ofChars ('\x7b' :: (blanks inner ++ '\x7d' :: rest)) := by
        rw [hc, Spelling.charsFields, separated]
        simp
      exact readValue_emptyObject inner hroom hopen
    | cons f fs =>
      cases f with
      | mk k q =>
        have hopen : c.rest = Text.ofChars ('\x7b' :: (blanks (inner ++ k.before) ++ (k.chars ++
            ':' :: (blanks q.before ++ (q.core ++ (blanks q.after ++
              (following ',' (Spelling.charsFields fs) ++ '\x7d' :: rest))))))) := by
          rw [hc, Spelling.charsFields, separated]
          simp [blanks]
        have hshort : 2 * (k.chars ++ ':' :: (blanks q.before ++ (q.core ++ (blanks q.after ++
            (following ',' (Spelling.charsFields fs) ++ ['\x7d']))))).length ≤ fuel := by
          simp only [Spelling.charsFields, separated, List.length_append, List.length_cons,
            List.length_nil] at hfuel ⊢
          omega
        obtain ⟨first, hread, hfirst⟩ := readValue_object (inner ++ k.before) k hroom hopen
        have hfields : depth + 1 + Spelling.nestingFields ((k, q) :: fs) ≤ nesting := by omega
        rw [hread]
        exact readEntries_fields k q fs hfields hshort hfirst
termination_by sizeOf p

/-- The items of an array are read to the closing bracket. -/
theorem readItems_each (p : Spelling) (ps : List Spelling) {rest : List Char} {c : Cursor}
    {fuel depth : Nat} {acc : List Value}
    (hdepth : depth + Spelling.nestingEach (p :: ps) ≤ nesting)
    (hfuel : 2 * (p.core ++ (blanks p.after ++
      (following ',' (Spelling.charsEach ps) ++ [']']))).length ≤ fuel)
    (hc : c.rest = Text.ofChars (p.core ++ (blanks p.after ++
      (following ',' (Spelling.charsEach ps) ++ ']' :: rest)))) :
    ∃ after : Cursor, readItems nesting fuel depth c acc =
        .ok (.list (acc.reverse ++ Spelling.valueEach (p :: ps)), after) ∧
      after.rest = Text.ofChars rest := by
  rw [Spelling.nestingEach] at hdepth
  simp only [List.length_append, List.length_singleton] at hfuel
  obtain ⟨fuel, rfl⟩ := Nat.exists_eq_succ_of_ne_zero (n := fuel) (by omega)
  have hend : EndsAtom (blanks p.after ++ (following ',' (Spelling.charsEach ps) ++ ']' :: rest)) :=
    endsAtom_blanks _ (endsAtom_following rfl _)
  have hitem : depth + p.nesting ≤ nesting := by omega
  have hitems : depth + Spelling.nestingEach ps ≤ nesting := by omega
  have hshort : 2 * p.core.length ≤ fuel := by omega
  obtain ⟨after, hread, hafter⟩ := readValue_core p hitem hshort hend hc
  cases ps with
  | nil => exact readItems_last p.after hread hafter
  | cons q ps =>
    have hcomma : after.rest = Text.ofChars (blanks p.after ++ ',' :: (blanks q.before ++ (q.core ++
        (blanks q.after ++ (following ',' (Spelling.charsEach ps) ++ ']' :: rest))))) := by
      rw [hafter, Spelling.charsEach, following_cons]
      simp
    have hlength : 2 * (q.core ++ (blanks q.after ++
        (following ',' (Spelling.charsEach ps) ++ [']']))).length ≤ fuel := by
      simp only [Spelling.charsEach, following_cons, List.length_append, List.length_cons,
        List.length_nil] at hfuel ⊢
      omega
    obtain ⟨next, hmore, hnext⟩ := readItems_more p.after q hread hcomma
    obtain ⟨last, hlast, hrest⟩ := readItems_each q ps hitems hlength hnext
    refine ⟨last, ?_, hrest⟩
    rw [hmore, hlast, List.reverse_cons, List.append_assoc]
    rfl
termination_by sizeOf (p :: ps)

/-- The fields of an object are read to the closing bracket. -/
theorem readEntries_fields (k : Key) (p : Spelling) (fs : List (Key × Spelling)) {rest : List Char}
    {c : Cursor} {fuel depth : Nat} {acc : List (Value × Value)}
    (hdepth : depth + Spelling.nestingFields ((k, p) :: fs) ≤ nesting)
    (hfuel : 2 * (k.chars ++ ':' :: (blanks p.before ++ (p.core ++ (blanks p.after ++
      (following ',' (Spelling.charsFields fs) ++ ['\x7d']))))).length ≤ fuel)
    (hc : c.rest = Text.ofChars (k.chars ++ ':' :: (blanks p.before ++ (p.core ++ (blanks p.after ++
      (following ',' (Spelling.charsFields fs) ++ '\x7d' :: rest)))))) :
    ∃ after : Cursor, readEntries nesting fuel depth c acc = .ok (.object .plain (Value.ofEntries
        (acc.reverse ++ Spelling.valueFields ((k, p) :: fs))), after) ∧
      after.rest = Text.ofChars rest := by
  rw [Spelling.nestingFields] at hdepth
  simp only [Key.chars, List.length_append, List.length_cons, List.length_nil] at hfuel
  obtain ⟨fuel, rfl⟩ := Nat.exists_eq_succ_of_ne_zero (n := fuel) (by omega)
  have hend : EndsAtom (blanks p.after ++
      (following ',' (Spelling.charsFields fs) ++ '\x7d' :: rest)) :=
    endsAtom_blanks _ (endsAtom_following rfl _)
  have hvalue : depth + p.nesting ≤ nesting := by omega
  have hfields : depth + Spelling.nestingFields fs ≤ nesting := by omega
  have hshort : 2 * p.core.length ≤ fuel := by omega
  have hname : k.name.chars.length ≤ fuel := by omega
  obtain ⟨start, hstart, hentries⟩ := readEntries_name k p acc hname hc
  obtain ⟨after, hread, hafter⟩ := readValue_core p hvalue hshort hend hstart
  rw [hentries hread]
  dsimp only
  cases fs with
  | nil =>
    have hnext := skipBlanks_token p.after (by decide) hafter
    refine ⟨after.skipBlanks.drop 1, ?_, drop_one hnext⟩
    rw [startsWith_eq_true rfl hnext, if_pos rfl, List.reverse_cons]
    rfl
  | cons f fs =>
    cases f with
    | mk l q =>
      have hnext : after.rest = Text.ofChars (blanks p.after ++ ',' :: (blanks l.before ++
          (l.chars ++ ':' :: (blanks q.before ++ (q.core ++ (blanks q.after ++
            (following ',' (Spelling.charsFields fs) ++ '\x7d' :: rest))))))) := by
        rw [hafter, Spelling.charsFields, following_cons]
        simp
      have hcomma := skipBlanks_token p.after (by decide) hnext
      have hlength : 2 * (l.chars ++ ':' :: (blanks q.before ++ (q.core ++ (blanks q.after ++
          (following ',' (Spelling.charsFields fs) ++ ['\x7d']))))).length ≤ fuel := by
        simp only [Spelling.charsFields, following_cons, List.length_append, List.length_cons,
          List.length_nil] at hfuel ⊢
        omega
      have hl := skipBlanks_key l.before l (drop_one hcomma)
      rw [startsWith_eq_false rfl hcomma (by decide), startsWith_eq_true rfl hcomma,
        if_neg Bool.false_ne_true, if_pos rfl]
      obtain ⟨last, hlast, hrest⟩ := readEntries_fields l q fs hfields hlength hl
      refine ⟨last, ?_, hrest⟩
      rw [hlast, List.reverse_cons, List.append_assoc]
      rfl
termination_by sizeOf ((k, p) :: fs)

end

/-! ## Texts -/

/-- No portable spelling starts with a byte order mark. -/
theorem Spelling.head?_chars (p : Spelling) :
    ∃ x cs, p.chars = x :: cs ∧ x ≠ '\uFEFF' := by
  obtain ⟨x, hx, cs, hcs⟩ := p.exists_first
  unfold Spelling.chars
  cases p.before with
  | nil =>
    refine ⟨x, cs ++ blanks p.after, by rw [hcs]; rfl, ?_⟩
    clear hcs
    revert x
    decide
  | cons b bs =>
    refine ⟨b.char, blanks bs ++ p.core ++ blanks p.after, by simp [blanks], ?_⟩
    cases b <;> decide

/-- JSON reads a spelling as the value that it spells. -/
theorem readUnmarked_chars (p : Spelling) (h : p.nesting ≤ nesting) :
    readUnmarked nesting (Text.ofChars p.chars) = .ok p.value := by
  have hmark : (Text.ofChars ['\uFEFF']).isPrefixOf (Text.ofChars p.chars) = false := by
    obtain ⟨x, cs, hcs, hx⟩ := p.head?_chars
    have hne : CodePoint.ofChar '\uFEFF' ≠ CodePoint.ofChar x := by simpa using hx.symm
    rw [hcs, Text.ofChars_cons, Text.ofChars_cons, List.isPrefixOf_cons_cons, beq_false_of_ne hne]
    rfl
  let start : Cursor := ⟨Text.ofChars p.chars, 0⟩
  have hstart : start.skipBlanks.rest = Text.ofChars (p.core ++ (blanks p.after ++ [])) := by
    apply skipBlanks_core p.before p
    simp [start, Spelling.chars]
  have hlength : 2 * p.core.length ≤ 2 * (Text.ofChars p.chars).length + 2 := by
    simp only [Text.length_ofChars, Spelling.chars, List.length_append]
    omega
  have hend : EndsAtom [] := nofun
  have hdepth : 0 + p.nesting ≤ nesting := by rw [Nat.zero_add]; exact h
  obtain ⟨after, hread, hafter⟩ := readValue_core p hdepth hlength (endsAtom_blanks _ hend) hstart
  have hnone : ∀ x ∈ (Text.ofChars []).head?, Cursor.isBlank x = false := nofun
  have hlast : after.skipBlanks.rest = [] := skipBlanks_chars p.after hafter hnone
  unfold readUnmarked readText
  rw [hmark, if_neg Bool.false_ne_true, hread]
  change (if after.skipBlanks.rest.isEmpty then Except.ok p.value else _) = _
  rw [hlast]
  rfl

end DataShape.Json
