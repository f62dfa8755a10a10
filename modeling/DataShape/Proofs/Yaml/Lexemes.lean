-- SUMMARY: Blanks, strings and plain scalars of portable spellings, as YAML reads them off a cursor.
import DataShape.Proofs.Json.Reading

/-!
# Lexemes of portable spellings

Each reader ends where the spelling does. How far that is shows in characters,
so that lines and indices are known from the characters passed over.
-/

namespace DataShape.Yaml

open Json (Blank blanks StringPart StringSpelling)

/-! ## Moving a cursor -/

namespace Cursor

variable {c : Cursor} {x : Char} {rest cs : List Char}

theorem rest_next (h : c.rest = x :: rest) : c.next.rest = rest := by
  unfold next
  rw [h]
  dsimp only
  split
  · rfl
  · split <;> rfl

theorem index_next (h : c.rest = x :: rest) : c.next.index = c.index + 1 := by
  unfold next
  rw [h]
  dsimp only
  split
  · rfl
  · split <;> rfl

theorem line_next (h : c.rest = x :: rest) (hx : isBreak x = false) : c.next.line = c.line := by
  unfold next
  rw [h]
  dsimp only
  rw [hx, Bool.false_and, if_neg Bool.false_ne_true]
  split <;> rfl

theorem skip_add (m n : Nat) : c.skip (m + n) = (c.skip m).skip n := by
  induction m generalizing c with
  | zero => rw [Nat.zero_add, skip]
  | succ m ih => rw [Nat.succ_add, skip, skip, ih]

theorem rest_skip (h : c.rest = cs ++ rest) : (c.skip cs.length).rest = rest := by
  induction cs generalizing c with
  | nil => exact h
  | cons x cs ih => exact ih (rest_next h)

theorem index_skip (h : c.rest = cs ++ rest) : (c.skip cs.length).index = c.index + cs.length := by
  induction cs generalizing c with
  | nil => rfl
  | cons x cs ih =>
    rw [List.length_cons, skip, ih (rest_next h), index_next h]
    omega

theorem line_skip (h : c.rest = cs ++ rest) (hcs : ∀ x ∈ cs, isBreak x = false) :
    (c.skip cs.length).line = c.line := by
  induction cs generalizing c with
  | nil => rfl
  | cons x cs ih =>
    obtain ⟨hx, hcs⟩ := List.forall_mem_cons.1 hcs
    rw [List.length_cons, skip, ih (rest_next h) hcs, line_next h hx]

theorem peek_of_rest (h : c.rest = x :: rest) : c.peek = x := by
  unfold peek
  rw [h]
  rfl

end Cursor

/-! ## Blanks -/

@[simp] theorem blanks_append (bs bs' : List Blank) : blanks (bs ++ bs') = blanks bs ++ blanks bs' :=
  List.map_append

@[simp] theorem length_blanks (bs : List Blank) : (blanks bs).length = bs.length := List.length_map _

/-- Whether a text goes on with something other than a blank, a comment or a byte order mark. -/
def StartsToken (cs : List Char) : Prop :=
  ∀ x ∈ cs.head?, x ≠ ' ' ∧ x ≠ '#' ∧ x ≠ '\uFEFF' ∧ isBreak x = false

section

variable {c : Cursor} {rest : List Char}

theorem StartsToken.peek (h : StartsToken rest) (hc : c.rest = rest) :
    c.peek ≠ ' ' ∧ c.peek ≠ '#' ∧ c.peek ≠ '\uFEFF' ∧ isBreak c.peek = false := by
  subst hc
  unfold Cursor.peek
  cases hrest : c.rest with
  | nil => decide
  | cons x xs => exact h x (by rw [hrest]; rfl)

theorem span_of_pos {p : Char → Bool} {x : Char} (hc : c.rest = x :: rest) (hx : p x = true) :
    c.span p = (x :: (c.next.span p).1, (c.next.span p).2) := by
  have htake : c.rest.takeWhile p = x :: c.next.rest.takeWhile p := by
    rw [Cursor.rest_next hc, hc, List.takeWhile_cons_of_pos hx]
  unfold Cursor.span
  dsimp only
  rw [htake]
  rfl

theorem span_of_neg {p : Char → Bool} (h : p c.peek = false) :
    c.span p = ([], c) := by
  have htake : c.rest.takeWhile p = [] := by
    apply takeWhile_eq_nil
    intro x hx
    unfold Cursor.peek at h
    rwa [List.headD_eq_head?_getD, hx, Option.getD_some] at h
  unfold Cursor.span
  dsimp only
  rw [htake]
  rfl

theorem span_space (hc : c.rest = ' ' :: rest) : c.span (· = ' ') =
    (' ' :: (c.next.span (· = ' ')).1, (c.next.span (· = ' ')).2) :=
  span_of_pos hc rfl

theorem span_of_ne (h : c.peek ≠ ' ') : c.span (· = ' ') = ([], c) :=
  span_of_neg (decide_eq_false h)

theorem skipSpaces_of_ne (h : c.peek ≠ ' ') : c.skipSpaces = c := by
  unfold Cursor.skipSpaces Cursor.skipWhile
  rw [span_of_ne h]

theorem skipSpaces_space (hc : c.rest = ' ' :: rest) : c.skipSpaces = c.next.skipSpaces := by
  unfold Cursor.skipSpaces Cursor.skipWhile
  rw [span_space hc]

theorem skipComment_of_ne (h : c.peek ≠ '#') : c.skipComment = c := if_neg h

theorem lineBreak?_eq_none (h : isBreak c.peek = false) : c.lineBreak? = none := by
  unfold Cursor.lineBreak?
  unfold isBreak at h
  dsimp only
  generalize c.peek = x at h ⊢
  simp only [Bool.or_eq_false_iff, decide_eq_false_iff_not] at h
  obtain ⟨⟨⟨⟨hlineFeed, hreturn⟩, hnext⟩, hline⟩, hparagraph⟩ := h
  simp only [hlineFeed, hreturn, hnext, hline, hparagraph, decide_false, Bool.false_and, Bool.or_self,
    Bool.false_eq_true, if_false]

/-- Blanks that do not start with a space start with a line break of so many characters. -/
structure StartsLine (c : Cursor) (bs : List Blank) (rest : List Char) (width : Nat)
    (after : List Blank) : Prop where
  noSpace : c.peek ≠ ' '
  noComment : c.peek ≠ '#'
  lineBreak : c.lineBreak? = some ('\n', c.skip width)
  rest : (c.skip width).rest = blanks after ++ rest
  length : bs.length = width + after.length
  pos : 0 < width

theorem startsLine_blanks {b : Blank} {bs : List Blank} (hb : b ≠ .space) (hrest : StartsToken rest)
    (hc : c.rest = blanks (b :: bs) ++ rest) :
    ∃ width after, StartsLine c (b :: bs) rest width after := by
  have hpeek : c.peek = b.char := Cursor.peek_of_rest hc
  have hone : (c.skip 1).rest = blanks bs ++ rest := Cursor.rest_next hc
  cases b with
  | space => exact absurd rfl hb
  | lineFeed =>
    refine ⟨1, bs, ?_, ?_, ?_, hone, Nat.add_comm _ _, Nat.one_pos⟩
    · rw [hpeek]
      decide
    · rw [hpeek]
      decide
    · unfold Cursor.lineBreak?
      rw [hpeek]
      rfl
  | carriageReturn =>
    have hspace : c.peek ≠ ' ' := by rw [hpeek]; decide
    have hcomment : c.peek ≠ '#' := by rw [hpeek]; decide
    by_cases hahead : c.peekAt 1 = '\n'
    · have hhead : c.peekAt 1 = (blanks bs ++ rest).headD '\x00' := by
        unfold Cursor.peekAt
        rw [hc]
        rfl
      rw [hhead] at hahead
      cases bs with
      | nil =>
        cases rest with
        | nil => exact absurd hahead (by decide)
        | cons x rest =>
          obtain rfl : x = '\n' := hahead
          exact absurd (hrest '\n' rfl).2.2.2 (by decide)
      | cons b bs =>
        have hb : b.char = '\n' := hahead
        obtain rfl : b = .lineFeed := by
          cases b <;> first | rfl | exact absurd hb (by decide)
        refine ⟨2, bs, hspace, hcomment, ?_, Cursor.rest_next hone, ?_, Nat.two_pos⟩
        · unfold Cursor.lineBreak?
          rw [hpeek, hhead, hahead]
          rfl
        · rw [List.length_cons, List.length_cons]
          omega
    · refine ⟨1, bs, hspace, hcomment, ?_, hone, Nat.add_comm _ _, Nat.one_pos⟩
      unfold Cursor.lineBreak?
      rw [hpeek, decide_eq_false hahead]
      rfl

/-- Blanks before a token are passed over. -/
theorem skipToToken_blanks (bs : List Blank) (hrest : StartsToken rest) {s : Scanner} {fuel : Nat}
    (hc : s.cursor.rest = blanks bs ++ rest) (hfuel : bs.length < fuel) :
    ∃ allowed, (s.allowsKey = true → allowed = true) ∧
      s.skipToToken fuel = { s with cursor := s.cursor.skip bs.length, allowsKey := allowed } := by
  induction hlength : bs.length using Nat.strongRecOn generalizing bs s fuel with | ind n ih
  subst hlength
  obtain ⟨fuel, rfl⟩ := Nat.exists_eq_succ_of_ne_zero (Nat.ne_zero_of_lt hfuel)
  cases bs with
  | nil =>
    obtain ⟨hspace, hcomment, -, hbreak⟩ := hrest.peek hc
    refine ⟨s.allowsKey, id, ?_⟩
    rw [Scanner.skipToToken, skipSpaces_of_ne hspace, skipComment_of_ne hcomment,
      lineBreak?_eq_none hbreak]
    rfl
  | cons b bs =>
    by_cases hb : b = .space
    · subst hb
      have hnext : s.cursor.rest = ' ' :: (blanks bs ++ rest) := hc
      obtain ⟨allowed, hallowed, hskip⟩ := ih bs.length (Nat.lt_succ_self _) bs
        (s := s.move s.cursor.next) (Cursor.rest_next hnext) (Nat.lt_of_succ_lt hfuel) rfl
      refine ⟨allowed, hallowed, Eq.trans ?_ hskip⟩
      rw [Scanner.skipToToken, Scanner.skipToToken, skipSpaces_space hnext]
      rfl
    · obtain ⟨width, after, hline⟩ := startsLine_blanks hb hrest hc
      have hlength := hline.length
      have hpos := hline.pos
      have hless : after.length < fuel := by omega
      obtain ⟨allowed, hallowed, hskip⟩ := ih after.length (by omega) after
        (s := { s with
          cursor := s.cursor.skip width, allowsKey := s.allowsKey || s.flowLevel = 0 })
        hline.rest hless rfl
      refine ⟨allowed, fun h => hallowed (by rw [h, Bool.true_or]), ?_⟩
      rw [Scanner.skipToToken, skipSpaces_of_ne hline.noSpace, skipComment_of_ne hline.noComment,
        hline.lineBreak]
      refine hskip.trans ?_
      rw [hlength, Cursor.skip_add]

/-! ## Plain scalars -/

/-- What may stand after a value and its blanks, unless the text ends. -/
def closers : List Char := [',', ']', '\x7d']

/-- Whether nothing but the end, a comma or a closing bracket stands here. -/
def EndsValue (cs : List Char) : Prop := ∀ x ∈ cs.head?, x ∈ closers

theorem EndsValue.startsToken (h : EndsValue rest) : StartsToken rest := by
  have hcloser : ∀ x ∈ closers, x ≠ ' ' ∧ x ≠ '#' ∧ x ≠ '\uFEFF' ∧ isBreak x = false := by decide
  exact fun x hx => hcloser x (h x hx)

/-- What is at the cursor where only blanks stand before the end of a value. -/
theorem peek_blanks {P : Char → Prop} (bs : List Blank) (hrest : EndsValue rest)
    (hc : c.rest = blanks bs ++ rest) (hend : P '\x00') (hblank : ∀ b : Blank, P b.char)
    (hcloser : ∀ x ∈ closers, P x) : P c.peek := by
  cases bs with
  | nil =>
    unfold Cursor.peek
    rw [hc]
    cases hrest' : rest with
    | nil => exact hend
    | cons x xs => exact hcloser x (hrest x (by rw [hrest']; rfl))
  | cons b bs =>
    rw [Cursor.peek_of_rest hc]
    exact hblank b

/-- No document mark stands among blanks or after them. -/
theorem not_atDocumentMark (bs : List Blank) (hrest : EndsValue rest)
    (hc : c.rest = blanks bs ++ rest) : c.atDocumentMark = false := by
  have hblank : ∀ b : Blank, b.char ≠ '-' ∧ b.char ≠ '.' := by
    intro b
    cases b <;> decide
  have hmark : c.peek ≠ '-' ∧ c.peek ≠ '.' :=
    peek_blanks (P := fun x => x ≠ '-' ∧ x ≠ '.') bs hrest hc (by decide) hblank (by decide)
  unfold Cursor.atDocumentMark Cursor.atMarker
  rw [decide_eq_false hmark.1, decide_eq_false hmark.2]
  rfl

theorem plainBreaks_blanks (bs : List Blank) (acc : Text) (hrest : EndsValue rest) {fuel : Nat}
    (hc : c.rest = blanks bs ++ rest) (hfuel : bs.length < fuel) :
    ∃ others, plainBreaks fuel c acc = (some others, c.skip bs.length) := by
  induction hlength : bs.length using Nat.strongRecOn generalizing bs c acc fuel with | ind n ih
  subst hlength
  obtain ⟨fuel, rfl⟩ := Nat.exists_eq_succ_of_ne_zero (Nat.ne_zero_of_lt hfuel)
  cases bs with
  | nil =>
    obtain ⟨hspace, -, -, hbreak⟩ := hrest.startsToken.peek hc
    refine ⟨acc, ?_⟩
    rw [plainBreaks, skipSpaces_of_ne hspace, lineBreak?_eq_none hbreak]
    rfl
  | cons b bs =>
    by_cases hb : b = .space
    · subst hb
      have hnext : c.rest = ' ' :: (blanks bs ++ rest) := hc
      obtain ⟨others, hbreaks⟩ := ih bs.length (Nat.lt_succ_self _) bs acc
        (Cursor.rest_next hnext) (Nat.lt_of_succ_lt hfuel) rfl
      refine ⟨others, Eq.trans ?_ hbreaks⟩
      rw [plainBreaks, plainBreaks, skipSpaces_space hnext]
    · obtain ⟨width, after, hline⟩ := startsLine_blanks hb hrest.startsToken hc
      have hlength := hline.length
      have hpos := hline.pos
      have hless : after.length < fuel := by omega
      obtain ⟨others, hbreaks⟩ := ih after.length (by omega) after
        (acc ++ [CodePoint.ofChar '\n']) hline.rest hless rfl
      refine ⟨others, ?_⟩
      rw [plainBreaks, skipSpaces_of_ne hline.noSpace, hline.lineBreak]
      dsimp only
      rw [not_atDocumentMark after hrest hline.rest, if_neg Bool.false_ne_true, hbreaks, hlength,
        Cursor.skip_add]

theorem plainSpaces_blanks (bs : List Blank) (hrest : EndsValue rest)
    (hc : c.rest = blanks bs ++ rest) :
    ∃ spaces broken, plainSpaces c = (spaces, broken, c.skip bs.length) := by
  induction bs generalizing c with
  | nil =>
    obtain ⟨hspace, -, -, hbreak⟩ := hrest.startsToken.peek hc
    refine ⟨[], false, ?_⟩
    unfold plainSpaces
    rw [span_of_ne hspace]
    dsimp only
    rw [lineBreak?_eq_none hbreak]
    rfl
  | cons b bs ih =>
    by_cases hb : b = .space
    · subst hb
      have hnext : c.rest = ' ' :: (blanks bs ++ rest) := hc
      obtain ⟨spaces, broken, hspaces⟩ := ih (Cursor.rest_next hnext)
      unfold plainSpaces at hspaces ⊢
      rw [span_space hnext]
      dsimp only at hspaces ⊢
      generalize (c.next.span (· = ' ')).2.lineBreak? = found at hspaces ⊢
      cases found with
      | none =>
        have hafter := congrArg (fun result => result.2.2) hspaces
        dsimp only at hafter
        rw [hafter]
        exact ⟨_, _, rfl⟩
      | some line => exact ⟨spaces, broken, hspaces⟩
    · obtain ⟨width, after, hline⟩ := startsLine_blanks hb hrest.startsToken hc
      have hfuel : after.length < (c.skip width).rest.length + 1 := by
        rw [hline.rest, List.length_append, length_blanks]
        omega
      obtain ⟨others, hbreaks⟩ := plainBreaks_blanks after [] hrest hline.rest hfuel
      refine ⟨foldBreak '\n' others, true, ?_⟩
      unfold plainSpaces
      rw [span_of_ne hline.noSpace]
      dsimp only
      rw [hline.lineBreak]
      dsimp only
      rw [not_atDocumentMark after hrest hline.rest, if_neg Bool.false_ne_true, hbreaks, hline.length,
        Cursor.skip_add]

/-- Whether a plain scalar goes on with a character, whatever comes next. -/
def goesOnPlain (x : Char) : Bool :=
  !(isWhite x || [':', ',', '?', '[', ']', '\x7b', '\x7d', '#'].contains x)

theorem endsPlain_eq_false {x : Char} (h : goesOnPlain x = true) (inFlow : Bool) (y : Char) :
    endsPlain inFlow x y = false := by
  unfold goesOnPlain at h
  unfold endsPlain
  simp only [Bool.not_eq_true', Bool.or_eq_false_iff, List.contains_cons, beq_eq_false_iff_ne] at h ⊢
  simp_all

/-- A plain scalar ends before a blank, the end of the text, and in a collection before a comma or a
closing bracket. -/
theorem plainLength_blanks {inFlow : Bool} (bs : List Blank) (hrest : EndsValue rest)
    (hflow : rest ≠ [] → inFlow = true) : plainLength inFlow (blanks bs ++ rest) = 0 := by
  cases bs with
  | nil =>
    cases rest with
    | nil => rfl
    | cons x rest =>
      have hcloser : ∀ x ∈ closers, ∀ y, endsPlain true x y = true := by
        intro x hx y
        refine Bool.or_eq_true_iff.2 (.inr ?_)
        revert x
        decide
      rw [hflow nofun]
      exact if_pos (hcloser x (hrest x rfl) _)
  | cons b bs =>
    have hblank : isWhite b.char = true := by cases b <;> rfl
    refine if_pos ?_
    unfold endsPlain
    rw [hblank]
    rfl

theorem plainLength_chars {inFlow : Bool} {cs : List Char} (hcs : ∀ x ∈ cs, goesOnPlain x = true)
    (hrest : plainLength inFlow rest = 0) : plainLength inFlow (cs ++ rest) = cs.length := by
  induction cs with
  | nil => exact hrest
  | cons x cs ih =>
    obtain ⟨hx, hcs⟩ := List.forall_mem_cons.1 hcs
    rw [List.cons_append, plainLength, endsPlain_eq_false hx, if_neg Bool.false_ne_true, ih hcs,
      List.length_cons]

/-- A plain scalar without blanks inside is read with the blanks after it. -/
theorem readPlain_chars {x : Char} {cs : List Char} (bs : List Blank) {inFlow : Bool}
    (hcs : ∀ y ∈ x :: cs, goesOnPlain y = true) (hrest : EndsValue rest)
    (hflow : rest ≠ [] → inFlow = true) (hc : c.rest = x :: cs ++ (blanks bs ++ rest)) :
    ∃ broken, readPlain inFlow 0 (c.rest.length + 1) c [] [] false =
      (text (x :: cs), broken, c.skip ((x :: cs).length + bs.length)) := by
  have hlength : plainLength inFlow c.rest = (x :: cs).length := by
    rw [hc]
    exact plainLength_chars hcs (plainLength_blanks bs hrest hflow)
  have htake : c.rest.take (x :: cs).length = x :: cs := by rw [hc, List.take_left]
  have hafter := Cursor.rest_skip hc
  obtain ⟨spaces, broken, hspaces⟩ := plainSpaces_blanks bs hrest hafter
  have hpeek : c.peek ≠ '#' := by
    rw [Cursor.peek_of_rest hc]
    rintro rfl
    exact absurd (hcs '#' List.mem_cons_self) (by decide)
  have hone : ¬ (decide (c.peek = '#') || decide ((x :: cs).length = 0)) = true := by
    rw [decide_eq_false hpeek]
    nofun
  have hfuel : c.rest.length = (cs ++ (blanks bs ++ rest)).length + 1 := by rw [hc]; rfl
  rw [readPlain, hlength]
  dsimp only
  rw [if_neg hone, htake, hspaces, Cursor.skip_add]
  dsimp only
  split
  · exact ⟨broken, rfl⟩
  · refine ⟨broken, ?_⟩
    have hend : plainLength inFlow ((c.skip (x :: cs).length).skip bs.length).rest = 0 := by
      have hend := Cursor.rest_skip hafter
      rw [length_blanks] at hend
      rw [hend]
      exact plainLength_blanks [] hrest hflow
    rw [hfuel, readPlain, hend]
    dsimp only
    rw [decide_eq_true rfl, Bool.or_true, if_pos rfl]
    rfl

/-! ## Strings -/

theorem not_isWhite_of_standsForItself {x : Char} (h : Json.standsForItself x = true) :
    isBreakOrEnd x = false ∧ x ≠ '\t' := by
  simp only [Json.standsForItself, Bool.and_eq_true, decide_eq_true_eq, Bool.not_eq_true'] at h
  obtain ⟨⟨⟨⟨-, -⟩, hallowed⟩, hbreak⟩, htab⟩ := h
  refine ⟨Bool.or_eq_false_iff.2 ⟨hbreak, decide_eq_false ?_⟩, htab⟩
  rintro rfl
  exact absurd hallowed (by decide)

/-- A character other than a space that stands for itself is taken as it is. -/
theorem readQuoted_char {x : Char} (hx : Json.standsForItself x = true) (hspace : x ≠ ' ')
    (hc : c.rest = x :: rest) (fuel : Nat) (acc : Text) :
    readQuoted true (fuel + 1) c acc = readQuoted true fuel c.next (CodePoint.ofChar x :: acc) := by
  obtain ⟨hquote, hbackslash, -⟩ := Json.of_standsForItself hx
  obtain ⟨hwhite, htab⟩ := not_isWhite_of_standsForItself hx
  obtain ⟨hbreak, hend⟩ := Bool.or_eq_false_iff.1 hwhite
  rw [readQuoted, Cursor.peek_of_rest hc]
  dsimp only
  rw [hend, hbreak, isSpaceOrTab, decide_eq_false hquote, decide_eq_false hbackslash,
    decide_eq_false hspace, decide_eq_false htab]
  rfl

/-- Blanks that are followed by neither a line break nor the end are taken as they are. -/
theorem readQuoted_blanks (hblank : isSpaceOrTab c.peek = true)
    (hline : isBreakOrEnd (c.span isSpaceOrTab).2.peek = false) (fuel : Nat) (acc : Text) :
    readQuoted true (fuel + 1) c acc = readQuoted true fuel (c.span isSpaceOrTab).2
      ((text (c.span isSpaceOrTab).1).reverse ++ acc) := by
  obtain ⟨hbreak, hend⟩ := Bool.or_eq_false_iff.1 hline
  have hpeek : c.peek = ' ' ∨ c.peek = '\t' := by
    simpa [isSpaceOrTab] using hblank
  rw [readQuoted]
  dsimp only
  rw [hend, lineBreak?_eq_none hbreak]
  rcases hpeek with hpeek | hpeek <;> rw [hpeek] <;> rfl

/-- Blanks are taken all at once, with the same result as one after another. -/
theorem readQuoted_space (hc : c.rest = ' ' :: rest)
    (hline : isBreakOrEnd (c.next.span isSpaceOrTab).2.peek = false) (fuel : Nat) (acc : Text) :
    ∃ fuel', fuel ≤ fuel' ∧
      readQuoted true (fuel + 1) c acc =
        readQuoted true fuel' c.next (CodePoint.ofChar ' ' :: acc) := by
  have hspan := span_of_pos (p := isSpaceOrTab) hc rfl
  have hone : readQuoted true (fuel + 1) c acc =
      readQuoted true fuel (c.next.span isSpaceOrTab).2
        ((text (' ' :: (c.next.span isSpaceOrTab).1)).reverse ++ acc) := by
    have hblank : isSpaceOrTab c.peek = true := by rw [Cursor.peek_of_rest hc]; rfl
    rw [readQuoted_blanks hblank (by rwa [hspan]), hspan]
  rw [hone]
  cases hnext : isSpaceOrTab c.next.peek with
  | false =>
    refine ⟨fuel, Nat.le_refl _, ?_⟩
    rw [span_of_neg hnext]
    rfl
  | true =>
    refine ⟨fuel + 1, Nat.le_succ _, ?_⟩
    rw [readQuoted_blanks hnext hline]
    simp [text]

theorem readQuoted_escape (e : Json.Escape) (hc : c.rest = '\\' :: e.letter :: rest) (fuel : Nat)
    (acc : Text) : readQuoted true (fuel + 1) c acc =
      readQuoted true fuel (c.skip 2) (CodePoint.ofChar e.char :: acc) := by
  have hletter : c.next.peek = e.letter := Cursor.peek_of_rest (Cursor.rest_next hc)
  have hsimple : simpleEscape? e.letter = some e.char := by cases e <;> rfl
  have hescape : readQuotedEscape (fuel + 1) c =
      .ok ([CodePoint.ofChar e.char], c.next.next) := by
    unfold readQuotedEscape
    dsimp only
    rw [hletter, hsimple]
  rw [readQuoted, Cursor.peek_of_rest hc]
  dsimp only
  rw [hescape]
  rfl

theorem readQuoted_unicode (d : Json.HexDigits) (hc : c.rest = '\\' :: 'u' :: (d.chars ++ rest))
    (fuel : Nat) (acc : Text) : readQuoted true (fuel + 1) c acc =
      readQuoted true fuel (c.skip 6) (d.codePoint :: acc) := by
  have hnext := Cursor.rest_next hc
  have hdigits : c.next.rest.tail.take 4 = d.chars := by
    rw [hnext, List.tail_cons, ← d.length, List.take_left]
  obtain ⟨n, hn, hpoint⟩ := Option.bind_eq_some_iff.1 d.hexDigits?
  have hescape : readQuotedEscape (fuel + 1) c = .ok ([d.codePoint], c.next.skip 5) := by
    have hsimple : simpleEscape? 'u' = none := rfl
    have hwidth : escapeDigits? 'u' = some 4 := rfl
    unfold readQuotedEscape
    dsimp only
    rw [Cursor.peek_of_rest hnext, hsimple, hwidth]
    dsimp only
    rw [hdigits, d.length, d.digits]
    simp only [text, hn, Option.getD_some, hpoint]
    rfl
  rw [readQuoted, Cursor.peek_of_rest hc]
  dsimp only
  rw [hescape]
  rfl

/-- A string goes on in its line. -/
theorem forall_mem_part (part : StringPart) : ∀ x ∈ part.chars, isBreakOrEnd x = false := by
  have hdigit : ∀ x, isHexDigit x = true → isBreakOrEnd x = false := by
    intro x hx
    rcases hwhite : isBreakOrEnd x with - | -
    · rfl
    · simp only [isBreakOrEnd, isBreak, atEnd, Bool.or_eq_true, decide_eq_true_eq] at hwhite
      rcases hwhite with ((((rfl | rfl) | rfl) | rfl) | rfl) | rfl <;> cases hx
  cases part with
  | char x hx => simpa [StringPart.chars] using (not_isWhite_of_standsForItself hx).1
  | escape e => cases e <;> decide
  | unicode d =>
    simp only [StringPart.chars, List.forall_mem_cons]
    exact ⟨rfl, rfl, fun x hx => hdigit x (List.all_eq_true.1 d.digits x hx)⟩

theorem forall_mem_parts (parts : List StringPart) :
    ∀ x ∈ parts.flatMap StringPart.chars, isBreakOrEnd x = false := by
  intro x hx
  obtain ⟨part, -, hx⟩ := List.mem_flatMap.1 hx
  exact forall_mem_part part x hx

theorem forall_mem_string (s : StringSpelling) : ∀ x ∈ s.chars, isBreakOrEnd x = false := by
  unfold StringSpelling.chars
  refine List.forall_mem_append.2 ⟨List.forall_mem_cons.2 ⟨rfl, forall_mem_parts s.parts⟩, ?_⟩
  exact List.forall_mem_singleton.2 rfl

/-- What comes after the blanks here is one of the characters that go on in the line. -/
theorem peek_span {x : Char} {cs : List Char} (hcs : ∀ y ∈ cs, isBreakOrEnd y = false)
    (hx : isWhite x = false) (hc : c.rest = cs ++ x :: rest) :
    isBreakOrEnd (c.span isSpaceOrTab).2.peek = false := by
  obtain ⟨hblank, hend⟩ := Bool.or_eq_false_iff.1 hx
  induction cs generalizing c with
  | nil =>
    have hpeek : c.peek = x := Cursor.peek_of_rest hc
    rw [span_of_neg (by rwa [hpeek]), hpeek]
    exact hend
  | cons y cs ih =>
    obtain ⟨hy, hcs⟩ := List.forall_mem_cons.1 hcs
    cases hnext : isSpaceOrTab y with
    | true =>
      rw [span_of_pos hc hnext]
      exact ih hcs (Cursor.rest_next hc)
    | false =>
      have hpeek : c.peek = y := Cursor.peek_of_rest hc
      rw [span_of_neg (by rwa [hpeek]), hpeek]
      exact hy

/-- What goes on where a part ends. -/
theorem readQuoted_part (part : StringPart) (parts : List StringPart) (fuel : Nat) (acc : Text)
    (hc : c.rest = (part :: parts).flatMap StringPart.chars ++ '"' :: rest) :
    ∃ fuel', fuel ≤ fuel' ∧ readQuoted true (fuel + 1) c acc =
      readQuoted true fuel' (c.skip part.chars.length) (part.codePoint :: acc) := by
  rw [List.flatMap_cons, List.append_assoc] at hc
  cases part with
  | char x hx =>
    by_cases hspace : x = ' '
    · subst hspace
      exact readQuoted_space hc (peek_span (forall_mem_parts parts) rfl (Cursor.rest_next hc)) fuel acc
    · exact ⟨fuel, Nat.le_refl _, readQuoted_char hx hspace hc fuel acc⟩
  | escape e => exact ⟨fuel, Nat.le_refl _, readQuoted_escape e hc fuel acc⟩
  | unicode d =>
    refine ⟨fuel, Nat.le_refl _, ?_⟩
    rw [StringPart.chars, List.length_cons, List.length_cons, d.length]
    exact readQuoted_unicode d hc fuel acc

/-- The parts of a string are read up to the closing quote. -/
theorem readQuoted_parts (parts : List StringPart) {fuel : Nat} (hfuel : parts.length < fuel)
    (acc : Text) (hc : c.rest = parts.flatMap StringPart.chars ++ '"' :: rest) :
    readQuoted true fuel c acc = .ok (acc.reverse ++ parts.map StringPart.codePoint,
      c.skip ((parts.flatMap StringPart.chars).length + 1)) := by
  induction parts generalizing c fuel acc with
  | nil =>
    obtain ⟨fuel, rfl⟩ := Nat.exists_eq_succ_of_ne_zero (Nat.ne_of_gt hfuel)
    rw [readQuoted, Cursor.peek_of_rest hc, List.map_nil, List.append_nil]
    rfl
  | cons part parts ih =>
    obtain ⟨fuel, rfl⟩ := Nat.exists_eq_succ_of_ne_zero (Nat.ne_of_gt (Nat.zero_lt_of_lt hfuel))
    obtain ⟨fuel', hle, hpart⟩ := readQuoted_part part parts fuel acc hc
    rw [List.flatMap_cons, List.append_assoc] at hc
    have hshort : parts.length < fuel' := Nat.lt_of_lt_of_le (Nat.lt_of_succ_lt_succ hfuel) hle
    rw [hpart, ih hshort _ (Cursor.rest_skip hc), List.reverse_cons, List.append_assoc,
      ← Cursor.skip_add, List.flatMap_cons, List.length_append, Nat.add_assoc]
    rfl

/-- A string is read as a quoted scalar with the text it has as JSON. -/
theorem quotedScalar_chars (s : StringSpelling) (hc : c.rest = s.chars ++ rest) :
    quotedScalar true c = .ok (.scalar s.text false, c.skip s.chars.length) := by
  have hopen : c.rest = '"' :: (s.parts.flatMap StringPart.chars ++ '"' :: rest) := by
    rw [hc, StringSpelling.chars]
    simp
  have hparts := Json.length_parts_le s.parts
  have hfuel : s.parts.length < c.rest.length + 1 := by
    simp only [hopen, List.length_cons, List.length_append]
    omega
  have hlength : s.chars.length = 1 + ((s.parts.flatMap StringPart.chars).length + 1) := by
    simp [StringSpelling.chars]
    omega
  unfold quotedScalar
  rw [readQuoted_parts s.parts hfuel [] (Cursor.rest_next hopen), hlength,
    Cursor.skip_add (c := c) 1]
  rfl

end

end DataShape.Yaml
