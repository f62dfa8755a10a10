-- SUMMARY: A pointer gives back the tokens it was built from.
import DataShape.Pointer
import DataShape.Proofs.Text.Characters

/-!
# Reading pointers

Escaping takes the slashes out of a token, so a pointer splits where tokens
were joined and nowhere else. To undo the escaping, `~1` has to go first: what
is left then is the token with its tildes escaped. An empty base does not
swallow an empty first token, so that no pointer stands for two lists of texts.
-/

namespace DataShape

namespace Pointer

/-! ## Escaping -/

theorem replace_cons (c : CodePoint) (sub : Text) (x : CodePoint) (t : Text) :
    replace c sub (x :: t) = (if x = c then sub else [x]) ++ replace c sub t :=
  List.flatMap_cons

theorem replace_append (c : CodePoint) (sub t u : Text) :
    replace c sub (t ++ u) = replace c sub t ++ replace c sub u :=
  List.flatMap_append

/-- What the two replacements make of one code point. -/
def escapeCodePoint (c : CodePoint) : Text :=
  if c = '~' then "~0" else if c = '/' then "~1" else [c]

theorem escape_cons (c : CodePoint) (token : Text) :
    escape (c :: token) = escapeCodePoint c ++ escape token := by
  rw [escape, replace_cons, replace_append, ← escape, escapeCodePoint]
  by_cases htilde : c = '~'
  · -- The second replacement finds no slash in what the first has put there.
    rw [if_pos htilde, if_pos htilde]
    rfl
  · rw [if_neg htilde, if_neg htilde, replace, List.flatMap_singleton]

theorem slash_not_mem_escapeCodePoint (c : CodePoint) :
    CodePoint.ofChar '/' ∉ escapeCodePoint c := by
  rw [escapeCodePoint]
  split
  · decide
  · split
    · decide
    · rename_i hslash
      exact fun h => hslash (List.mem_singleton.1 h).symm

theorem slash_not_mem_escape (token : Text) : CodePoint.ofChar '/' ∉ escape token := by
  induction token with
  | nil => exact List.not_mem_nil
  | cons c token ih =>
    rw [escape_cons, List.mem_append, not_or]
    exact ⟨slash_not_mem_escapeCodePoint c, ih⟩

theorem replaceEscape_tilde (d sub : CodePoint) (t : Text) :
    replaceEscape d sub (CodePoint.ofChar '~' :: d :: t) = sub :: replaceEscape d sub t := by
  rw [replaceEscape, if_pos ⟨rfl, rfl⟩]

theorem replaceEscape_cons {d sub c : CodePoint} {t : Text}
    (h : c = CodePoint.ofChar '~' → t.head? ≠ some d) :
    replaceEscape d sub (c :: t) = c :: replaceEscape d sub t := by
  cases t with
  | nil => rfl
  | cons x t =>
    have hno : ¬ (c = CodePoint.ofChar '~' ∧ x = d) := by
      rintro ⟨hc, rfl⟩
      exact h hc rfl
    rw [replaceEscape, if_neg hno]

theorem replaceEscape_tilde_of_ne {d e sub : CodePoint} (he : e ≠ CodePoint.ofChar '~')
    (hd : e ≠ d) (t : Text) :
    replaceEscape d sub (CodePoint.ofChar '~' :: e :: t) =
      CodePoint.ofChar '~' :: e :: replaceEscape d sub t := by
  have hhead : (e :: t).head? ≠ some d := fun h => hd (Option.some.inj h)
  rw [replaceEscape_cons fun _ => hhead, replaceEscape_cons fun h => absurd h he]

theorem replaceEscape_escape (token : Text) :
    replaceEscape '1' '/' (escape token) = replace '~' "~0" token := by
  induction token with
  | nil => rfl
  | cons c token ih =>
    rw [escape_cons, replace_cons, escapeCodePoint, ← ih]
    by_cases htilde : c = '~'
    · rw [if_pos htilde, if_pos htilde]
      exact replaceEscape_tilde_of_ne (by decide) (by decide) _
    · by_cases hslash : c = '/'
      · rw [if_neg htilde, if_pos hslash, if_neg htilde, hslash]
        exact replaceEscape_tilde _ _ _
      · rw [if_neg htilde, if_neg hslash, if_neg htilde]
        exact replaceEscape_cons fun h => absurd h htilde

theorem replaceEscape_replace (token : Text) :
    replaceEscape '0' '~' (replace '~' "~0" token) = token := by
  induction token with
  | nil => rfl
  | cons c token ih =>
    rw [replace_cons]
    by_cases htilde : c = '~'
    · rw [if_pos htilde, htilde]
      exact (replaceEscape_tilde _ _ _).trans (congrArg _ ih)
    · rw [if_neg htilde]
      exact (replaceEscape_cons fun h => absurd h htilde).trans (congrArg _ ih)

@[simp] theorem unescape_escape (token : Text) : unescape (escape token) = token := by
  rw [unescape, replaceEscape_escape, replaceEscape_replace]

/-! ## Building and reading -/

theorem join_eq (base : Option Pointer) (token : Token) :
    join base token = base.getD root ++ "/" ++ escape token.text := by
  cases base with
  | none => rfl
  | some base => cases base <;> rfl

theorem join_some_eq_child (base : Pointer) (token : Token) :
    join (some base) token = base.child token.text := by
  rw [child, join_eq, join_eq]
  rfl

theorem index_eq_child (base : Pointer) (i : Nat) : base.index i = base.child (Text.ofNat i) :=
  join_some_eq_child base (.index i)

theorem child_eq (base : Pointer) (token : Text) : base.child token = base ++ "/" ++ escape token :=
  join_eq _ _

theorem foldl_child (base : Pointer) (tokens : List Text) :
    tokens.foldl child base = base ++ ofTokens tokens := by
  induction tokens generalizing base with
  | nil => exact (List.append_nil base).symm
  | cons token tokens ih =>
    rw [ofTokens, List.foldl_cons, List.foldl_cons, ih, ih (root.child token)]
    simp [child_eq, root]

theorem ofTokens_cons (token : Text) (tokens : List Text) :
    ofTokens (token :: tokens) = CodePoint.ofChar '/' :: (escape token ++ ofTokens tokens) := by
  rw [ofTokens, List.foldl_cons, foldl_child]
  rfl

theorem child_append_ofTokens (base : Pointer) (token : Text) (tokens : List Text) :
    base.child token ++ ofTokens tokens = base ++ ofTokens (token :: tokens) := by
  rw [← foldl_child, ← foldl_child, List.foldl_cons]

theorem splitAt_escape_append (token : Text) (tokens : List Text) :
    Text.splitAt '/' (escape token ++ ofTokens tokens) = escape token :: tokens.map escape := by
  induction tokens generalizing token with
  | nil =>
    rw [ofTokens, List.foldl_nil, root, List.append_nil, List.map_nil]
    exact Text.splitAt_of_not_mem (slash_not_mem_escape token)
  | cons next tokens ih =>
    rw [ofTokens_cons, Text.splitAt_append (slash_not_mem_escape token), ih, List.map_cons]

/-- A pointer is read as the tokens that it was built from. -/
theorem tokens?_ofTokens (tokens : List Text) : (ofTokens tokens).tokens? = some tokens := by
  cases tokens with
  | nil => rfl
  | cons token tokens =>
    rw [ofTokens_cons, tokens?, if_pos rfl, splitAt_escape_append, List.map_cons, List.map_map]
    simp [Function.comp_def]

/-! ## Joining -/

theorem joinAll_some (base : Pointer) (tokens : List Token) :
    joinAll (some base) tokens = some (base ++ ofTokens (tokens.map Token.text)) := by
  induction tokens generalizing base with
  | nil => exact congrArg some (List.append_nil base).symm
  | cons token tokens ih =>
    rw [joinAll, List.foldl_cons, ← joinAll, join_some_eq_child, ih, List.map_cons,
      child_append_ofTokens]

/-- The first token does not tell an empty base from none. -/
theorem joinAll_of_ne_nil {base : Option Pointer} (hbase : base.getD root = root)
    {tokens : List Token} (hne : tokens ≠ []) : joinAll base tokens = joinAll (some root) tokens := by
  cases base with
  | some base => rw [show base = root from hbase]
  | none =>
    cases tokens with
    | nil => exact absurd rfl hne
    | cons token tokens => rfl

theorem eq_ofTokens_of_joinAll {base : Option Pointer} (hbase : base.getD root = root)
    {tokens : List Token} {p : Pointer} (h : joinAll base tokens = some p) :
    p = ofTokens (tokens.map Token.text) := by
  by_cases hne : tokens = []
  · subst hne
    obtain rfl : base = some p := h
    exact hbase
  · rw [joinAll_of_ne_nil hbase hne, joinAll_some] at h
    exact (Option.some.inj h).symm

/-- A pointer built from tokens, without a base or from the empty one, is read as their texts. So
tokens with other texts do not give it, and further tokens append the pointer that is their own. -/
theorem joinAll_reads_back {base : Option Pointer} (hbase : base.getD root = root)
    {tokens : List Token} (hne : tokens ≠ []) :
    ∃ p, joinAll base tokens = some p ∧ p.tokens? = some (tokens.map Token.text) ∧
      (∀ base' tokens', base'.getD root = root → joinAll base' tokens' = some p →
        tokens'.map Token.text = tokens.map Token.text) ∧
      ∀ base' more own, base'.getD root = root → joinAll base' more = some own →
        joinAll (some p) more = some (p ++ own) := by
  refine ⟨ofTokens (tokens.map Token.text), ?_, tokens?_ofTokens _, ?_, ?_⟩
  · rw [joinAll_of_ne_nil hbase hne, joinAll_some]
    rfl
  · intro base' tokens' hbase' h
    have hread := congrArg tokens? (eq_ofTokens_of_joinAll hbase' h)
    rw [tokens?_ofTokens, tokens?_ofTokens] at hread
    exact (Option.some.inj hread).symm
  · intro base' more own hbase' h
    rw [joinAll_some, eq_ofTokens_of_joinAll hbase' h]

/-- An empty name first, names that look like escapes, and an index. -/
theorem joinAll_reads_back_odd_names :
    let tokens : List Token := [.name [], .name "~1/~0", .index 10]
    let p : Pointer := "//~01~1~00/10"
    tokens ≠ [] ∧ joinAll none tokens = some p ∧ p.tokens? = some [[], "~1/~0", "10"] ∧
      joinAll (some p) [.name "/", .name []] = some (p ++ "/~1/") := by
  intro tokens p
  have hne : tokens ≠ [] := List.cons_ne_nil _ _
  have hp : joinAll none tokens = some p := by decide +kernel
  have hown : joinAll none [.name "/", .name []] = some ("/~1/" : Text) := by decide +kernel
  obtain ⟨q, hq, hread, -, hmore⟩ := @joinAll_reads_back none rfl tokens hne
  obtain rfl := Option.some.inj (hp.symm.trans hq)
  exact ⟨hne, hp, hread, hmore none _ _ rfl hown⟩

end Pointer

end DataShape
