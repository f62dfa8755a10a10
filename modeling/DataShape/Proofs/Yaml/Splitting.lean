-- SUMMARY: Portable spellings are split into the tokens of their trees.
import DataShape.Proofs.Yaml.Lexemes
import DataShape.Proofs.Yaml.Numbers

/-!
# Splitting portable spellings

A spelling holds no block collection, so no key in it is required, and what may
turn out to be a key is given up without harm where it is none. Each fetch takes
one token off the characters, and a colon makes the name before it a key.
-/

namespace DataShape

namespace Json

/-! ## Trees of spellings -/

/-- An atom as YAML reads it. -/
def Atom.scalar : Atom → Yaml.ReadScalar
  | .null => ⟨Text.ofChars ['n', 'u', 'l', 'l'], true, .null, rfl, rfl⟩
  | .boolean true => ⟨Text.ofChars ['t', 'r', 'u', 'e'], true, .bool true, rfl, rfl⟩
  | .boolean false => ⟨Text.ofChars ['f', 'a', 'l', 's', 'e'], true, .bool false, rfl, rfl⟩
  | .number n =>
    ⟨Text.ofChars n.chars, true, n.value, Yaml.read_number n, Yaml.isNaN_number n⟩
  | .string s => .quoted s.text

theorem Atom.value_scalar (a : Atom) : a.scalar.value = a.value := by
  cases a with
  | boolean b => cases b <;> rfl
  | _ => rfl

namespace Spelling

mutual

def tree : Spelling → Yaml.Tree
  | .atom _ a _ => .scalar a.scalar
  | .array _ _ items _ => .sequence (treeEach items)
  | .object _ _ fields _ => .mapping (treeFields fields)
termination_by structural p => p

def treeEach : List Spelling → List Yaml.Tree
  | [] => []
  | p :: ps => p.tree :: treeEach ps
termination_by structural ps => ps

def treeFields : List (Key × Spelling) → List (Text × Yaml.Tree)
  | [] => []
  | (k, p) :: fs => (k.name.text, p.tree) :: treeFields fs
termination_by structural fs => fs

end

mutual

/-- The tree says what the spelling does. -/
theorem value_tree (p : Spelling) : p.tree.value = p.value := by
  cases p with
  | atom before a after => exact a.value_scalar
  | array before inner items after => rw [tree, value, Yaml.Tree.value, valueEach_treeEach items]
  | object before inner fields after =>
    rw [tree, value, Yaml.Tree.value, valueFields_treeFields fields]
termination_by structural p

theorem valueEach_treeEach (ps : List Spelling) :
    Yaml.Tree.valueEach (treeEach ps) = valueEach ps := by
  cases ps with
  | nil => rfl
  | cons p ps => rw [treeEach, valueEach, Yaml.Tree.valueEach, value_tree p, valueEach_treeEach ps]
termination_by structural ps

theorem valueFields_treeFields (fs : List (Key × Spelling)) :
    Yaml.Tree.valueFields (treeFields fs) = valueFields fs := by
  cases fs with
  | nil => rfl
  | cons f fs =>
    rw [treeFields, valueFields, Yaml.Tree.valueFields, value_tree f.2, valueFields_treeFields fs]
termination_by structural fs

end

mutual

/-- The tree is as deep as the spelling is nested. -/
theorem depth_tree (p : Spelling) : p.tree.depth = p.nesting := by
  cases p with
  | atom before a after => rfl
  | array before inner items after => rw [tree, nesting, Yaml.Tree.depth, depthEach_treeEach items]
  | object before inner fields after =>
    rw [tree, nesting, Yaml.Tree.depth, depthFields_treeFields fields]
termination_by structural p

theorem depthEach_treeEach (ps : List Spelling) :
    Yaml.Tree.depthEach (treeEach ps) = nestingEach ps := by
  cases ps with
  | nil => rfl
  | cons p ps =>
    rw [treeEach, nestingEach, Yaml.Tree.depthEach, depth_tree p, depthEach_treeEach ps]
termination_by structural ps

theorem depthFields_treeFields (fs : List (Key × Spelling)) :
    Yaml.Tree.depthFields (treeFields fs) = nestingFields fs := by
  cases fs with
  | nil => rfl
  | cons f fs =>
    rw [treeFields, nestingFields, Yaml.Tree.depthFields, depth_tree f.2, depthFields_treeFields fs]
termination_by structural fs

end

end Spelling

end Json

namespace Yaml

open Json (Blank blanks Spelling)

namespace Scanner

/-! ## Runs -/

/-- So many fetches lead from one state to another, none of them past the end. -/
inductive Fetches : Nat → Scanner → Scanner → Prop
  | refl (s : Scanner) : Fetches 0 s s
  | step {n : Nat} {s s' s'' : Scanner} (unended : s.tokens.head? ≠ some .streamEnd)
    (fetched : s.fetch = .ok s') (later : Fetches n s' s'') : Fetches (n + 1) s s''

theorem Fetches.trans {m n : Nat} {s s' s'' : Scanner} (h : Fetches m s s') (h' : Fetches n s' s'') :
    Fetches (m + n) s s'' := by
  induction h with
  | refl => rwa [Nat.zero_add]
  | step hunended hfetched _ ih =>
    rw [Nat.add_right_comm]
    exact .step hunended hfetched (ih h')

theorem run_of_fetches {n : Nat} {s s' : Scanner} (h : Fetches n s s') (fuel : Nat) :
    run (n + fuel) s = run fuel s' := by
  induction h with
  | refl => rw [Nat.zero_add]
  | step hunended hfetched _ ih => rw [Nat.add_right_comm, run_of_fetch hunended hfetched, ih]

/-! ## States inside a spelling -/

/-- Inside so many collections of a spelling: no block collection is open, and no key is required. -/
structure Flows (level : Nat) (s : Scanner) : Prop where
  count : s.count = s.tokens.length
  flowLevel : s.flowLevel = level
  indent : s.indent = -1
  outerIndents : s.outerIndents = []
  free : ∀ k ∈ s.possibleKeys, k.required = false
  unended : s.tokens.head? ≠ some .streamEnd

/-- Where a token starts, and every key that may still be one is near. -/
structure AtToken (level : Nat) (rest : List Char) (s : Scanner) : Prop extends Flows level s where
  starts : StartsToken rest
  stands : s.cursor.rest = rest
  near : ∀ k ∈ s.possibleKeys, s.isStale k = false

section

variable {s : Scanner} {level : Nat} {rest : List Char}

theorem dropStaleKeys_free (h : ∀ k ∈ s.possibleKeys, k.required = false) :
    s.dropStaleKeys =
      .ok { s with possibleKeys := s.possibleKeys.filter fun k => !s.isStale k } := by
  have hnone : (s.possibleKeys.any fun k => s.isStale k && k.required) = false := by
    apply List.any_eq_false.2
    intro k hk
    rw [h k hk, Bool.and_false]
    exact Bool.false_ne_true
  rw [dropStaleKeys, hnone, if_neg Bool.false_ne_true]

theorem skipMark_blanks (bs : List Blank) (hrest : StartsToken rest)
    (hc : s.cursor.rest = blanks bs ++ rest) : s.skipMark = s := by
  have hmark : s.cursor.peek ≠ '\uFEFF' := by
    cases bs with
    | nil => exact (hrest.peek hc).2.2.1
    | cons b bs =>
      rw [Cursor.peek_of_rest hc]
      cases b <;> decide
  rw [skipMark, decide_eq_false hmark, Bool.and_false, if_neg Bool.false_ne_true]

theorem Flows.unwindTo (h : s.Flows level) (column : Int) : s.unwindTo column = s := by
  obtain ⟨cursor, tokens, count, flowLevel, indent, outerIndents, allowsKey, possibleKeys⟩ := s
  obtain rfl : outerIndents = [] := h.outerIndents
  unfold Scanner.unwindTo
  split <;> rfl

/-- Where the next token starts: the blanks before it and the keys left behind are dropped. -/
structure Arrives (s : Scanner) (bs : List Blank) (level : Nat) (rest : List Char)
    (s' : Scanner) : Prop extends AtToken level rest s' where
  tokens : s'.tokens = s.tokens
  cursor : s'.cursor = s.cursor.skip bs.length
  allowsKey : s.allowsKey = true → s'.allowsKey = true
  possibleKeys : s'.possibleKeys = s.possibleKeys.filter fun k => !s'.isStale k

theorem exists_arrives (hs : s.Flows level) (bs : List Blank) (hrest : StartsToken rest)
    (hc : s.cursor.rest = blanks bs ++ rest) : ∃ s', Arrives s bs level rest s' ∧
      (s.skipMark.skipToToken (s.cursor.rest.length + 1)).dropStaleKeys = .ok s' := by
  have hfuel : bs.length < s.cursor.rest.length + 1 := by
    rw [hc, List.length_append, length_blanks]
    omega
  obtain ⟨allowed, hallowed, hskip⟩ := skipToToken_blanks bs hrest hc hfuel
  let t : Scanner := { s with cursor := s.cursor.skip bs.length, allowsKey := allowed }
  have hdrop : t.dropStaleKeys =
      .ok { t with possibleKeys := s.possibleKeys.filter fun k => !t.isStale k } :=
    dropStaleKeys_free hs.free
  rw [skipMark_blanks bs hrest hc, hskip]
  refine ⟨{ t with possibleKeys := s.possibleKeys.filter fun k => !t.isStale k },
    ⟨⟨⟨hs.count, hs.flowLevel, hs.indent, hs.outerIndents, ?_, hs.unended⟩, hrest, ?_, ?_⟩,
      rfl, rfl, hallowed, rfl⟩, hdrop⟩
  · exact fun k hk => hs.free k (List.mem_filter.1 hk).1
  · have hskipped := Cursor.rest_skip hc
    rwa [length_blanks] at hskipped
  · intro k hk
    have hnear := (List.mem_filter.1 hk).2
    rw [Bool.not_eq_true'] at hnear
    exact hnear

/-! ## The kinds of tokens -/

/-- What a fetch does where a character of a spelling starts a token. -/
def fetchFrom (x : Char) : Scanner → Except Fault Scanner :=
  match x with
  | '[' => fetchFlowStart .flowSequenceStart
  | '\x7b' => fetchFlowStart .flowMappingStart
  | ']' => fetchFlowEnd .flowSequenceEnd
  | '\x7d' => fetchFlowEnd .flowMappingEnd
  | ',' => fetchFlowEntry
  | ':' => fetchValue
  | '"' => fetchNode (quotedScalar true)
  | _ => fetchPlain

/-- The characters that tokens of spellings start with. -/
def tokenStarts : List Char := [']', '\x7d', ',', ':'] ++ Json.valueStarts

/-- Whether a character starts a token before what follows it: a colon does so inside a collection,
a hyphen before a digit. -/
structure Starts (level : Nat) (x : Char) (rest : List Char) : Prop where
  mem : x ∈ tokenStarts
  colon : x = ':' → level ≠ 0
  hyphen : x = '-' → isWhite (rest.headD '\x00') = false ∧ rest.headD '\x00' ≠ '-'

theorem Starts.startsToken {x : Char} (h : Starts level x rest) : StartsToken (x :: rest) := by
  have hall : ∀ x ∈ tokenStarts, x ≠ ' ' ∧ x ≠ '#' ∧ x ≠ '\uFEFF' ∧ isBreak x = false := by decide
  intro y hy
  obtain rfl := Option.some.inj hy
  exact hall x h.mem

theorem exists_fetchFrom {x : Char} (hs : s.Flows level) (bs : List Blank) (hx : Starts level x rest)
    (hc : s.cursor.rest = blanks bs ++ x :: rest) :
    ∃ s', Arrives s bs level (x :: rest) s' ∧ s.fetch = s'.fetchFrom x := by
  obtain ⟨s', h, hset⟩ := exists_arrives hs bs hx.startsToken hc
  refine ⟨s', h, ?_⟩
  have hpeek := Cursor.peek_of_rest h.stands
  have hahead : s'.cursor.peekAt 1 = rest.headD '\x00' := by
    unfold Cursor.peekAt
    rw [h.stands]
    rfl
  obtain ⟨hmem, hcolon, hhyphen⟩ := hx
  unfold fetch
  dsimp only
  rw [hset]
  dsimp only [bind, Except.bind]
  rw [h.unwindTo, hpeek, hahead, Cursor.atMarker, Cursor.atMarker, hpeek, hahead, h.flowLevel]
  generalize rest.headD '\x00' = y at hhyphen
  simp only [tokenStarts, Json.valueStarts, Json.numberStarts, List.cons_append, List.nil_append,
    List.mem_cons, List.not_mem_nil, or_false] at hmem
  rcases hmem with rfl | rfl | rfl | rfl | rfl | rfl | rfl | rfl | rfl | rfl | rfl | rfl | rfl |
      rfl | rfl | rfl | rfl | rfl | rfl | rfl | rfl <;>
    simp +decide [fetchFrom, startsPlain, hcolon, hhyphen]

/-! ## Possible keys -/

theorem removeKey_free (h : ∀ k ∈ s.possibleKeys, k.required = false) :
    ∃ ks, s.removeKey = .ok { s with possibleKeys := ks } ∧ ∀ k ∈ ks, k.required = false := by
  unfold removeKey
  cases hfound : s.possibleKey? with
  | none => exact ⟨s.possibleKeys, rfl, h⟩
  | some k =>
    have hfree : k.required = false := h k (List.mem_of_find?_eq_some hfound)
    dsimp only
    rw [hfree, if_neg Bool.false_ne_true]
    exact ⟨_, rfl, fun k hk => h k (List.mem_filter.1 hk).1⟩

/-- What may be a key is remembered where keys are allowed. -/
theorem saveKey_free (hs : s.Flows level) :
    ∃ ks, s.saveKey = .ok { s with possibleKeys := ks } ∧ (∀ k ∈ ks, k.required = false) ∧
      (s.allowsKey = true → ks.head? = some ⟨level, s.count, false, s.cursor.index, s.cursor.line,
        s.cursor.column⟩) := by
  unfold saveKey
  by_cases hallows : s.allowsKey = true
  · obtain ⟨ks, hremove, hfree⟩ := removeKey_free hs.free
    have hindent : decide (s.indent = s.cursor.column) = false := by
      rw [hs.indent]
      exact decide_eq_false (by omega)
    rw [if_pos hallows, hremove]
    dsimp only [bind, Except.bind]
    rw [hindent, Bool.and_false]
    refine ⟨_, rfl, List.forall_mem_cons.2 ⟨rfl, hfree⟩, fun _ => ?_⟩
    rw [hs.flowLevel]
    rfl
  · rw [if_neg hallows]
    exact ⟨s.possibleKeys, rfl, hs.free, fun h => absurd h hallows⟩

/-! ## Single tokens -/

/-- So many fetches that add these tokens, up to what is left. -/
structure Takes (n : Nat) (ts : List Token) (level : Nat) (rest : List Char) (s s' : Scanner) : Prop
    extends Flows level s' where
  fetches : Fetches n s s'
  tokens : s'.tokens = ts.reverse ++ s.tokens
  stands : s'.cursor.rest = rest

theorem Takes.trans {m n level' : Nat} {ts us : List Token} {rest' : List Char} {s' s'' : Scanner}
    (h : Takes m ts level' rest' s s') (h' : Takes n us level rest s' s'') :
    Takes (m + n) (ts ++ us) level rest s s'' where
  toFlows := h'.toFlows
  fetches := h.fetches.trans h'.fetches
  tokens := by rw [h'.tokens, h.tokens, List.reverse_append, List.append_assoc]
  stands := h'.stands

/-- A fetch that adds one token where it starts. -/
theorem takes_one {bs : List Blank} {t : Token} {level' : Nat} {rest' : List Char} {s' s'' : Scanner}
    (hs : s.Flows level) (h : Arrives s bs level rest s') (hfetch : s.fetch = .ok s'')
    (hflows : s''.Flows level') (htokens : s''.tokens = t :: s'.tokens)
    (hrest : s''.cursor.rest = rest') : Takes 1 [t] level' rest' s s'' where
  toFlows := hflows
  fetches := .step hs.unended hfetch (.refl _)
  tokens := by rw [htokens, h.tokens]; rfl
  stands := hrest

/-- A collection starts. -/
theorem takes_start {x : Char} {t : Token} (hs : s.Flows level) (bs : List Blank)
    (hx : Starts level x rest) (hfrom : fetchFrom x = fetchFlowStart t) (ht : t ≠ .streamEnd)
    (hc : s.cursor.rest = blanks bs ++ x :: rest) :
    ∃ s', Takes 1 [t] (level + 1) rest s s' ∧ s'.allowsKey = true := by
  obtain ⟨s', h, hfetch⟩ := exists_fetchFrom hs bs hx hc
  obtain ⟨ks, hsave, hfree, -⟩ := saveKey_free h.toFlows
  rw [hfrom, fetchFlowStart, hsave] at hfetch
  refine ⟨_, takes_one hs h hfetch ⟨?_, ?_, ?_, ?_, hfree, ?_⟩ rfl ?_, rfl⟩
  · exact congrArg (· + 1) h.count
  · exact congrArg (· + 1) h.flowLevel
  · exact h.indent
  · exact h.outerIndents
  · exact fun hend => ht (Option.some.inj hend)
  · exact Cursor.rest_next h.stands

/-- A collection ends. -/
theorem takes_end {x : Char} {t : Token} (hs : s.Flows (level + 1)) (bs : List Blank)
    (hx : Starts (level + 1) x rest) (hfrom : fetchFrom x = fetchFlowEnd t) (ht : t ≠ .streamEnd)
    (hc : s.cursor.rest = blanks bs ++ x :: rest) : ∃ s', Takes 1 [t] level rest s s' := by
  obtain ⟨s', h, hfetch⟩ := exists_fetchFrom hs bs hx hc
  obtain ⟨ks, hremove, hfree⟩ := removeKey_free h.free
  rw [hfrom, fetchFlowEnd, hremove] at hfetch
  refine ⟨_, takes_one hs h hfetch ⟨?_, ?_, ?_, ?_, hfree, ?_⟩ rfl ?_⟩
  · exact congrArg (· + 1) h.count
  · exact congrArg (· - 1) h.flowLevel
  · exact h.indent
  · exact h.outerIndents
  · exact fun hend => ht (Option.some.inj hend)
  · exact Cursor.rest_next h.stands

/-- A comma stands between two items, and the next one may be a key again. -/
theorem takes_entry (hs : s.Flows level) (bs : List Blank)
    (hc : s.cursor.rest = blanks bs ++ ',' :: rest) :
    ∃ s', Takes 1 [.flowEntry] level rest s s' ∧ s'.allowsKey = true := by
  have hx : Starts level ',' rest := ⟨by decide, nofun, nofun⟩
  obtain ⟨s', h, hfetch⟩ := exists_fetchFrom hs bs hx hc
  obtain ⟨ks, hremove, hfree⟩ := removeKey_free (s := s'.allowKey true) h.free
  change s.fetch = fetchFlowEntry s' at hfetch
  rw [fetchFlowEntry, hremove] at hfetch
  refine ⟨_, takes_one hs h hfetch ⟨?_, h.flowLevel, h.indent, h.outerIndents, hfree, nofun⟩ rfl ?_,
    rfl⟩
  · exact congrArg (· + 1) h.count
  · exact Cursor.rest_next h.stands

/-- Whether the last token, of so many characters, is remembered as a key. -/
def MayBeKey (level length : Nat) (s : Scanner) : Prop :=
  ∃ k, s.possibleKeys.head? = some k ∧ k.level = level ∧ s.count = k.number + 1 ∧
    s.cursor.line = k.line ∧ s.cursor.index = k.index + length

/-- A string is remembered as a key where keys are allowed. -/
theorem takes_string (hs : s.Flows level) (bs : List Blank) (name : Json.StringSpelling)
    (hc : s.cursor.rest = blanks bs ++ (name.chars ++ rest)) :
    ∃ s', Takes 1 [.scalar name.text false] level rest s s' ∧
      (s.allowsKey = true → MayBeKey level name.chars.length s') := by
  have hx : Starts level '"' (name.chars.tail ++ rest) := ⟨by decide, nofun, nofun⟩
  obtain ⟨s', h, hfetch⟩ := exists_fetchFrom hs bs hx hc
  have hstands : s'.cursor.rest = name.chars ++ rest := h.stands
  obtain ⟨ks, hsave, hfree, hhead⟩ := saveKey_free h.toFlows
  have hread := quotedScalar_chars name hstands
  change s.fetch = fetchNode (quotedScalar true) s' at hfetch
  rw [fetchNode, hsave] at hfetch
  dsimp only [bind, Except.bind] at hfetch
  rw [hread] at hfetch
  refine ⟨_, takes_one hs h hfetch ⟨?_, h.flowLevel, h.indent, h.outerIndents, hfree, nofun⟩ rfl ?_,
    fun hallows => ⟨_, hhead (h.allowsKey hallows), rfl, rfl, ?_, ?_⟩⟩
  · exact congrArg (· + 1) h.count
  · exact Cursor.rest_skip hstands
  · refine Cursor.line_skip hstands fun x hx => ?_
    exact (Bool.or_eq_false_iff.1 (forall_mem_string name x hx)).1
  · exact Cursor.index_skip hstands

/-- A colon near a possible key on its line makes it a key. -/
theorem takes_colon (hs : s.Flows level) (hlevel : level ≠ 0) {length gap : Nat}
    (hkey : MayBeKey level length s) (hnear : length + gap ≤ maxKeyLength) {t : Token}
    {ts : List Token} (htokens : s.tokens = t :: ts)
    (hc : s.cursor.rest = blanks (List.replicate gap .space) ++ ':' :: rest) :
    ∃ s' : Scanner, s'.Flows level ∧ s.fetch = .ok s' ∧ s'.tokens = .value :: t :: .key :: ts ∧
      s'.cursor.rest = rest := by
  have hx : Starts level ':' rest := ⟨by decide, fun _ => hlevel, nofun⟩
  obtain ⟨s', h, hfetch⟩ := exists_fetchFrom hs _ hx hc
  obtain ⟨k, hhead, hklevel, hnumber, hline, hindex⟩ := hkey
  obtain ⟨ks, hks⟩ : ∃ ks, s.possibleKeys = k :: ks := List.head?_eq_some_iff.1 hhead
  have hcursor := h.cursor
  rw [← length_blanks] at hcursor
  have hfresh : s'.isStale k = false := by
    have hspaces : ∀ x ∈ blanks (List.replicate gap Blank.space), isBreak x = false := by
      intro x hx
      obtain ⟨b, hb, rfl⟩ := List.mem_map.1 hx
      rw [List.eq_of_mem_replicate hb]
      rfl
    have hline' : s'.cursor.line = k.line := by rw [hcursor, Cursor.line_skip hc hspaces, hline]
    have hindex' : s'.cursor.index = k.index + (length + gap) := by
      rw [hcursor, Cursor.index_skip hc, hindex, length_blanks, List.length_replicate,
        Nat.add_assoc]
    rw [isStale, hline', hindex', Nat.add_sub_cancel_left, decide_eq_false (not_not_intro rfl),
      decide_eq_false (Nat.not_lt.2 hnear)]
    rfl
  have hfound : s'.possibleKey? = some k := by
    rw [possibleKey?, h.possibleKeys, hks, List.filter_cons_of_pos (by rw [hfresh]; rfl),
      List.find?_cons_of_pos (by rw [hklevel, h.flowLevel]; exact decide_eq_true rfl)]
  have hone : s'.count - k.number = 1 := by
    rw [h.count, h.tokens, ← hs.count, hnumber]
    omega
  let u := s'.forgetKey.insertAt k.number .key
  have hu : u.tokens = t :: .key :: ts := by
    change s'.tokens.take (s'.count - k.number) ++ .key :: s'.tokens.drop (s'.count - k.number) = _
    rw [hone, h.tokens, htokens]
    rfl
  have hflow : decide (u.flowLevel = 0) = false := by
    rw [show u.flowLevel = level from h.flowLevel]
    exact decide_eq_false hlevel
  change s.fetch = fetchValue s' at hfetch
  rw [fetchValue, hfound] at hfetch
  dsimp only at hfetch
  rw [hflow, Bool.false_and, if_neg Bool.false_ne_true] at hfetch
  refine ⟨(u.allowKey false).single .value,
    ⟨?_, h.flowLevel, h.indent, h.outerIndents, ?_, nofun⟩, hfetch, ?_, ?_⟩
  · change s'.count + 1 + 1 = u.tokens.length + 1
    rw [hu, h.count, h.tokens, htokens]
    rfl
  · exact fun k hk => h.free k (List.mem_filter.1 hk).1
  · exact congrArg (Token.value :: ·) hu
  · exact Cursor.rest_next h.stands

/-- A key with its colon. -/
theorem takes_key (hs : s.Flows level) (hlevel : level ≠ 0) (hallows : s.allowsKey = true)
    (bs : List Blank) (k : Json.Key) (hc : s.cursor.rest = blanks bs ++ (k.chars ++ ':' :: rest)) :
    ∃ s', Takes 2 [.key, .scalar k.name.text false, .value] level rest s s' := by
  rw [Json.Key.chars, List.append_assoc] at hc
  obtain ⟨s₁, h₁, hkey⟩ := takes_string hs bs k.name hc
  obtain ⟨s₂, hflows, hfetch, htokens, hstands⟩ :=
    takes_colon h₁.toFlows hlevel (hkey hallows) k.near h₁.tokens h₁.stands
  exact ⟨s₂, hflows, h₁.fetches.trans (.step h₁.unended hfetch (.refl _)), htokens, hstands⟩

/-- What plain scalars of spellings start with. -/
def plainStarts : List Char := ['n', 't', 'f'] ++ Json.numberStarts

/-- A word or a number is taken with the blanks after it. -/
theorem takes_plain (hs : s.Flows level) (bs bs' : List Blank) {x : Char} {cs : List Char}
    (hx : x ∈ plainStarts) (hhyphen : x = '-' → ∃ y ys, cs = y :: ys ∧ isWhite y = false ∧ y ≠ '-')
    (hcs : ∀ y ∈ x :: cs, goesOnPlain y = true) (hrest : EndsValue rest)
    (hlevel : rest ≠ [] → level ≠ 0)
    (hc : s.cursor.rest = blanks bs ++ (x :: cs ++ (blanks bs' ++ rest))) :
    ∃ s', Takes 1 [.scalar (text (x :: cs)) true] level rest s s' := by
  have hplain : x ∈ tokenStarts ∧ x ≠ ':' ∧ fetchFrom x = fetchPlain := by
    have hall : ∀ x ∈ plainStarts, x ∈ tokenStarts ∧ x ≠ ':' := by decide
    refine ⟨(hall x hx).1, (hall x hx).2, ?_⟩
    simp only [plainStarts, Json.numberStarts, List.cons_append, List.nil_append, List.mem_cons,
      List.not_mem_nil, or_false] at hx
    rcases hx with rfl | rfl | rfl | rfl | rfl | rfl | rfl | rfl | rfl | rfl | rfl | rfl | rfl | rfl <;>
      rfl
  have hstarts : Starts level x (cs ++ (blanks bs' ++ rest)) := by
    refine ⟨hplain.1, fun h => absurd h hplain.2.1, fun h => ?_⟩
    obtain ⟨y, ys, rfl, hy⟩ := hhyphen h
    exact hy
  obtain ⟨s', h, hfetch⟩ := exists_fetchFrom hs bs hstarts hc
  obtain ⟨ks, hsave, hfree, -⟩ := saveKey_free h.toFlows
  have hflow : rest ≠ [] → decide (s'.flowLevel ≠ 0) = true := by
    rw [h.flowLevel]
    exact fun hne => decide_eq_true (hlevel hne)
  obtain ⟨broken, hread⟩ := readPlain_chars bs' hcs hrest hflow h.stands
  have hindent : s'.indent + 1 = 0 := by rw [h.indent]; rfl
  rw [hplain.2.2, fetchPlain, hsave] at hfetch
  dsimp only [bind, Except.bind] at hfetch
  rw [hindent, hread] at hfetch
  refine ⟨_, takes_one hs h hfetch ⟨?_, h.flowLevel, h.indent, h.outerIndents, hfree, nofun⟩ rfl ?_⟩
  · exact congrArg (· + 1) h.count
  · have hrest : s'.cursor.rest = (x :: cs ++ blanks bs') ++ rest := by
      rw [h.stands, List.append_assoc]
      rfl
    have hskip := Cursor.rest_skip hrest
    rwa [List.length_append, length_blanks] at hskip

/-! ## Values -/

theorem goesOnPlain_of_numberCharacters {x : Char} (h : x ∈ Json.numberCharacters) :
    goesOnPlain x = true := by
  revert x
  decide

/-- An atom is one scalar. -/
theorem takes_atom (a : Json.Atom) (hs : s.Flows level) (bs bs' : List Blank)
    (hrest : EndsValue rest) (hlevel : rest ≠ [] → level ≠ 0)
    (hc : s.cursor.rest = blanks bs ++ (a.chars ++ (blanks bs' ++ rest))) :
    ∃ s' after, Takes 1 [.scalar a.scalar.text a.scalar.plain] level (blanks after ++ rest) s s' := by
  have hword : ∀ {x : Char} {cs : List Char}, a.chars = x :: cs → x ∈ plainStarts →
      (x = '-' → ∃ y ys, cs = y :: ys ∧ isWhite y = false ∧ y ≠ '-') →
      (∀ y ∈ x :: cs, goesOnPlain y = true) →
      ∃ s' after, Takes 1 [.scalar (text a.chars) true] level (blanks after ++ rest) s s' := by
    intro x cs hchars hx hhyphen hcs
    rw [hchars] at hc ⊢
    obtain ⟨s', h⟩ := takes_plain hs bs bs' hx hhyphen hcs hrest hlevel hc
    exact ⟨s', [], h⟩
  cases a with
  | null => exact hword rfl (by decide) nofun (by decide)
  | boolean b =>
    cases b with
    | true => exact hword rfl (by decide) nofun (by decide)
    | false => exact hword rfl (by decide) nofun (by decide)
  | number n =>
    have hdigit : ∀ d : Fin 10, isWhite (Json.digitChar d) = false ∧ Json.digitChar d ≠ '-' := by
      decide
    have hstart : ∀ x ∈ Json.numberStarts, x ∈ plainStarts := by decide
    obtain ⟨x, hx, cs, hcs⟩ := n.exists_first
    have hhyphen : x = '-' → ∃ y ys, cs = y :: ys ∧ isWhite y = false ∧ y ≠ '-' := by
      rintro rfl
      obtain ⟨ds, hds⟩ := n.exists_chars_eq
      rw [hcs, Json.NumberSpelling.signChars] at hds
      cases hneg : n.negative with
      | false =>
        rw [hneg] at hds
        exact absurd (List.cons.inj hds).1.symm (hdigit _).2
      | true =>
        rw [hneg] at hds
        exact ⟨_, _, (List.cons.inj hds).2, hdigit _⟩
    have hall : ∀ y ∈ x :: cs, goesOnPlain y = true := by
      rw [← hcs]
      exact fun y hy => goesOnPlain_of_numberCharacters (n.mem_numberCharacters y hy)
    exact hword hcs (hstart x hx) hhyphen hall
  | string name =>
    obtain ⟨s', h, -⟩ := takes_string hs bs name hc
    exact ⟨s', bs', h⟩

/-- Behind an item or a field stands a comma or the closing bracket. -/
theorem endsValue_following {close : Char} (h : close ∈ closers) (css : List (List Char)) :
    EndsValue (following ',' css ++ close :: rest) := by
  cases css with
  | nil =>
    intro x hx
    obtain rfl := Option.some.inj hx
    exact h
  | cons cs css =>
    intro x hx
    obtain rfl := Option.some.inj hx
    decide

end

mutual

/-- The characters of a value are split into the tokens of its tree. -/
theorem takes_core (p : Spelling) {s : Scanner} {level : Nat} {rest : List Char} (hs : s.Flows level)
    (bs : List Blank) (hrest : EndsValue rest) (hlevel : rest ≠ [] → level ≠ 0)
    (hc : s.cursor.rest = blanks bs ++ (p.core ++ (blanks p.after ++ rest))) :
    ∃ n s' after, n ≤ p.core.length ∧
      Takes n p.tree.tokens level (blanks after ++ rest) s s' := by
  cases p with
  | atom before a after =>
    obtain ⟨x, -, cs, hcore⟩ := (Spelling.atom before a after).exists_first
    obtain ⟨s', last, h⟩ := takes_atom a hs bs after hrest hlevel hc
    exact ⟨1, s', last, by rw [hcore]; exact Nat.succ_pos _, h⟩
  | array before inner items after =>
    have hopen : s.cursor.rest = blanks bs ++ '[' :: (blanks inner ++
        (separated ',' (Spelling.charsEach items) ++ ']' :: (blanks after ++ rest))) := by
      rw [hc, Spelling.core]
      simp [Spelling.after]
    have hstarts : ∀ l cs, Starts l '[' cs ∧ Starts l ']' cs :=
      fun _ _ => ⟨⟨by decide, nofun, nofun⟩, ⟨by decide, nofun, nofun⟩⟩
    obtain ⟨s₁, h₁, -⟩ :=
      takes_start (t := .flowSequenceStart) hs bs (hstarts _ _).1 rfl nofun hopen
    obtain ⟨n, s₂, last, hn, h₂⟩ := takes_items items h₁.toFlows inner h₁.stands
    obtain ⟨s₃, h₃⟩ :=
      takes_end (t := .flowSequenceEnd) h₂.toFlows last (hstarts _ _).2 rfl nofun h₂.stands
    refine ⟨1 + n + 1, s₃, after, ?_, (h₁.trans h₂).trans h₃⟩
    simp only [Spelling.core, List.length_append, List.length_cons, List.length_nil]
    omega
  | object before inner fields after =>
    have hopen : s.cursor.rest = blanks bs ++ '\x7b' :: (blanks inner ++
        (separated ',' (Spelling.charsFields fields) ++ '\x7d' :: (blanks after ++ rest))) := by
      rw [hc, Spelling.core]
      simp [Spelling.after]
    have hstarts : ∀ l cs, Starts l '\x7b' cs ∧ Starts l '\x7d' cs :=
      fun _ _ => ⟨⟨by decide, nofun, nofun⟩, ⟨by decide, nofun, nofun⟩⟩
    obtain ⟨s₁, h₁, hallows⟩ :=
      takes_start (t := .flowMappingStart) hs bs (hstarts _ _).1 rfl nofun hopen
    obtain ⟨n, s₂, last, hn, h₂⟩ := takes_fields fields h₁.toFlows hallows inner h₁.stands
    obtain ⟨s₃, h₃⟩ :=
      takes_end (t := .flowMappingEnd) h₂.toFlows last (hstarts _ _).2 rfl nofun h₂.stands
    refine ⟨1 + n + 1, s₃, after, ?_, (h₁.trans h₂).trans h₃⟩
    simp only [Spelling.core, List.length_append, List.length_cons, List.length_nil]
    omega
termination_by sizeOf p

theorem takes_items (ps : List Spelling) {s : Scanner} {level : Nat} {rest : List Char}
    (hs : s.Flows (level + 1)) (bs : List Blank)
    (hc : s.cursor.rest = blanks bs ++ (separated ',' (Spelling.charsEach ps) ++ ']' :: rest)) :
    ∃ n s' after, n ≤ (separated ',' (Spelling.charsEach ps)).length ∧
      Takes n (separated .flowEntry (Tree.tokensEach (Spelling.treeEach ps))) (level + 1)
        (blanks after ++ ']' :: rest) s s' := by
  cases ps with
  | nil => exact ⟨0, s, bs, Nat.le_refl _, hs, .refl s, rfl, hc⟩
  | cons p ps =>
    have hfirst : s.cursor.rest = blanks (bs ++ p.before) ++ (p.core ++ (blanks p.after ++
        (following ',' (Spelling.charsEach ps) ++ ']' :: rest))) := by
      rw [hc, Spelling.charsEach, separated]
      simp
    obtain ⟨m, s₁, mid, hm, h₁⟩ := takes_core p hs _ (endsValue_following (by decide) _)
      (fun _ => Nat.succ_ne_zero level) hfirst
    obtain ⟨n, s₂, last, hn, h₂⟩ := takes_moreItems ps h₁.toFlows mid h₁.stands
    refine ⟨m + n, s₂, last, ?_, h₁.trans h₂⟩
    simp only [Spelling.charsEach, separated, List.length_append]
    omega
termination_by sizeOf ps

theorem takes_moreItems (ps : List Spelling) {s : Scanner} {level : Nat} {rest : List Char}
    (hs : s.Flows (level + 1)) (bs : List Blank)
    (hc : s.cursor.rest = blanks bs ++ (following ',' (Spelling.charsEach ps) ++ ']' :: rest)) :
    ∃ n s' after, n ≤ (following ',' (Spelling.charsEach ps)).length ∧
      Takes n (following .flowEntry (Tree.tokensEach (Spelling.treeEach ps))) (level + 1)
        (blanks after ++ ']' :: rest) s s' := by
  cases ps with
  | nil => exact ⟨0, s, bs, Nat.le_refl _, hs, .refl s, rfl, hc⟩
  | cons p ps =>
    have hcomma : s.cursor.rest = blanks bs ++ ',' :: (blanks p.before ++ (p.core ++ (blanks p.after ++
        (following ',' (Spelling.charsEach ps) ++ ']' :: rest)))) := by
      rw [hc, Spelling.charsEach, following_cons]
      simp
    obtain ⟨s₁, h₁, -⟩ := takes_entry hs bs hcomma
    obtain ⟨m, s₂, mid, hm, h₂⟩ := takes_core p h₁.toFlows _ (endsValue_following (by decide) _)
      (fun _ => Nat.succ_ne_zero level) h₁.stands
    obtain ⟨n, s₃, last, hn, h₃⟩ := takes_moreItems ps h₂.toFlows mid h₂.stands
    refine ⟨1 + m + n, s₃, last, ?_, (h₁.trans h₂).trans h₃⟩
    simp only [Spelling.charsEach, following_cons, List.length_append, List.length_cons]
    omega
termination_by sizeOf ps

theorem takes_fields (fs : List (Json.Key × Spelling)) {s : Scanner} {level : Nat} {rest : List Char}
    (hs : s.Flows (level + 1)) (hallows : s.allowsKey = true) (bs : List Blank)
    (hc : s.cursor.rest = blanks bs ++
      (separated ',' (Spelling.charsFields fs) ++ '\x7d' :: rest)) :
    ∃ n s' after, n ≤ (separated ',' (Spelling.charsFields fs)).length ∧
      Takes n (separated .flowEntry (Tree.tokensFields (Spelling.treeFields fs))) (level + 1)
        (blanks after ++ '\x7d' :: rest) s s' := by
  cases fs with
  | nil => exact ⟨0, s, bs, Nat.le_refl _, hs, .refl s, rfl, hc⟩
  | cons f fs =>
    cases f with
    | mk k p =>
      have hfirst : s.cursor.rest = blanks (bs ++ k.before) ++ (k.chars ++ ':' :: (blanks p.before ++
          (p.core ++ (blanks p.after ++
            (following ',' (Spelling.charsFields fs) ++ '\x7d' :: rest))))) := by
        rw [hc, Spelling.charsFields, separated]
        simp
      obtain ⟨s₁, h₁⟩ := takes_key hs (Nat.succ_ne_zero level) hallows _ k hfirst
      obtain ⟨m, s₂, mid, hm, h₂⟩ := takes_core p h₁.toFlows _ (endsValue_following (by decide) _)
        (fun _ => Nat.succ_ne_zero level) h₁.stands
      obtain ⟨n, s₃, last, hn, h₃⟩ := takes_moreFields fs h₂.toFlows mid h₂.stands
      refine ⟨2 + m + n, s₃, last, ?_, (h₁.trans h₂).trans h₃⟩
      have hname : 0 < k.chars.length := Nat.succ_pos _
      simp only [Spelling.charsFields, separated, List.length_append, List.length_cons]
      omega
termination_by sizeOf fs

theorem takes_moreFields (fs : List (Json.Key × Spelling)) {s : Scanner} {level : Nat}
    {rest : List Char} (hs : s.Flows (level + 1)) (bs : List Blank)
    (hc : s.cursor.rest = blanks bs ++
      (following ',' (Spelling.charsFields fs) ++ '\x7d' :: rest)) :
    ∃ n s' after, n ≤ (following ',' (Spelling.charsFields fs)).length ∧
      Takes n (following .flowEntry (Tree.tokensFields (Spelling.treeFields fs))) (level + 1)
        (blanks after ++ '\x7d' :: rest) s s' := by
  cases fs with
  | nil => exact ⟨0, s, bs, Nat.le_refl _, hs, .refl s, rfl, hc⟩
  | cons f fs =>
    cases f with
    | mk k p =>
      have hcomma : s.cursor.rest = blanks bs ++ ',' :: (blanks k.before ++ (k.chars ++ ':' ::
          (blanks p.before ++ (p.core ++ (blanks p.after ++
            (following ',' (Spelling.charsFields fs) ++ '\x7d' :: rest)))))) := by
        rw [hc, Spelling.charsFields, following_cons]
        simp
      obtain ⟨s₁, h₁, hallows⟩ := takes_entry hs bs hcomma
      obtain ⟨s₂, h₂⟩ := takes_key h₁.toFlows (Nat.succ_ne_zero level) hallows _ k h₁.stands
      obtain ⟨m, s₃, mid, hm, h₃⟩ := takes_core p h₂.toFlows _ (endsValue_following (by decide) _)
        (fun _ => Nat.succ_ne_zero level) h₂.stands
      obtain ⟨n, s₄, last, hn, h₄⟩ := takes_moreFields fs h₃.toFlows mid h₃.stands
      refine ⟨1 + 2 + m + n, s₄, last, ?_, ((h₁.trans h₂).trans h₃).trans h₄⟩
      have hname : 0 < k.chars.length := Nat.succ_pos _
      simp only [Spelling.charsFields, following_cons, List.length_append, List.length_cons]
      omega
termination_by sizeOf fs

end

/-- After the blanks at the end comes the end of the stream. -/
theorem fetch_at_end {s : Scanner} {level : Nat} (hs : s.Flows level) (bs : List Blank)
    (hc : s.cursor.rest = blanks bs ++ []) :
    ∃ s', s.fetch = .ok s' ∧ s'.tokens = .streamEnd :: s.tokens := by
  have hnil : StartsToken [] := nofun
  obtain ⟨s', h, hset⟩ := exists_arrives hs bs hnil hc
  obtain ⟨ks, hremove, -⟩ := removeKey_free h.free
  have hpeek : s'.cursor.peek = '\x00' := by
    unfold Cursor.peek
    rw [h.stands]
    rfl
  unfold fetch
  dsimp only
  rw [hset]
  dsimp only [bind, Except.bind]
  have hend : atEnd '\x00' = true := rfl
  rw [h.unwindTo, hpeek, if_pos hend, fetchStreamEnd, h.unwindTo, hremove]
  exact ⟨_, rfl, congrArg (Token.streamEnd :: ·) h.tokens⟩

theorem flows_start (cs : List Char) : (start cs).Flows 0 := ⟨rfl, rfl, rfl, rfl, nofun, nofun⟩

end Scanner

/-- A spelling is split into the tokens of its tree and the end of the stream. -/
theorem tokens_chars (p : Spelling) : tokens p.chars = p.tree.tokens ++ [.streamEnd] := by
  have hc : (Scanner.start p.chars).cursor.rest =
      blanks p.before ++ (p.core ++ (blanks p.after ++ [])) := by
    rw [List.append_nil, ← List.append_assoc]
    rfl
  have hnil : EndsValue [] := by
    intro x hx
    cases hx
  obtain ⟨n, s, after, hn, h⟩ :=
    Scanner.takes_core p (Scanner.flows_start _) p.before hnil (fun hne => absurd rfl hne) hc
  obtain ⟨s', hfetch, htokens⟩ := Scanner.fetch_at_end h.toFlows after h.stands
  obtain ⟨fuel, hfuel⟩ : ∃ fuel, p.chars.length + 2 = n + (fuel + 1) := by
    have hcore : p.core.length ≤ p.chars.length := by
      rw [Spelling.chars, List.length_append, List.length_append]
      omega
    exact ⟨p.chars.length + 1 - n, by omega⟩
  rw [tokens, hfuel, Scanner.run_of_fetches h.fetches, Scanner.run_of_fetch h.unended hfetch,
    Scanner.run_of_streamEnd htokens, htokens, h.tokens]
  simp [Scanner.start]

end Yaml

end DataShape
